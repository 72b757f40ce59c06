import Mathlib.Data.List.Forall2
import Pamphlet.Proofs.Page.Fill
import Pamphlet.Proofs.Page.Tokens

/-!
# Filling in variables on a tree

The texts of a tree are the texts, tails and attribute values of its elements (`treeTexts`), and
what is left of it without them is its outline. Filling in variables keeps the outline and makes one
pass over each text (`treeTexts_fillTree`). The tokens met in all passes are counted, and the names
without a value are listed, each once and in order: `fillTree_replaces`.
-/

namespace Pamphlet.Page.Substitution

open Pamphlet.Markup

/-! ## Outlines and texts -/

/-- The element with nothing in its texts. -/
def blankHere (e : Element) : Element :=
  { e with
    text := e.text.map fun _ => ""
    tail := e.tail.map fun _ => ""
    attributes := e.attributes.map fun a => (a.1, "") }

/-- The tree with nothing in its texts. -/
def outline (e : Element) : Element :=
  e.mapAll blankHere

/-- The texts of a tree, element by element, parents before children. -/
def treeTexts (e : Element) : List String :=
  e.descendants.flatMap textsHere

section

variable (values : Values)

theorem outline_eq (e : Element) :
    outline e = { blankHere e with children := e.children.map outline } :=
  Element.mapAll_eq blankHere e

/-- **Filling in keeps the outline** of a tree: everything but its texts. -/
theorem outline_fillTree (e : Element) : outline (fillTree values e) = outline e := by
  induction e using Element.childInduction with
  | node e ih =>
    have hchildren : (e.children.map (fillTree values)).map outline = e.children.map outline := by
      rw [List.map_map]
      exact List.map_congr_left ih
    rw [outline_eq, outline_eq e, fillTree_eq]
    simp only [hchildren, blankHere, fillHere, Option.map_map, List.map_map]
    rfl

theorem treeTexts_eq (e : Element) : treeTexts e = textsHere e ++ e.children.flatMap treeTexts := by
  unfold treeTexts
  rw [Element.descendants_eq, List.flatMap_cons, List.flatMap_assoc]

theorem textsHere_fillTree (e : Element) :
    textsHere (fillTree values e) = (textsHere e).map (fill values) := by
  rw [fillTree_eq]
  simp [textsHere, fillHere, Option.toList_map]

/-- Every text of a tree is filled in by itself, in its place. -/
theorem treeTexts_fillTree (e : Element) :
    treeTexts (fillTree values e) = (treeTexts e).map (fill values) := by
  induction e using Element.childInduction with
  | node e ih =>
    rw [treeTexts_eq, treeTexts_eq e, textsHere_fillTree, fillTree_children, List.map_append,
      List.flatMap_map, List.map_flatMap]
    congr 1
    exact List.flatMap_congr ih

end

theorem treeTokens_eq (e : Element) : treeTokens e = (treeTexts e).flatMap tokens := by
  unfold treeTokens treeTexts
  rw [List.flatMap_assoc]

/-! ## Counts and names -/

section

variable (values : Values) (ts : List Token)

theorem nodup_eraseDups (names : List String) : names.eraseDups.Nodup := by
  induction hn : names.length using Nat.strong_induction_on generalizing names with
  | _ n ih =>
    cases names with
    | nil => exact List.nodup_nil
    | cons name rest =>
      have hshorter := List.length_filter_le (fun b => !b == name) rest
      rw [List.length_cons] at hn
      rw [List.eraseDups_cons, List.nodup_cons]
      refine ⟨?_, ih _ (by omega) _ rfl⟩
      rw [List.mem_eraseDups, List.mem_filter]
      simp

/-- The names without a value are listed in increasing order, so each is listed once. -/
theorem unknownNames_increasing : (unknownNames values ts).Pairwise (· < ·) := by
  unfold unknownNames
  have hle : ∀ a b : String, (!decide (b < a)) = true ↔ a ≤ b := by
    intro a b
    rw [Bool.not_eq_true', decide_eq_false_iff_not, String.not_lt]
  refine List.Pairwise.imp_of_mem (S := (· < ·)) ?_
    ((List.pairwise_mergeSort ?_ ?_ _).and
      (((List.mergeSort_perm _ _).nodup_iff).2 (nodup_eraseDups _)))
  · rintro a b - - ⟨hab, hne⟩
    exact String.not_le.1 fun hba => hne (String.le_antisymm ((hle a b).1 hab) hba)
  · intro a b c hab hbc
    exact (hle a c).2 (String.le_trans ((hle a b).1 hab) ((hle b c).1 hbc))
  · intro a b
    rw [Bool.or_eq_true, hle, hle]
    exact String.le_total a b

/-- A name is unknown if a variable has it and the values do not. -/
theorem mem_unknownNames {name : String} :
    name ∈ unknownNames values ts ↔
      ∃ t ∈ ts, String.ofList t.name = name ∧ t.value? values = none := by
  unfold unknownNames
  rw [List.mem_mergeSort, List.mem_eraseDups, List.mem_map]
  simp only [List.mem_filter, Option.isNone_iff_eq_none]
  constructor
  · rintro ⟨t, ⟨ht, hnone⟩, hname⟩
    exact ⟨t, ht, hname, hnone⟩
  · rintro ⟨t, ht, hname, hnone⟩
    exact ⟨t, ⟨ht, hnone⟩, hname⟩

end

/-! ## Trees -/

/-- **Filling in variables is one pass over each text of a tree.** The outline is kept; each text is
replaced as one pass over it says; what is counted are the tokens of known names that all passes
have met, and what is listed are the unknown names that they have met, each once and in increasing
order. -/
theorem fillTree_replaces (values : Values) (e : Element) :
    outline (fillTree values e) = outline e ∧
      ∃ passes : List (String × List Token),
        List.Forall₂ (fun s pass => Replaces values s.toList pass.1.toList pass.2) (treeTexts e)
          passes ∧
        treeTexts (fillTree values e) = passes.map (·.1) ∧
        countKnown values (treeTokens e) =
          ((passes.flatMap (·.2)).filter fun t => (t.value? values).isSome).length ∧
        (unknownNames values (treeTokens e)).Pairwise (· < ·) ∧
        ∀ name, name ∈ unknownNames values (treeTokens e) ↔
          ∃ t ∈ passes.flatMap (·.2), String.ofList t.name = name ∧ t.value? values = none := by
  have htokens : ((treeTexts e).map fun s => (fill values s, tokens s)).flatMap (·.2) =
      treeTokens e := by
    rw [treeTokens_eq, List.flatMap_map]
  refine ⟨outline_fillTree values e, (treeTexts e).map fun s => (fill values s, tokens s),
    ?_, ?_, ?_, unknownNames_increasing values _, ?_⟩
  · rw [List.forall₂_map_right_iff, List.forall₂_same]
    exact fun s _ => replaces_fill values s
  · rw [treeTexts_fillTree, List.map_map]
    rfl
  · rw [htokens, countKnown, List.countP_eq_length_filter]
  · intro name
    rw [htokens]
    exact mem_unknownNames values _

end Pamphlet.Page.Substitution
