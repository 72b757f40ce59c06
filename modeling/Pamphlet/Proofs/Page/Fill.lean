import Pamphlet.Page.Substitution
import Pamphlet.Proofs.Markup.Place

/-!
# What filling in variables leaves alone

A text without an opening brace has no token and is not changed (`fill_eq_self`). A tree that is
filled keeps its shape: the label of each element, and the number and the order of its children
(`childrenNamed_fillTree`); only texts and attribute values change.
-/

namespace Pamphlet.Page.Substitution

open Pamphlet.Markup

/-! ## Texts -/

theorem token?_cons {c : Char} (cs : List Char) (h : c ≠ '{') : token? (c :: cs) = none := by
  unfold token?
  split
  · rename_i heq
    exact absurd (List.cons.inj heq).1 h
  · rfl

/-- No token begins before the first brace. -/
theorem pieces_append {cs : List Char} (ds : List Char) (h : '{' ∉ cs) :
    pieces (cs ++ ds) = cs.map .char ++ pieces ds := by
  induction cs with
  | nil => rfl
  | cons c cs ih =>
    have hc : c ≠ '{' := fun hc => h (hc ▸ List.mem_cons_self)
    have hrest : '{' ∉ cs := fun hmem => h (List.mem_cons_of_mem c hmem)
    rw [List.cons_append, pieces]
    split
    · rename_i t rest htoken
      rw [token?_cons _ hc] at htoken
      cases htoken
    · simp only
      rw [ih hrest]
      rfl

theorem flatMap_filled_chars (values : Values) (cs : List Char) :
    (cs.map Piece.char).flatMap (Piece.filled values) = cs := by
  induction cs with
  | nil => rfl
  | cons c cs ih =>
    rw [List.map_cons, List.flatMap_cons, ih]
    rfl

/-- What has no brace can be filled in apart from what comes after it. -/
theorem fill_append {values : Values} {s : String} (t : String) (h : '{' ∉ s.toList) :
    fill values (s ++ t) = s ++ fill values t := by
  unfold fill
  rw [String.toList_append, pieces_append _ h, List.flatMap_append, flatMap_filled_chars,
    String.ofList_append, String.ofList_toList]

theorem fill_empty (values : Values) : fill values "" = "" := by
  unfold fill
  rw [show "".toList = [] from rfl, pieces]
  rfl

/-- A text without braces has no variables. -/
theorem fill_eq_self {values : Values} {s : String} (h : '{' ∉ s.toList) : fill values s = s := by
  have happend : fill values (s ++ "") = s ++ fill values "" := fill_append "" h
  rwa [String.append_empty, fill_empty, String.append_empty] at happend

/-- An address within the page leads to the filled name. -/
theorem fill_address (values : Values) (name : String) :
    fill values ("#" ++ name) = "#" ++ fill values name :=
  fill_append name (by decide)

/-! ## Trees -/

section

variable (values : Values)

theorem fillTree_eq (e : Element) :
    fillTree values e = { fillHere values e with children := e.children.map (fillTree values) } :=
  Element.mapAll_eq (fillHere values) e

theorem fillTree_children (e : Element) :
    (fillTree values e).children = e.children.map (fillTree values) :=
  Element.children_mapAll (fillHere values) (fun _ => rfl) e

/-- Filling in changes the values of attributes, not their names. -/
theorem fillTree_attributes (e : Element) :
    (fillTree values e).attributes = e.attributes.map fun a => (a.1, fill values a.2) := by
  cases e
  rfl

theorem hasTag_fillTree (e : Element) (name : String) :
    (fillTree values e).hasTag name = e.hasTag name :=
  Element.hasTag_mapAll (fillHere values) (fun _ => rfl) e name

theorem childrenNamed_fillTree (e : Element) (name : String) :
    (fillTree values e).childrenNamed name = (e.childrenNamed name).map (fillTree values) := by
  unfold Element.childrenNamed
  rw [fillTree_children, List.filter_map]
  congr 1
  refine List.filter_congr fun child _ => ?_
  exact hasTag_fillTree values child name

/-- Which elements there are and where does not change. -/
theorem grandchildrenNamed_fillTree (e : Element) (parent name : String) :
    (fillTree values e).grandchildrenNamed parent name =
      (e.grandchildrenNamed parent name).map (fillTree values) := by
  unfold Element.grandchildrenNamed
  rw [childrenNamed_fillTree, List.flatMap_map, List.map_flatMap]
  congr 1
  funext child
  exact childrenNamed_fillTree values child name

theorem get?_fillTree (e : Element) (name : String) :
    (fillTree values e).attributes.get? name = (e.attributes.get? name).map (fill values) := by
  rw [fillTree_attributes]
  unfold Attributes.get?
  induction e.attributes with
  | nil => rfl
  | cons a rest ih =>
    rw [List.map_cons, List.lookup_cons, List.lookup_cons]
    split
    · rfl
    · exact ih

theorem descendant?_fillTree (e : Element) (path : List Nat) :
    (fillTree values e).descendant? path = (e.descendant? path).map (fillTree values) :=
  Element.descendant?_mapAll (fillHere values) (fun _ => rfl) e path

end

end Pamphlet.Page.Substitution
