import Mathlib.Data.List.Nodup
import Pamphlet.Markup.Content
import Pamphlet.Proofs.Markup.Lexed
import Pamphlet.Proofs.Markup.Namespace

/-!
# Values and tags

The values of attributes and the defaults that a document type declares hold only characters that a
document may hold (`attributeValue_formed`), and a tag that is completed with them has attributes of
different names (`complete_formed`).
-/

namespace Pamphlet.Markup

open Scanner

structure AttributeRule.Formed (rule : AttributeRule) : Prop where
  name : IsAttributeName rule.name
  default : ∀ s ∈ rule.default, IsText s.toList

/-- A document type whose texts and names a document may hold. -/
structure Dtd.Formed (d : Dtd) : Prop where
  entities : ∀ name text, (name, Entity.internal text) ∈ d.entities → IsText text
  rules : ∀ element rule, (element, rule) ∈ d.rules → rule.Formed

namespace Dtd

/-! ## Values -/

theorem pieces_formed (after : List Char) {text : List Char} (h : IsText text)
    (begun : Option (Partial × List Char)) : ∀ p ∈ pieces after begun text, p.Formed := by
  induction text generalizing begun with
  | nil =>
    cases begun with
    | none => exact List.forall_mem_nil _
    | some b => exact List.forall_mem_singleton.2 trivial
  | cons c cs ih =>
    obtain ⟨hc, hcs⟩ := List.forall_mem_cons.1 h
    have hmore : ∀ p : Piece, p.Formed → ∀ begun, ∀ q ∈ p :: pieces after begun cs, q.Formed :=
      fun p hp begun => List.forall_mem_cons.2 ⟨hp, ih hcs begun⟩
    cases begun with
    | none =>
      rw [pieces]
      split
      · exact ih hcs _
      split
      · exact List.forall_mem_singleton.2 trivial
      split
      · exact hmore .halfLineEnd trivial _
      split
      · exact hmore .blank trivial _
      · exact hmore (.char c) hc _
    | some b =>
      obtain ⟨p, ampersand⟩ := b
      rw [pieces]
      split
      · exact List.forall_mem_singleton.2 trivial
      · exact ih hcs _
      · rename_i r hr
        exact hmore (.reference r _) (next_formed hr) _

theorem fillPieces_formed {lineEnds : Bool} {expand : String → Except EntityBreach (List Char)}
    (hexpand : ∀ name cs, expand name = .ok cs → IsText cs) {ps : List Piece}
    (h : ∀ p ∈ ps, p.Formed)
    {cs : List Char} (hfill : fillPieces lineEnds expand ps = .ok cs) : IsText cs := by
  induction ps generalizing cs with
  | nil =>
    cases hfill
    exact isText_nil
  | cons p ps ih =>
    obtain ⟨hp, hps⟩ := List.forall_mem_cons.1 h
    cases p with
    | char c =>
      obtain ⟨rest, hrest, he⟩ := bind_ok hfill
      cases he
      exact isText_cons hp (ih hps hrest)
    | blank =>
      obtain ⟨rest, hrest, he⟩ := bind_ok hfill
      cases he
      exact isText_cons (by decide) (ih hps hrest)
    | halfLineEnd =>
      obtain ⟨rest, hrest, he⟩ := bind_ok hfill
      cases he
      split
      · exact ih hps hrest
      · exact isText_cons (by decide) (ih hps hrest)
    | bad left => cases hfill
    | reference r left =>
      cases r with
      | number c =>
        cases c with
        | none => cases hfill
        | some c =>
          obtain ⟨rest, hrest, he⟩ := bind_ok hfill
          cases he
          exact isText_cons hp (ih hps hrest)
      | entity name =>
        rw [fillPieces] at hfill
        split at hfill
        · rename_i hc
          obtain ⟨rest, hrest, he⟩ := bind_ok hfill
          cases he
          exact isText_cons (predefined?_ok hc) (ih hps hrest)
        · split at hfill
          · cases hfill
          · rename_i hname
            obtain ⟨rest, hrest, he⟩ := bind_ok hfill
            cases he
            exact isText_append (hexpand _ _ hname) (ih hps hrest)

theorem entityChars_formed {d : Dtd} (hd : d.Formed) (depth : Nat) (opened : List String)
    (name : String)
    {cs : List Char} (h : d.entityChars depth opened name = .ok cs) : IsText cs := by
  induction depth generalizing opened name cs with
  | zero => cases h
  | succ depth ih =>
    rw [entityChars] at h
    split at h
    · split at h
      · cases h
      · cases h
        exact isText_nil
    · rename_i entity hentity
      split at h
      · cases h
      split at h
      · cases h
      · cases h
      · rename_i text
        split at h
        · rename_i hfill
          cases h
          have htext := hd.entities name text (mem_of_lookup hentity)
          exact fillPieces_formed (fun n c hc => ih _ n hc) (pieces_formed [] htext none) hfill
        · cases h

theorem squeezeFrom_formed {cs : List Char} (h : IsText cs) (kept pending : Bool) :
    IsText (squeezeFrom kept pending cs) := by
  induction cs generalizing kept pending with
  | nil => exact isText_nil
  | cons c cs ih =>
    obtain ⟨hc, hcs⟩ := List.forall_mem_cons.1 h
    rw [squeezeFrom]
    split
    · exact ih hcs _ _
    split
    · exact isText_cons (by decide) (isText_cons hc (ih hcs _ _))
    · exact isText_cons hc (ih hcs _ _)

/-- **The value of an attribute holds only characters that a document may hold.** -/
theorem attributeValue_formed {d : Dtd} (hd : d.Formed) {opened : List String} {plain : Bool}
    {ps : List Piece} (hps : ∀ p ∈ ps, p.Formed) {s : String}
    (h : d.attributeValue opened plain ps = .ok s) : IsText s.toList := by
  obtain ⟨cs, hfill, he⟩ := bind_ok h
  cases he
  have hcs : IsText cs :=
    fillPieces_formed (fun name _ hc => entityChars_formed hd _ opened name hc) hps hfill
  rw [String.toList_ofList]
  split
  · exact hcs
  · exact squeezeFrom_formed hcs _ _

theorem entityText_formed {after text : List Char} (h : IsText text)
    {begun : Option (Partial × List Char × List Char)} (hbegun : ∀ b ∈ begun, IsText b.2.2)
    {cs : List Char} (hread : entityText after begun text = .ok cs) : IsText cs := by
  induction text generalizing begun cs with
  | nil =>
    cases begun with
    | none =>
      cases hread
      exact isText_nil
    | some b => cases hread
  | cons c text ih =>
    obtain ⟨hc, htext⟩ := List.forall_mem_cons.1 h
    have hnone : ∀ b ∈ (none : Option (Partial × List Char × List Char)), IsText b.2.2 :=
      fun b hb => by cases hb
    cases begun with
    | none =>
      rw [entityText] at hread
      split at hread
      · refine ih htext ?_ hread
        rintro b ⟨⟩
        exact isText_cons hc isText_nil
      split at hread
      · cases hread
      split at hread
      · split at hread
        · exact ih htext hnone hread
        · obtain ⟨rest, hrest, he⟩ := bind_ok hread
          cases he
          exact isText_cons (by decide) (ih htext hnone hrest)
      · obtain ⟨rest, hrest, he⟩ := bind_ok hread
        cases he
        exact isText_cons hc (ih htext hnone hrest)
    | some b =>
      obtain ⟨p, ampersand, read⟩ := b
      have hcs : IsText (c :: read) := isText_cons hc (hbegun _ rfl)
      rw [entityText] at hread
      split at hread
      · cases hread
      · refine ih htext ?_ hread
        rintro b ⟨⟩
        exact hcs
      · rename_i hr
        obtain ⟨rest, hrest, he⟩ := bind_ok hread
        cases he
        exact isText_cons (next_formed hr) (ih htext hnone hrest)
      · cases hread
      · obtain ⟨rest, hrest, he⟩ := bind_ok hread
        cases he
        refine isText_append ?_ (ih htext hnone hrest)
        exact fun x hx => hcs x (List.mem_reverse.1 hx)

end Dtd

/-! ## Tags -/

/-- A tag with its values: names that are names, no attribute twice, and prefixes that are bound to
namespaces which can be told from local names. -/
structure Tag.Formed (tag : Tag) : Prop where
  name : IsQualified tag.name
  attributes : ∀ a ∈ tag.attributes, IsAttributeName a.1 ∧ IsText a.2.toList
  distinct : (tag.attributes.map (·.1)).Nodup
  bindings : Scope.Formed tag.bindings

theorem bindingProblem?_none {label uri : String} (h : bindingProblem? label uri = none) :
    '\x7d' ∉ uri.toList := by
  intro hmem
  have hcontains : uri.toList.contains '\x7d' = true := List.contains_iff_mem.2 hmem
  unfold bindingProblem? at h
  rw [if_pos hcontains] at h
  split at h
  · cases h
  split at h <;> cases h

/-- A new attribute, or the binding that it stands for, leaves a tag well-formed. -/
theorem Tag.Formed.add {tag tag' : Tag} (htag : tag.Formed) {name value : String}
    (hname : IsAttributeName name) (hvalue : IsText value.toList)
    (hnew : name ∉ tag.attributes.map (·.1)) (h : tag.add name value = .ok tag') :
    tag'.Formed ∧ ∀ n ∈ tag'.attributes.map (·.1), n = name ∨ n ∈ tag.attributes.map (·.1) := by
  unfold Tag.add at h
  split at h
  · cases h
    refine ⟨⟨htag.name, ?_, ?_, htag.bindings⟩, ?_⟩
    · exact List.forall_mem_append.2 ⟨htag.attributes, List.forall_mem_singleton.2 ⟨hname, hvalue⟩⟩
    · rw [List.map_append, List.map_singleton, List.nodup_append]
      refine ⟨htag.distinct, List.nodup_singleton _, ?_⟩
      intro n hn n' hn' he
      rw [List.mem_singleton.1 hn'] at he
      subst he
      exact hnew hn
    · intro n hn
      rw [List.map_append, List.map_singleton] at hn
      rcases List.mem_append.1 hn with hn | hn
      · exact .inr hn
      · exact .inl (List.mem_singleton.1 hn)
  · split at h
    · cases h
    · rename_i hproblem
      cases h
      refine ⟨⟨htag.name, htag.attributes, htag.distinct, ?_⟩, fun n hn => .inr hn⟩
      exact List.forall_mem_cons.2 ⟨bindingProblem?_none hproblem, htag.bindings⟩

theorem Tag.addWritten_formed {d : Dtd} (hd : d.Formed) {opened : List String} {start : List Char}
    {raws : List RawAttribute} (hraws : ∀ a ∈ raws, a.Formed) {seen : List String} {tag tag' : Tag}
    (htag : tag.Formed) (hseen : ∀ n ∈ tag.attributes.map (·.1), n ∈ seen)
    (h : tag.addWritten d opened start seen raws = .ok tag') :
    tag'.Formed ∧ ∀ n ∈ tag'.attributes.map (·.1), n ∈ seen ∨ n ∈ raws.map (·.name) := by
  induction raws generalizing seen tag with
  | nil =>
    cases h
    exact ⟨htag, fun n hn => .inl (hseen n hn)⟩
  | cons raw raws ih =>
    obtain ⟨hraw, hrest⟩ := List.forall_mem_cons.1 hraws
    rw [Tag.addWritten] at h
    split at h
    · cases h
    rename_i hnew
    obtain ⟨value, hvalue, h⟩ := bind_ok h
    obtain ⟨tag₁, hadd, h⟩ := bind_ok h
    have hnotSeen : raw.name ∉ seen := by simpa using hnew
    obtain ⟨htag₁, hnames⟩ := htag.add hraw.name.attributeName
      (Dtd.attributeValue_formed hd hraw.value (mapError_ok hvalue))
        (fun hmem => hnotSeen (hseen _ hmem))
      (mapError_ok hadd)
    obtain ⟨htag', hall⟩ := ih hrest htag₁
      (fun n hn => (hnames n hn).elim (fun he => he ▸ List.mem_cons_self)
        fun hmem => List.mem_cons_of_mem _ (hseen n hmem)) h
    refine ⟨htag', fun n hn => ?_⟩
    rw [List.map_cons]
    rcases hall n hn with hn | hn
    · rcases List.mem_cons.1 hn with rfl | hn
      · exact .inr List.mem_cons_self
      · exact .inl hn
    · exact .inr (List.mem_cons_of_mem _ hn)

theorem Tag.addDefaults_formed {rules : List AttributeRule} (hrules : ∀ rule ∈ rules, rule.Formed)
    {start : List Char} {seen : List String} {tag tag' : Tag} (htag : tag.Formed)
    (hseen : ∀ n ∈ tag.attributes.map (·.1), n ∈ seen)
    (h : tag.addDefaults start seen rules = .ok tag') : tag'.Formed := by
  induction rules generalizing seen tag with
  | nil =>
    cases h
    exact htag
  | cons rule rules ih =>
    obtain ⟨hrule, hrest⟩ := List.forall_mem_cons.1 hrules
    rw [Tag.addDefaults] at h
    split at h
    · exact ih hrest htag hseen h
    · rename_i value hvalue
      split at h
      · exact ih hrest htag hseen h
      rename_i hnew
      have hnotSeen : rule.name ∉ seen := by simpa using hnew
      obtain ⟨tag₁, hadd, h⟩ := bind_ok h
      obtain ⟨htag₁, hnames⟩ := htag.add hrule.name (hrule.default value hvalue)
        (fun hmem => hnotSeen (hseen _ hmem)) (mapError_ok hadd)
      refine ih hrest htag₁ (fun n hn => ?_) h
      rcases hnames n hn with rfl | hn
      · exact List.mem_cons_self
      · exact List.mem_cons_of_mem _ (hseen n hn)

/-- **A completed tag has attributes of different names.** -/
theorem Tag.complete_formed {d : Dtd} (hd : d.Formed) {opened : List String} {start : List Char}
    {name : String} (hname : IsQualified name) {raws : List RawAttribute}
    (hraws : ∀ a ∈ raws, a.Formed)
    {tag : Tag} (h : Tag.complete d opened start name raws = .ok tag) : tag.Formed := by
  have hbare : Tag.Formed ⟨name, [], []⟩ :=
    ⟨hname, List.forall_mem_nil _, List.nodup_nil, List.forall_mem_nil _⟩
  obtain ⟨tag₁, hwritten, h⟩ := bind_ok h
  obtain ⟨htag₁, hnames⟩ := Tag.addWritten_formed hd hraws hbare (List.forall_mem_nil _)
    hwritten
  refine Tag.addDefaults_formed ?_ htag₁ (fun n hn => (hnames n hn).resolve_left List.not_mem_nil) h
  intro rule hrule
  obtain ⟨⟨element, rule'⟩, hmem, rfl⟩ := List.mem_map.1 hrule
  exact hd.rules element rule' (List.mem_filter.1 hmem).1

end Pamphlet.Markup
