import Pamphlet.Proofs.Markup.Declared

/-!
# What is read is well-formed

The events of a document's content carry tags and texts that a document may hold
(`contentEvents_formed`), and a tree that is nested from such events is well-formed, with full names
(`build_formed`).
-/

namespace Pamphlet.Markup

open Scanner

/-! ## Events -/

def Event.Formed : Event → Prop
  | .start tag _ => tag.Formed
  | .data text => IsText text
  | _ => True

/-- Checking that an entity closes what it opens keeps its events formed. -/
theorem balanced_formed {place : List Char} {depth : Nat} {events : List Event}
    (h : ∀ x ∈ events, x.Formed) : ∀ x ∈ balanced place depth events, x.Formed := by
  fun_induction balanced place depth events with
  | case1 => exact List.forall_mem_nil _
  | case2 => exact List.forall_mem_singleton.2 trivial
  | case3 depth tag left rest ih =>
    obtain ⟨htag, hrest⟩ := List.forall_mem_cons.1 h
    exact List.forall_mem_cons.2 ⟨htag, ih hrest⟩
  | case4 => exact List.forall_mem_singleton.2 trivial
  | case5 depth name left after rest _ ih =>
    exact List.forall_mem_cons.2 ⟨trivial, ih (List.forall_mem_cons.1 h).2⟩
  | case6 depth event rest _ _ ih =>
    obtain ⟨hevent, hrest⟩ := List.forall_mem_cons.1 h
    exact List.forall_mem_cons.2 ⟨hevent, ih hrest⟩

section

variable {d : Dtd} (hd : d.Formed)

include hd

/-- Formed lexemes make formed events, if entities expand to such events. -/
theorem eventsOf_formed {opened : List String} {anchor : Option (List Char)}
    {expand : String → List Char → List Event}
    (hexpand : ∀ name place, ∀ x ∈ expand name place, x.Formed)
    {lexemes : List Lexeme} (h : ∀ l ∈ lexemes, l.Formed) :
    ∀ x ∈ eventsOf d opened anchor expand lexemes, x.Formed := by
  have hbreach : ∀ b : Breach, ∀ x ∈ [Event.breach b], x.Formed :=
    fun b => List.forall_mem_singleton.2 trivial
  induction lexemes with
  | nil => exact List.forall_mem_nil _
  | cons l rest ih =>
    obtain ⟨hl, hothers⟩ := List.forall_mem_cons.1 h
    have hrest := ih hothers
    have hmore : ∀ event : Event, event.Formed →
        ∀ x ∈ event :: eventsOf d opened anchor expand rest, x.Formed :=
      fun event hevent => List.forall_mem_cons.2 ⟨hevent, hrest⟩
    cases l with
    | broken b => exact hbreach _
    | token t start after =>
      cases t with
      | opening name attributes empty =>
        rw [eventsOf]
        split
        · exact hbreach _
        · rename_i tag htag
          refine List.forall_mem_cons.2 ⟨Tag.complete_formed hd hl.1 hl.2 htag, ?_⟩
          split
          · exact hmore (.finish _ _ _) trivial
          · exact hrest
      | closing name left => exact hmore (.finish _ _ _) trivial
      | data text =>
        refine hmore (.data _) ?_
        unfold Event.Formed
        simp only
        split
        · exact hl
        · exact normalizeLines_formed hl
      | reference r =>
        cases r with
        | number c =>
          cases c with
          | none => exact hbreach _
          | some c => exact hmore (.data [c]) (isText_cons hl isText_nil)
        | entity name =>
          rw [eventsOf]
          split
          · rename_i c hc
            exact hmore (.data [c]) (isText_cons (predefined?_ok hc) isText_nil)
          · exact List.forall_mem_append.2 ⟨hexpand _ _, hrest⟩
      | comment text => exact hmore (.comment text) trivial
      | instruction target data => exact hmore (.instruction target data) trivial
      | declaration => exact hbreach _

theorem entityEvents_formed (depth : Nat) (opened : List String) (name : String)
    (place : List Char) : ∀ x ∈ entityEvents d depth opened name place, x.Formed := by
  have hbreach : ∀ b : Breach, ∀ x ∈ [Event.breach b], x.Formed :=
    fun b => List.forall_mem_singleton.2 trivial
  induction depth generalizing opened name place with
  | zero => exact hbreach _
  | succ depth ih =>
    rw [entityEvents]
    split
    · exact hbreach _
    split
    · exact hbreach _
    split
    · exact hbreach _
    · exact hbreach _
    · exact balanced_formed
        (eventsOf_formed hd (fun name place => ih _ name place) (tokens_formed _ _))

theorem contentEvents_formed (content : List Char) : ∀ x ∈ contentEvents d content, x.Formed :=
  eventsOf_formed hd (entityEvents_formed hd _ _) (tokens_formed _ _)

end

/-! ## Trees -/

def Item.Formed : Item → Prop
  | .run text => text ≠ "" ∧ IsText text.toList
  | .node e => e.Expanded

/-- Items that are formed become children with texts between them. -/
theorem assemble_formed {items : List Item} (h : ∀ item ∈ items, item.Formed) :
    IsRun (Element.assemble items).1 ∧ ∀ child ∈ (Element.assemble items).2, child.Expanded := by
  induction items with
  | nil => exact ⟨isRun_none, List.forall_mem_nil _⟩
  | cons item rest ih =>
    obtain ⟨hitem, hothers⟩ := List.forall_mem_cons.1 h
    obtain ⟨htext, hchildren⟩ := ih hothers
    cases item with
    | run text =>
      refine ⟨?_, hchildren⟩
      rintro s ⟨⟩
      refine ⟨fun hempty => hitem.1 (String.append_eq_empty_iff.1 hempty).1, ?_⟩
      rw [String.toList_append]
      exact isText_append hitem.2 (isText_of_isRun htext)
    | node e =>
      exact ⟨isRun_none, List.forall_mem_cons.2 ⟨Element.Formed.withTail hitem htext, hchildren⟩⟩

/-- An open element from which a well-formed one is made. -/
structure Frame.Formed (f : Frame) : Prop where
  name : IsExpanded IsNameText f.fullName
  attributes : ∀ a ∈ f.attributes, IsExpanded IsNamePart a.1 ∧ IsText a.2.toList
  distinct : (f.attributes.map (·.1)).Nodup
  scope : f.scope.Formed
  items : ∀ item ∈ f.items, item.Formed

theorem Frame.Formed.push {f : Frame} (h : f.Formed) {item : Item} (hitem : item.Formed) :
    (f.push item).Formed :=
  { h with items := List.forall_mem_cons.2 ⟨hitem, h.items⟩ }

theorem Frame.Formed.close {f : Frame} (h : f.Formed) : f.close.Expanded := by
  have hitems : ∀ item ∈ f.items.reverse, item.Formed :=
    fun item hitem => h.items item (List.mem_reverse.1 hitem)
  obtain ⟨htext, hchildren⟩ := assemble_formed hitems
  exact Element.formed_iff.2 ⟨⟨⟨_, rfl, h.name⟩, h.attributes, h.distinct, htext, isRun_none⟩,
    hchildren⟩

theorem Frame.open_formed {scope : Scope} (hscope : scope.Formed) {tag : Tag} (htag : tag.Formed)
    {left : List Char} {f : Frame} (h : Frame.open scope tag left = .ok f) : f.Formed := by
  have hinner : Scope.Formed (tag.bindings ++ scope) :=
    List.forall_mem_append.2 ⟨htag.bindings, hscope⟩
  obtain ⟨⟨full, attributes⟩, hexpand, h⟩ := bind_ok h
  cases h
  obtain ⟨attributes', hattributes, hexpand⟩ := bind_ok (mapError_ok hexpand)
  obtain ⟨full', hname, hexpand⟩ := bind_ok hexpand
  cases hexpand
  have hfrom := Scope.expandAttributes_formed hinner htag.attributes htag.distinct hattributes
  exact ⟨Scope.expandName_formed hinner htag.name hname, hfrom.formed, hfrom.distinct, hinner,
    List.forall_mem_nil _⟩

theorem nest_formed {ending : List Char} {f : Frame} (hf : f.Formed) {outer : List Frame}
    (houter : ∀ g ∈ outer, g.Formed) {events : List Event} (hevents : ∀ x ∈ events, x.Formed)
    {e : Element} {after : List Char} (h : nest false ending f outer events = .ok (e, after)) :
    e.Expanded ∧ e.tail = none := by
  induction events generalizing f outer with
  | nil => cases h
  | cons event rest ih =>
    obtain ⟨hevent, hrest⟩ := List.forall_mem_cons.1 hevents
    cases event with
    | breach b => cases h
    | comment text => exact ih hf houter hrest h
    | instruction target data => exact ih hf houter hrest h
    | data text =>
      rw [nest] at h
      split at h
      · exact ih hf houter hrest h
      · rename_i hne
        refine ih (hf.push ?_) houter hrest h
        refine ⟨fun hempty => hne ?_, by rw [String.toList_ofList]; exact hevent⟩
        rw [String.ofList_injective hempty]
        rfl
    | start tag left =>
      obtain ⟨inner, hinner, h⟩ := bind_ok h
      exact ih (Frame.open_formed hf.scope hevent hinner)
        (List.forall_mem_cons.2 ⟨hf, houter⟩) hrest h
    | finish name left rest' =>
      unfold nest at h
      split at h
      · cases h
      split at h
      · cases h
        exact ⟨hf.close, rfl⟩
      · obtain ⟨hparent, hothers⟩ := List.forall_mem_cons.1 houter
        exact ih (hparent.push (show (Item.node f.close).Formed from hf.close)) hothers hrest h

theorem build_formed {ending : List Char} {events : List Event} (hevents : ∀ x ∈ events, x.Formed)
    {e : Element} {after : List Char} (h : build false ending events = .ok (e, after)) :
    e.Expanded ∧ e.tail = none := by
  unfold build at h
  split at h
  · obtain ⟨htag, hrest⟩ := List.forall_mem_cons.1 hevents
    obtain ⟨root, hroot, h⟩ := bind_ok h
    exact nest_formed (Frame.open_formed Scope.formed_initial htag hroot)
      (List.forall_mem_nil _) hrest h
  · cases h
  · cases h

end Pamphlet.Markup
