import Mathlib.Data.List.TakeWhile
import Pamphlet.Markup.Namespace
import Pamphlet.Markup.Plain
import Pamphlet.Proofs.Markup.Formed
import Pamphlet.Proofs.Outcome

/-!
# Names and their namespaces

A name without a prefix is in no namespace and stays as it is; a name with one becomes a full name,
whose local part is what stood after the prefix. Attributes of different names have different full
names: `expandAttributes_formed`.
-/

namespace Pamphlet.Markup

/-! ## Prefixes -/

theorem mem_of_lookup {α : Type} {bindings : List (String × α)} {name : String} {a : α}
    (h : bindings.lookup name = some a) : (name, a) ∈ bindings := by
  obtain ⟨before, after, hsplit, -⟩ := List.lookup_eq_some_iff.1 h
  rw [hsplit]
  exact List.mem_append_right _ List.mem_cons_self

theorem splitName_eq_none {name : String} (h : IsName name) : splitName name = none := by
  have hcolon : ':' ∉ name.toList := h.part.not_mem (by decide) (by decide)
  have hall : ∀ d ∈ name.toList, decide (d ≠ ':') = true :=
    fun d hd => decide_eq_true fun he => hcolon (he ▸ hd)
  unfold splitName
  simp only [List.takeWhile_eq_self_iff.2 hall, List.drop_length]

/-- A name is split at its first colon. -/
theorem splitName_eq_some {name : String} {label part : List Char} (hlabel : IsNameText label)
    (h : name.toList = label ++ ':' :: part) :
    splitName name = some (String.ofList label, String.ofList part) := by
  have hcolon : ':' ∉ label := hlabel.part.not_mem (by decide) (by decide)
  have hall : ∀ d ∈ label, decide (d ≠ ':') = true :=
    fun d hd => decide_eq_true fun he => hcolon (he ▸ hd)
  have hfront : name.toList.takeWhile (· ≠ ':') = label := by
    rw [h, List.takeWhile_append_of_pos hall, List.takeWhile_cons_of_neg (by simp), List.append_nil]
  unfold splitName
  simp only [hfront]
  rw [h, List.drop_left]

/-- What is bound can be told apart from a local name after it. -/
def Scope.Formed (scope : Scope) : Prop :=
  ∀ b ∈ scope, '\x7d' ∉ b.2.toList

theorem Scope.formed_initial : Scope.Formed .initial := by
  intro b hb
  rw [List.mem_singleton.1 hb]
  decide

/-! ## Full names -/

/-- A name after expansion: it is in no namespace, or its namespace stands in braces before it. -/
def IsExpanded (isPart : List Char → Prop) (name : String) : Prop :=
  isPart name.toList ∨
    ∃ uri part, '\x7d' ∉ uri.toList ∧ isPart part.toList ∧ name = fullName uri part

/-- A well-formed tree with full names. -/
abbrev Element.Expanded : Element → Prop :=
  Formed (IsExpanded IsNameText) (IsExpanded IsNamePart)

theorem isFullName_fullName (uri part : String) : isFullName (fullName uri part) = true := by
  unfold isFullName fullName
  rw [String.toList_append, String.toList_append, String.toList_append]
  rfl

theorem IsNamePart.not_isFullName {name : String} (h : IsNamePart name.toList) :
    isFullName name = false := by
  obtain ⟨c, cs, hname, hc, -⟩ := h
  unfold isFullName
  rw [hname, List.head?_cons, decide_eq_false]
  intro hbrace
  cases hbrace
  exact absurd hc (by decide)

section

variable {scope : Scope} (hscope : scope.Formed)

include hscope

/-- No namespace has a closing brace, which ends it in full names. -/
theorem Scope.namespace?_formed {label uri : String} (h : scope.namespace? label = some uri) :
    '\x7d' ∉ uri.toList := by
  unfold Scope.namespace? at h
  obtain ⟨uri', hlookup, h⟩ := Option.bind_eq_some_iff.1 h
  split at h
  · cases h
  · cases h
    exact hscope _ (mem_of_lookup hlookup)

/-- A qualified name is expanded to one with its namespace, or stays a name. -/
theorem Scope.expandName_formed {name full : String} (hname : IsQualified name)
    (h : scope.expandName name = .ok full) : IsExpanded IsNameText full := by
  unfold Scope.expandName at h
  rcases hname with hname | ⟨label, part, hlabel, hpart, hsplit⟩
  · rw [splitName_eq_none hname] at h
    simp only at h
    split at h
    · cases h
      exact .inl hname
    · rename_i uri huri
      cases h
      exact .inr ⟨uri, name, Scope.namespace?_formed hscope huri, hname, rfl⟩
  · rw [splitName_eq_some hlabel hsplit] at h
    simp only at h
    split at h
    · cases h
    · rename_i uri huri
      cases h
      refine .inr ⟨uri, String.ofList part, Scope.namespace?_formed hscope huri, ?_, rfl⟩
      rw [String.toList_ofList]
      exact hpart

end

/-! ## Attributes -/

/-- Attributes with full names. Those without a prefix have kept their names, and the others have
full names that had not been seen. -/
structure ExpandedFrom (seen : List String) (attributes expanded : Attributes) : Prop where
  formed : ∀ a ∈ expanded, IsExpanded IsNamePart a.1 ∧ IsText a.2.toList
  distinct : (expanded.map (·.1)).Nodup
  origin : ∀ name ∈ expanded.map (·.1),
    name ∈ attributes.map (·.1) ∧ IsName name ∨ isFullName name = true ∧ name ∉ seen

/-- Attributes without prefixes stay as they are. -/
theorem Scope.expandAttributes_eq_self {scope : Scope} {attributes : Attributes}
    (h : ∀ a ∈ attributes, IsName a.1) (seen : List String) :
    scope.expandAttributes seen attributes = .ok attributes := by
  induction attributes with
  | nil => rfl
  | cons a attributes ih =>
    obtain ⟨name, value⟩ := a
    rw [Scope.expandAttributes, splitName_eq_none (h (name, value) List.mem_cons_self)]
    simp only [ih fun b hb => h b (List.mem_cons_of_mem _ hb)]
    rfl

/-- Expanded attributes have different names. -/
theorem Scope.expandAttributes_formed {scope : Scope} (hscope : scope.Formed)
    {attributes : Attributes} (h : ∀ a ∈ attributes, IsAttributeName a.1 ∧ IsText a.2.toList)
    (hdistinct : (attributes.map (·.1)).Nodup) {seen : List String} {expanded : Attributes}
    (hexpand : scope.expandAttributes seen attributes = .ok expanded) :
    ExpandedFrom seen attributes expanded := by
  induction attributes generalizing seen expanded with
  | nil =>
    cases hexpand
    exact ⟨List.forall_mem_nil _, List.nodup_nil, List.forall_mem_nil _⟩
  | cons a attributes ih =>
    obtain ⟨name, value⟩ := a
    obtain ⟨⟨hname, hvalue⟩, hothers⟩ := List.forall_mem_cons.1 h
    rw [List.map_cons, List.nodup_cons] at hdistinct
    rw [Scope.expandAttributes] at hexpand
    rcases hname with hname | ⟨label, part, hlabel, hpart, hsplit⟩
    · rw [splitName_eq_none hname] at hexpand
      obtain ⟨rest, hrest, he⟩ := bind_ok hexpand
      cases he
      have hfrom := ih hothers hdistinct.2 hrest
      refine ⟨?_, ?_, ?_⟩
      · exact List.forall_mem_cons.2 ⟨⟨.inl hname.part, hvalue⟩, hfrom.formed⟩
      · rw [List.map_cons, List.nodup_cons]
        refine ⟨fun hmem => ?_, hfrom.distinct⟩
        rcases hfrom.origin _ hmem with ⟨hmem, -⟩ | ⟨hfull, -⟩
        · exact hdistinct.1 hmem
        · rw [hname.part.not_isFullName] at hfull
          cases hfull
      · intro n hn
        rw [List.map_cons] at hn ⊢
        rcases List.mem_cons.1 hn with rfl | hn
        · exact .inl ⟨List.mem_cons_self, hname⟩
        · exact (hfrom.origin n hn).imp_left fun hkept => ⟨List.mem_cons_of_mem _ hkept.1, hkept.2⟩
    · rw [splitName_eq_some hlabel hsplit] at hexpand
      simp only at hexpand
      split at hexpand
      · cases hexpand
      rename_i uri huri
      split at hexpand
      · cases hexpand
      rename_i hnew
      obtain ⟨rest, hrest, he⟩ := bind_ok hexpand
      cases he
      have hfrom := ih hothers hdistinct.2 hrest
      have hfull := isFullName_fullName uri (String.ofList part)
      refine ⟨?_, ?_, ?_⟩
      · have hlocal : IsNamePart (String.ofList part).toList := by
          rw [String.toList_ofList]
          exact hpart
        have hthis : IsExpanded IsNamePart (fullName uri (String.ofList part)) :=
          .inr ⟨uri, String.ofList part, Scope.namespace?_formed hscope huri, hlocal, rfl⟩
        exact List.forall_mem_cons.2 ⟨⟨hthis, hvalue⟩, hfrom.formed⟩
      · rw [List.map_cons, List.nodup_cons]
        refine ⟨fun hmem => ?_, hfrom.distinct⟩
        rcases hfrom.origin _ hmem with ⟨-, hname⟩ | ⟨-, hseen⟩
        · rw [hname.part.not_isFullName] at hfull
          cases hfull
        · exact hseen List.mem_cons_self
      · intro n hn
        rw [List.map_cons] at hn ⊢
        rcases List.mem_cons.1 hn with rfl | hn
        · exact .inr ⟨hfull, by simpa using hnew⟩
        · rcases hfrom.origin n hn with hkept | ⟨hfull', hseen⟩
          · exact .inl ⟨List.mem_cons_of_mem _ hkept.1, hkept.2⟩
          · exact .inr ⟨hfull', fun hmem => hseen (List.mem_cons_of_mem _ hmem)⟩

end Pamphlet.Markup
