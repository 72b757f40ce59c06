import Mathlib.Data.List.Nodup
import Pamphlet.Proofs.Markup.Namespace

/-!
# Plain trees are well-formed

Cutting full names to their local parts leaves names: `plain_formed`. Two attributes that have one
name after it have become one.
-/

namespace Pamphlet.Markup

/-! ## Local parts -/

/-- The local part of a full name is what it was made with. -/
theorem localPart_fullName {uri part : String} (h : '\x7d' ∉ uri.toList) :
    localPart (fullName uri part) = part := by
  have hall : ∀ d ∈ '\x7b' :: uri.toList, decide (d ≠ '\x7d') = true :=
    List.forall_mem_cons.2 ⟨by decide, fun d hd => decide_eq_true fun he => h (he ▸ hd)⟩
  have hname : (fullName uri part).toList = ('\x7b' :: uri.toList) ++ '\x7d' :: part.toList := by
    unfold fullName
    rw [String.toList_append, String.toList_append, String.toList_append, List.append_assoc]
    rfl
  unfold localPart
  rw [hname, List.dropWhile_append_of_pos hall, List.dropWhile_cons_of_neg (by simp), List.drop_one,
    List.tail_cons, String.ofList_toList]

/-- A full name has a local part, and a name in no namespace is one. -/
theorem IsExpanded.localPart {isPart : List Char → Prop} (hpart : ∀ cs, isPart cs → IsNamePart cs)
    {name : String} (h : IsExpanded isPart name) :
    isFullName name = true ∧ isPart (localPart name).toList ∨ isFullName name = false ∧
    isPart name.toList := by
  rcases h with h | ⟨uri, part, huri, h, rfl⟩
  · exact .inr ⟨(hpart _ h).not_isFullName, h⟩
  · refine .inl ⟨isFullName_fullName uri part, ?_⟩
    rw [localPart_fullName huri]
    exact h

/-! ## Attributes -/

namespace Attributes

theorem mem_set {attributes : Attributes} {name value : String} {a : String × String}
    (h : a ∈ attributes.set name value) : a = (name, value) ∨ a ∈ attributes := by
  induction attributes with
  | nil => exact .inl (List.mem_singleton.1 h)
  | cons b attributes ih =>
    rw [set] at h
    split at h
    · exact (List.mem_cons.1 h).imp_right (List.mem_cons_of_mem b)
    · rcases List.mem_cons.1 h with rfl | h
      · exact .inr List.mem_cons_self
      · exact (ih h).imp_right (List.mem_cons_of_mem b)

/-- Setting an attribute keeps names different. -/
theorem nodup_set {attributes : Attributes} (h : (attributes.map (·.1)).Nodup)
    (name value : String) : ((attributes.set name value).map (·.1)).Nodup := by
  induction attributes with
  | nil => exact List.nodup_singleton name
  | cons b attributes ih =>
    obtain ⟨hb, hothers⟩ := List.nodup_cons.1 h
    rw [set]
    split
    · rename_i he
      subst he
      exact h
    · rename_i hne
      refine List.nodup_cons.2 ⟨fun hmem => ?_, ih hothers⟩
      obtain ⟨a, ha, he⟩ := List.mem_map.1 hmem
      rcases mem_set ha with rfl | ha
      · exact hne he.symm
      · exact hb (List.mem_map.2 ⟨a, ha, he⟩)

/-- Attributes of different names whose full names are all still to be cut. -/
structure Halfway (full : List String) (attributes : Attributes) : Prop where
  formed : ∀ a ∈ attributes, IsExpanded IsNamePart a.1 ∧ IsText a.2.toList
  distinct : (attributes.map (·.1)).Nodup
  full : ∀ name ∈ attributes.map (·.1), isFullName name = true → name ∈ full

theorem Halfway.makePlain {name : String} {full : List String} {attributes : Attributes}
    (h : Halfway (name :: full) attributes) (hname : isFullName name = true) :
    Halfway full (attributes.makePlain name) := by
  have hother : ∀ n ∈ attributes.map (·.1), n ≠ name → isFullName n = true → n ∈ full :=
    fun n hn hne hfull => (List.mem_cons.1 (h.full n hn hfull)).resolve_left hne
  unfold Attributes.makePlain get?
  split
  · rename_i hnone
    refine ⟨h.formed, h.distinct, fun n hn => hother n hn ?_⟩
    rintro rfl
    obtain ⟨a, ha, he⟩ := List.mem_map.1 hn
    have hne := List.lookup_eq_none_iff.1 hnone a ha
    rw [he, bne_self_eq_false] at hne
    cases hne
  · rename_i value hvalue
    obtain ⟨hexpanded, hvalue⟩ := h.formed _ (mem_of_lookup hvalue)
    have hpart : IsNamePart (localPart name).toList := by
      rcases hexpanded.localPart fun _ h => h with ⟨-, hpart⟩ | ⟨hnot, -⟩
      · exact hpart
      · rw [hname] at hnot
        cases hnot
    refine ⟨fun a ha => ?_, nodup_set ?_ _ _, fun n hn hfull => ?_⟩
    · rcases mem_set ha with rfl | ha
      · exact ⟨.inl hpart, hvalue⟩
      · exact h.formed a (List.mem_filter.1 ha).1
    · exact (List.filter_sublist.map _).nodup h.distinct
    · obtain ⟨a, ha, rfl⟩ := List.mem_map.1 hn
      rcases mem_set ha with rfl | ha
      · rw [hpart.not_isFullName] at hfull
        cases hfull
      · obtain ⟨ha, hne⟩ := List.mem_filter.1 ha
        exact hother _ (List.mem_map.2 ⟨a, ha, rfl⟩) (of_decide_eq_true hne) hfull

/-- All full names are cut, one after the other. -/
theorem Halfway.foldl_makePlain {full : List String} (hfull : ∀ name ∈ full, isFullName name = true)
    {attributes : Attributes} (h : Halfway full attributes) :
    Halfway [] (full.foldl Attributes.makePlain attributes) := by
  induction full generalizing attributes with
  | nil => exact h
  | cons name full ih =>
    obtain ⟨hname, hothers⟩ := List.forall_mem_cons.1 hfull
    exact ih hothers (h.makePlain hname)

/-- **Plain attributes have names without colons**, and different ones. -/
theorem plain_formed {attributes : Attributes}
    (h : ∀ a ∈ attributes, IsExpanded IsNamePart a.1 ∧ IsText a.2.toList)
    (hdistinct : (attributes.map (·.1)).Nodup) :
    (∀ a ∈ attributes.plain, IsNamePart a.1.toList ∧ IsText a.2.toList) ∧
      (attributes.plain.map (·.1)).Nodup := by
  have hstart : Halfway ((attributes.map (·.1)).filter isFullName) attributes :=
    ⟨h, hdistinct, fun name hname hfull => List.mem_filter.2 ⟨hname, hfull⟩⟩
  have hend : Halfway [] attributes.plain :=
    hstart.foldl_makePlain fun name hname => (List.mem_filter.1 hname).2
  refine ⟨fun a ha => ?_, hend.distinct⟩
  obtain ⟨hexpanded, hvalue⟩ := hend.formed a ha
  rcases hexpanded.localPart fun _ h => h with ⟨hfull, -⟩ | ⟨-, hpart⟩
  · exact absurd (hend.full a.1 (List.mem_map.2 ⟨a, ha, rfl⟩) hfull) List.not_mem_nil
  · exact ⟨hpart, hvalue⟩

end Attributes

/-! ## Trees -/

namespace Element

theorem FormedHere.plain {e : Element}
    (h : e.FormedHere (IsExpanded IsNameText) (IsExpanded IsNamePart)) :
    e.plainHere.FormedHere IsName fun name => IsNamePart name.toList := by
  obtain ⟨name, hlabel, hname⟩ := h.tag
  obtain ⟨hattributes, hdistinct⟩ := Attributes.plain_formed h.attributes h.distinct
  refine ⟨?_, hattributes, hdistinct, h.text, h.tail⟩
  unfold plainHere
  simp only [hlabel]
  refine ⟨_, rfl, ?_⟩
  rcases hname.localPart fun _ h => h.part with ⟨hfull, hpart⟩ | ⟨hnot, hname⟩
  · rw [if_pos hfull]
    exact hpart
  · rw [if_neg (by rw [hnot]; exact Bool.false_ne_true)]
    exact hname

theorem plain_eq (e : Element) :
    e.plain = { e.plainHere with children := e.children.map plain } := by
  unfold plain
  rw [mapAll_eq]
  rfl

/-- **A plain tree has names that are names.** -/
theorem Expanded.plain {e : Element} (h : e.Expanded) :
    e.plain.Formed IsName fun name => IsNamePart name.toList := by
  induction e using childInduction with
  | node e ih =>
    have hhere := h.here.plain
    rw [plain_eq]
    refine formed_iff.2 ⟨⟨hhere.tag, hhere.attributes, hhere.distinct, hhere.text, hhere.tail⟩, ?_⟩
    intro child hchild
    obtain ⟨child', hchild', rfl⟩ := List.mem_map.1 hchild
    exact ih child' hchild' (h.child hchild')

end Element

end Pamphlet.Markup
