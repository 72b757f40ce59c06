import Pamphlet.Proofs.Record.Intake
import Pamphlet.Release.Summary

/-!
# What a summary document leaves in the summary

A summary has for each optional topic what the last child of the root tells that names it, and
nothing for a topic that no child names: `get_ofPayload`.
-/

namespace Pamphlet.Release.Summary

open Pamphlet.Text Pamphlet.Markup Pamphlet.Record Pamphlet.Record.Intake

/-! ## Payloads -/

theorem lookup_payload (root : Element) (t : Topic) (ts : List Topic) :
    (ts.filterMap fun t => (tellerOf root t).map fun e =>
      (t.field, Datum.text (topicText t e))).lookup t.field =
      if t ∈ ts then (tellerOf root t).map fun e => .text (topicText t e) else none := by
  induction ts with
  | nil => rfl
  | cons t' ts ih =>
    by_cases ht : t = t'
    · subst ht
      cases hteller : tellerOf root t with
      | none =>
        rw [List.filterMap_cons_none (by rw [hteller]; rfl), ih, hteller]
        simp
      | some e =>
        rw [List.filterMap_cons_some (by rw [hteller]; rfl)]
        simp
    · have hfield : (t.field == t'.field) = false := by
        simpa using fun h => ht (Topic.field_injective h)
      cases hteller : tellerOf root t' with
      | none =>
        rw [List.filterMap_cons_none (by rw [hteller]; rfl), ih]
        simp [ht]
      | some e =>
        rw [List.filterMap_cons_some (by rw [hteller]; rfl), List.lookup_cons, hfield]
        simp only [ih]
        simp [ht]

/-- The payload holds a topic as the element that tells it does. -/
theorem get?_payload (root : Element) (t : Topic) :
    (payload root).get? t.field = (tellerOf root t).map fun e => .text (topicText t e) := by
  unfold payload Fields.get?
  rw [lookup_payload, if_pos (Topic.mem_all t)]

/-- A required topic is told in words. -/
theorem topicText_of_isRequired {t : Topic} (ht : t.isRequired = true) (e : Element) :
    topicText t e = innerText e := by
  have hfragment : t.isFragment = false := by
    cases t <;> first | rfl | cases ht
  rw [topicText, hfragment, if_neg Bool.false_ne_true]

/-- One step of filling a payload out. -/
def fillOutStep (fields : Fields) (t : Topic) : Fields :=
  match (fields.get? t.field).getD .null with
  | .null => fields.set t.field (.text "")
  | _ => fields

theorem get?_fillOutStep_of_ne (fields : Fields) {t t' : Topic} (h : t ≠ t') :
    (fillOutStep fields t').get? t.field = fields.get? t.field := by
  have hfield : t.field ≠ t'.field := fun he => h (Topic.field_injective he)
  unfold fillOutStep
  split
  · rw [Fields.get?_set, if_neg hfield]
  · rfl

theorem get?_fillOutStep_self (fields : Fields) (t : Topic) (s : String)
    (h : (fields.get? t.field).getD (.text "") = .text s) :
    (fillOutStep fields t).get? t.field = some (.text s) := by
  unfold fillOutStep
  cases hget : fields.get? t.field with
  | none =>
    rw [hget] at h
    simp only [Option.getD_none] at h ⊢
    rw [Fields.get?_set, if_pos rfl, h]
  | some d =>
    rw [hget] at h
    simp only [Option.getD_some] at h ⊢
    subst h
    exact hget

/-- Filling out leaves what is there and adds an empty text for what is not. -/
theorem get?_fillOut {t : Topic} {s : String} (ts : List Topic) (fields : Fields)
    (h : (fields.get? t.field).getD (.text "") = .text s)
    (ht : t ∈ ts ∨ fields.get? t.field = some (.text s)) :
    (ts.foldl fillOutStep fields).get? t.field = some (.text s) := by
  induction ts generalizing fields with
  | nil => exact ht.resolve_left List.not_mem_nil
  | cons t' ts ih =>
    rw [List.foldl_cons]
    by_cases he : t = t'
    · subst he
      have hself := get?_fillOutStep_self fields t s h
      exact ih _ (by rw [hself]; rfl) (.inr hself)
    · have hother := get?_fillOutStep_of_ne fields he
      refine ih _ (by rw [hother]; exact h) ?_
      rw [hother]
      exact ht.imp_left fun hmem => (List.mem_cons.1 hmem).resolve_left he

/-- A payload that tells each required topic is filled out with a text for every topic. -/
theorem get?_fillOut_payload {root : Element} {t : Topic}
    (h : t.isRequired = true → ∃ e, tellerOf root t = some e) :
    (fillOut (payload root)).get? t.field =
    some (.text (((tellerOf root t).map (topicText t)).getD "")) := by
  refine get?_fillOut _ _ ?_ ?_
  · rw [get?_payload]
    cases tellerOf root t <;> rfl
  · cases ht : t.isRequired with
    | true =>
      obtain ⟨e, hteller⟩ := h ht
      right
      rw [get?_payload, hteller]
      rfl
    | false =>
      left
      rw [List.mem_filter, ht]
      exact ⟨Topic.mem_all t, rfl⟩

/-! ## Reading fields -/

theorem seq_ok {α β : Type} {f : Intake (α → β)} {a : Intake α} {b : β} (h : f <*> a = .ok b) :
    ∃ g x, f = .ok g ∧ a = .ok x ∧ b = g x := by
  cases f with
  | error vs => cases a <;> cases h
  | ok g =>
    cases a with
    | error vs => cases h
    | ok x =>
      cases h
      exact ⟨g, x, rfl, rfl, rfl⟩

theorem map_ok {α β : Type} {f : α → β} {a : Intake α} {b : β} (h : f <$> a = .ok b) :
    ∃ x, a = .ok x ∧ b = f x := by
  obtain ⟨g, x, hg, ha, rfl⟩ := seq_ok (f := .ok f) h
  cases hg
  exact ⟨x, ha, rfl⟩

/-- A summary is what has been read of each topic, with a branch if none has been read. -/
theorem ofFields_eq_ok {fields : Fields} {s : Summary} (h : ofFields fields = .ok s) :
    ∃ read : Summary, (∀ t, readTopic fields t = .ok (read.get t)) ∧ s = read.withBranch := by
  obtain ⟨s', h₀, rfl⟩ := map_ok h
  obtain ⟨_, osgi, h₁, hosgi, rfl⟩ := seq_ok h₀
  obtain ⟨_, jsr169, h₂, hjsr169, rfl⟩ := seq_ok h₁
  obtain ⟨_, compilers, h₃, hcompilers, rfl⟩ := seq_ok h₂
  obtain ⟨_, java6, h₄, hjava6, rfl⟩ := seq_ok h₃
  obtain ⟨_, jdk14, h₅, hjdk14, rfl⟩ := seq_ok h₄
  obtain ⟨_, antVersion, h₆, hantVersion, rfl⟩ := seq_ok h₅
  obtain ⟨_, machine, h₇, hmachine, rfl⟩ := seq_ok h₆
  obtain ⟨_, releaseVerification, h₈, hreleaseVerification, rfl⟩ := seq_ok h₇
  obtain ⟨_, newFeatures, h₉, hnewFeatures, rfl⟩ := seq_ok h₈
  obtain ⟨_, overview, h₁₀, hoverview, rfl⟩ := seq_ok h₉
  obtain ⟨_, branch, h₁₁, hbranch, rfl⟩ := seq_ok h₁₀
  obtain ⟨_, previousReleaseId, h₁₂, hpreviousReleaseId, rfl⟩ := seq_ok h₁₁
  obtain ⟨releaseId, hreleaseId, rfl⟩ := map_ok h₁₂
  refine ⟨_, fun t => ?_, rfl⟩
  cases t <;> assumption

theorem get_withBranch {t : Topic} (ht : t ≠ .branch) (s : Summary) :
    s.withBranch.get t = s.get t := by
  unfold withBranch
  split
  · cases t <;> first | rfl | exact absurd rfl ht
  · rfl

/-- A summary has every topic but the branch as its fields have it. -/
theorem readTopic_of_ofFields {fields : Fields} {s : Summary} (h : ofFields fields = .ok s)
    {t : Topic} (ht : t ≠ .branch) : readTopic fields t = .ok (s.get t) := by
  obtain ⟨read, hread, rfl⟩ := ofFields_eq_ok h
  rw [hread, get_withBranch ht]

/-- What is read of a topic is the text of its field. -/
theorem eq_of_readTopic {fields : Fields} {t : Topic} {x y : String}
    (hfield : fields.get? t.field = some (.text x)) (h : readTopic fields t = .ok y) : y = x := by
  cases ht : t.isRequired with
  | false =>
    rw [readTopic, ht, if_neg Bool.false_ne_true] at h
    have htext : optional fields t.field "" text = .ok x := optional_of_get? hfield rfl
    exact Except.ok.inj (h.symm.trans htext)
  | true =>
    rw [readTopic, if_pos ht] at h
    obtain ⟨d, hd, hread⟩ := required_ok h
    obtain ⟨rfl, -⟩ := textWithin_ok hread
    cases hfield.symm.trans hd
    rfl

/-- The name of a release is not empty. -/
theorem ne_empty_of_readTopic {fields : Fields} {t : Topic} {x : String} (ht : t.isRequired = true)
    (h : readTopic fields t = .ok x) : x ≠ "" := by
  rw [readTopic, if_pos ht] at h
  obtain ⟨d, -, hread⟩ := required_ok h
  obtain ⟨-, hlength⟩ := textWithin_ok hread
  rintro rfl
  exact absurd hlength (by decide)

/-- What is named has a branch. -/
theorem branchOf_ne_empty {releaseId : String} (h : releaseId ≠ "") : branchOf releaseId ≠ "" := by
  have hjoined : ['.'].intercalate (releaseId.toList.splitOn '.') = releaseId.toList :=
    List.intercalate_splitOn '.'
  intro hempty
  have hnone : ['.'].intercalate ((releaseId.toList.splitOn '.').take 2) = [] :=
    (String.toList_ofList.symm.trans (congrArg String.toList hempty)).trans rfl
  cases hparts : releaseId.toList.splitOn '.' with
  | nil =>
    rw [hparts] at hjoined
    exact h (String.toList_eq_nil_iff.1 hjoined.symm)
  | cons part parts =>
    rw [hparts] at hjoined hnone
    cases parts with
    | nil => exact h (String.toList_eq_nil_iff.1 (hjoined.symm.trans hnone))
    | cons next parts =>
      rw [List.take_succ_cons, List.take_succ_cons, List.take_zero,
        List.intercalate_cons_cons] at hnone
      simp at hnone

theorem ofFields_of_ofPayload {fields : Fields} {s : Summary} (h : ofPayload fields = .ok s) :
    ofFields (fillOut fields) = .ok s := by
  unfold ofPayload checkPayload at h
  split at h
  · simp only [bind, Except.bind] at h
    split at h
    · cases h
      assumption
    · cases h
  · cases h

/-- A summary has what its document tells of a topic, if it tells anything of it. -/
theorem get_ofPayload_of_teller {root : Element} {s : Summary} {t : Topic} {e : Element}
    (h : ofPayload (payload root) = .ok s) (hbranch : t ≠ .branch)
    (hteller : tellerOf root t = some e) : s.get t = topicText t e := by
  have hvalue : (fillOut (payload root)).get? t.field =
      some (.text (((tellerOf root t).map (topicText t)).getD "")) :=
    get?_fillOut_payload fun _ => ⟨e, hteller⟩
  rw [hteller] at hvalue
  exact eq_of_readTopic hvalue (readTopic_of_ofFields (ofFields_of_ofPayload h) hbranch)

/-- **A summary has what its document tells of an optional topic.** -/
theorem get_ofPayload {root : Element} {s : Summary} (h : ofPayload (payload root) = .ok s)
    {t : Topic} (hrequired : t.isRequired = false) (hbranch : t ≠ .branch) :
    s.get t = ((tellerOf root t).map (topicText t)).getD "" := by
  have hvalue : (fillOut (payload root)).get? t.field =
      some (.text (((tellerOf root t).map (topicText t)).getD "")) :=
    get?_fillOut_payload fun ht => nomatch hrequired.symm.trans ht
  exact eq_of_readTopic hvalue (readTopic_of_ofFields (ofFields_of_ofPayload h) hbranch)

end Pamphlet.Release.Summary
