import Pamphlet.Proofs.Outcome
import Pamphlet.Proofs.Release.Summary
import Pamphlet.Proofs.Text.Words

/-!
# What a summary document must tell

The release and the previous one must be named, in more than blanks and in not too many characters.
If one of them is not (`Lacking`), the document is turned down as incomplete; if all are and one is
too long (`Overlong`), as out of bounds; otherwise there is a summary (`Told.ofPayload_ok`).
-/

namespace Pamphlet.Release.Summary

open Pamphlet.Text Pamphlet.Markup Pamphlet.Record Pamphlet.Record.Intake

/-! ## Topics -/

/-- A required topic of which nothing is told, or nothing but blanks. -/
structure Lacking (root : Element) (t : Topic) : Prop where
  required : t.isRequired = true
  untold : ∀ e, tellerOf root t = some e → isBlankText e.characters = true

/-- A required topic that is told in too many characters. -/
structure Overlong (root : Element) (t : Topic) : Prop where
  required : t.isRequired = true
  told : ∃ e, tellerOf root t = some e ∧ maxIdLength < (collapse e.characters).length

variable {root : Element}

/-- A topic is missing if it is required and nothing with words tells it. -/
theorem mem_missingTopics_iff (t : Topic) : t ∈ missingTopics (payload root) ↔ Lacking root t := by
  have hsilent (ht : t.isRequired = true) :
      ((payload root).get? t.field).elim true isSilent = true ↔
        ∀ e, tellerOf root t = some e → isBlankText e.characters = true := by
    rw [get?_payload]
    cases hteller : tellerOf root t with
    | none =>
      refine iff_of_true rfl fun e he => ?_
      cases he
    | some e =>
      rw [Option.map_some, Option.elim_some, isSilent, topicText_of_isRequired ht, innerText,
        isBlankText_collapse]
      exact ⟨fun hblank e' he => Option.some.inj he ▸ hblank, fun h => h e rfl⟩
  rw [missingTopics, List.mem_filter, Bool.and_eq_true]
  constructor
  · rintro ⟨-, ht, h⟩
    exact ⟨ht, (hsilent ht).1 h⟩
  · intro h
    exact ⟨Topic.mem_all t, h.required, (hsilent h.required).2 h.untold⟩

/-- Nothing required is lacking. -/
def Told (root : Element) : Prop :=
  ∀ t, ¬Lacking root t

theorem Told.teller (h : Told root) {t : Topic} (ht : t.isRequired = true) :
    ∃ e, tellerOf root t = some e ∧ isBlankText e.characters = false := by
  by_contra hnone
  refine h t ⟨ht, fun e he => ?_⟩
  cases hblank : isBlankText e.characters with
  | true => rfl
  | false => exact absurd ⟨e, he, hblank⟩ hnone

theorem Told.checkPayload (h : Told root) :
    checkPayload (payload root) = .ok (fillOut (payload root)) := by
  have hmissing : missingTopics (payload root) = [] :=
    List.eq_nil_iff_forall_not_mem.2 fun t ht => h t ((mem_missingTopics_iff t).1 ht)
  rw [Summary.checkPayload, hmissing]

theorem checkPayload_of_lacking {t : Topic} (h : Lacking root t) :
    ∃ problems, checkPayload (payload root) = .error (.incompleteSummary problems) := by
  have hmem := (mem_missingTopics_iff t).2 h
  unfold checkPayload
  split
  · rename_i hmissing
    rw [hmissing] at hmem
    exact absurd hmem List.not_mem_nil
  · exact ⟨_, rfl⟩

/-- What is told of a topic can be read unless a name of a release is too long. -/
theorem Told.readTopic_ok_iff (h : Told root) (t : Topic) :
    (∃ x, readTopic (fillOut (payload root)) t = .ok x) ↔ ¬Overlong root t := by
  have hget := get?_fillOut_payload fun ht => (h.teller (t := t) ht).imp fun _ he => he.1
  unfold readTopic
  cases ht : t.isRequired with
  | false =>
    rw [if_neg Bool.false_ne_true]
    refine iff_of_true ⟨_, optional_of_get? hget rfl⟩ fun hlong => ?_
    exact Bool.false_ne_true (ht.symm.trans hlong.required)
  | true =>
    obtain ⟨e, hteller, hblank⟩ := h.teller ht
    have hleast : ¬(collapse e.characters).length < 1 := by
      rw [← isBlankText_collapse] at hblank
      obtain ⟨c, hc, -⟩ := List.all_eq_false.1 hblank
      have hpos := List.length_pos_of_mem hc
      rw [String.length_toList] at hpos
      omega
    rw [hteller, Option.map_some, Option.getD_some, topicText_of_isRequired ht, innerText] at hget
    rw [if_pos rfl, required, hget, Option.elim_some, textWithin, if_neg hleast]
    by_cases hmost : maxIdLength < (collapse e.characters).length
    · rw [if_pos hmost]
      refine iff_of_false ?_ (not_not_intro ⟨ht, e, hteller, hmost⟩)
      rintro ⟨x, hx⟩
      cases hx
    · rw [if_neg hmost]
      refine iff_of_true ⟨_, rfl⟩ fun hlong => ?_
      obtain ⟨e', hteller', hlength⟩ := hlong.told
      exact hmost (Option.some.inj (hteller.symm.trans hteller') ▸ hlength)

theorem ofFields_ok {fields : Fields} (h : ∀ t, ∃ x, readTopic fields t = .ok x) :
    ∃ s, ofFields fields = .ok s := by
  choose x hx using h
  unfold ofFields
  simp only [hx]
  exact ⟨_, rfl⟩

/-- A summary loads if all required topics are told and none is too long. -/
theorem Told.ofPayload_ok (h : Told root) (hshort : ∀ t, ¬Overlong root t) :
    ∃ s, ofPayload (payload root) = .ok s := by
  obtain ⟨s, hs⟩ := ofFields_ok fun t => (h.readTopic_ok_iff t).2 (hshort t)
  refine ⟨s, ?_⟩
  rw [ofPayload, h.checkPayload, ok_bind, hs]
  rfl

theorem Told.ofPayload_of_overlong (h : Told root) {t : Topic} (hlong : Overlong root t) :
    ∃ vs, ofPayload (payload root) = .error (.violations kind vs) := by
  have hbranch : t ≠ .branch := by
    rintro rfl
    cases hlong.required
  rw [ofPayload, h.checkPayload, ok_bind]
  cases hread : ofFields (fillOut (payload root)) with
  | ok s => exact absurd hlong ((h.readTopic_ok_iff t).1 ⟨_, readTopic_of_ofFields hread hbranch⟩)
  | error vs => exact ⟨vs, rfl⟩

theorem ofPayload_of_lacking {t : Topic} (h : Lacking root t) :
    ∃ problems, ofPayload (payload root) = .error (.incompleteSummary problems) := by
  obtain ⟨problems, hcheck⟩ := checkPayload_of_lacking h
  refine ⟨problems, ?_⟩
  rw [ofPayload, hcheck]
  rfl

/-- A document makes a summary exactly if nothing required is lacking or too long. -/
theorem ofPayload_ok_iff :
    (∃ s, ofPayload (payload root) = .ok s) ↔ Told root ∧ ∀ t, ¬Overlong root t := by
  refine ⟨?_, fun h => h.1.ofPayload_ok h.2⟩
  rintro ⟨s, hs⟩
  have htold : Told root := by
    intro t hlacking
    obtain ⟨problems, hpayload⟩ := ofPayload_of_lacking hlacking
    cases hs.symm.trans hpayload
  refine ⟨htold, fun t hlong => ?_⟩
  obtain ⟨vs, hpayload⟩ := htold.ofPayload_of_overlong hlong
  cases hs.symm.trans hpayload

/-! ## Names -/

/-- A text that names a release: more than blanks, and not too long when it is collapsed. -/
structure IsId (v : String) : Prop where
  unblank : isBlankText v = false
  short : (collapse v).length ≤ maxIdLength

/-- What is short before it is collapsed is short afterwards. -/
theorem isId_of_short {v : String} (unblank : isBlankText v = false)
    (short : v.length ≤ maxIdLength) : IsId v :=
  ⟨unblank, (length_collapse_le v).trans short⟩

theorem isId_iff {t : Topic} {e : Element} (ht : t.isRequired = true)
    (hteller : tellerOf root t = some e) :
    IsId e.characters ↔ ¬Lacking root t ∧ ¬Overlong root t := by
  constructor
  · rintro ⟨unblank, short⟩
    refine ⟨fun hlacking => ?_, fun hlong => ?_⟩
    · exact Bool.false_ne_true (unblank.symm.trans (hlacking.untold e hteller))
    · obtain ⟨e', hteller', hlength⟩ := hlong.told
      cases hteller.symm.trans hteller'
      omega
  · rintro ⟨htold, hshort⟩
    constructor
    · refine Bool.eq_false_iff.2 fun hblank => htold ⟨ht, fun e' hteller' => ?_⟩
      cases hteller.symm.trans hteller'
      exact hblank
    · by_contra hlong
      exact hshort ⟨ht, e, hteller, by omega⟩

end Pamphlet.Release.Summary
