import Pamphlet.Page.Chapters
import Pamphlet.Proofs.Release.BugList
import Pamphlet.Proofs.Release.Pool

/-!
# Every issue is treated once

The chapter on issues looks up the outcome of an issue by its key. In a list that names no issue
twice this is the outcome of the issue's own download (`outcomeOf_fetchAll`), so what is done about
an issue is told by its status and by that download (`treat_fetchAll`). Hence the three lists that
come out of the chapter are parts of the list of issues in its order: the notes shown (`shown`), the
incidents (`failures`) and the issues that still need a note (`owed`).
-/

namespace Pamphlet

namespace Page.Chapter.Treatment

def note? : Treatment → Option Release.Note
  | .shown n => some n
  | _ => none

def incident? : Treatment → Option Release.Incident
  | .failed incident => some incident
  | _ => none

end Page.Chapter.Treatment

namespace Release

open Pamphlet.Page BugList Pool

/-! ## Own downloads -/

/-- What the download of an issue of a list gives. -/
def Source.noteFor (source : Source) (is : List Issue) (i : Issue) : Except Fault Note :=
  (source.download i ((is.filter Issue.hasNote).idxOf i)).note

/-- The issues of a list whose notes have been fetched and read, with the notes. -/
def Source.shown (source : Source) (is : List Issue) : List (Issue × Note) :=
  (is.filter Issue.hasNote).filterMap fun i => (source.noteFor is i).toOption.map fun n => (i, n)

/-- The issues of a list whose notes cannot be had, with the reasons. -/
def Source.failures (source : Source) (is : List Issue) : List (Issue × Fault) :=
  (is.filter Issue.hasNote).filterMap fun i =>
    match source.noteFor is i with
    | .ok _ => none
    | .error f => some (i, f)

/-- The issues of a list that still need a note. -/
def Source.owed (source : Source) (is : List Issue) : List Issue :=
  is.filter fun i => i.lacksNote || i.hasNote && !(source.noteFor is i).isOk

section

variable {source : Source} {is : List Issue} {i : Issue}

theorem distinct_nodup_noted (h : Distinct is) : (is.filter Issue.hasNote).Nodup :=
  (List.Nodup.of_map _ h).filter _

/-- The outcome that is found under the key of an issue is that of its own download. -/
theorem outcomeOf_fetchAll (h : Distinct is) (hi : i ∈ is) (hnote : i.hasNote = true)
    (requested : Int) (picks : List Nat) :
    Chapter.outcomeOf (source.fetchAll requested picks is).outcomes i =
      some ((depart source ((is.filter Issue.hasNote).idxOf i, i)).outcome source.lead) := by
  have hmem : i ∈ is.filter Issue.hasNote := List.mem_filter.2 ⟨hi, hnote⟩
  have hindex := List.idxOf_lt_length_of_mem hmem
  rw [fetchAll_outcomes]
  unfold Chapter.outcomeOf
  cases hfound : List.find? (·.issue.key == i.key)
    ((flights source (is.filter Issue.hasNote)).map (·.outcome source.lead)).reverse with
  | none =>
    -- the outcome of the issue's own flight is there
    have hown : (depart source ((is.filter Issue.hasNote).idxOf i, i)).outcome source.lead ∈
        ((flights source (is.filter Issue.hasNote)).map (·.outcome source.lead)).reverse := by
      rw [List.mem_reverse]
      refine List.mem_map_of_mem ?_
      have hlength : (is.filter Issue.hasNote).idxOf i <
          (flights source (is.filter Issue.hasNote)).length := by
        rw [length_flights]
        exact hindex
      have hflight := getElem_flights hlength hindex
      rw [List.getElem_idxOf hindex] at hflight
      rw [← hflight]
      exact List.getElem_mem hlength
    have hkey := List.find?_eq_none.1 hfound _ hown
    rw [outcome_issue] at hkey
    exact absurd (beq_self_eq_true i.key) hkey
  | some o =>
    have hkey : o.issue.key = i.key := by simpa using List.find?_some hfound
    have ho := List.mem_reverse.1 (List.mem_of_find?_eq_some hfound)
    obtain ⟨f, hf, rfl⟩ := List.mem_map.1 ho
    obtain ⟨n, hn, rfl⟩ := List.getElem_of_mem hf
    have hn' : n < (is.filter Issue.hasNote).length := length_flights source _ ▸ hn
    rw [outcome_issue, getElem_flights hn hn'] at hkey
    have hsame : (is.filter Issue.hasNote)[n] = i :=
      h.eq_of_key (List.mem_of_mem_filter (List.getElem_mem hn')) hi hkey
    have hplace : (is.filter Issue.hasNote).idxOf i = n := by
      rw [← hsame]
      exact (distinct_nodup_noted h).idxOf_getElem n hn'
    rw [getElem_flights hn hn', hsame, hplace]

/-- What is done about an issue of a list, by its status and by what its download gives. -/
theorem treat_fetchAll (h : Distinct is) (hi : i ∈ is) (requested : Int) (picks : List Nat) :
    Chapter.treat source.lead (source.fetchAll requested picks is).outcomes i =
      match i.status with
      | .notNeeded => .nothing
      | .missing => .missing
      | .attached =>
        match source.noteFor is i with
        | .ok n => .shown n
        | .error f => .failed (.ofFault (unreadable source.lead i) f) := by
  unfold Chapter.treat
  cases hstatus : i.status with
  | notNeeded => rfl
  | missing => rfl
  | attached =>
    have hnote : i.hasNote = true := by
      unfold Issue.hasNote
      rw [hstatus]
      decide
    simp only [outcomeOf_fetchAll h hi hnote]
    unfold Source.noteFor depart Flight.outcome
    simp only
    cases (source.download i ((is.filter Issue.hasNote).idxOf i)).note <;> rfl

/-! ## The three lists -/

/-- An issue has a note if one is attached to it. -/
theorem hasNote_iff : i.hasNote = true ↔ i.status = .attached := by
  unfold Issue.hasNote
  exact decide_eq_true_iff

variable {x : Chapter.Subject} {requested : Int} {picks : List Nat}

/-- What is picked out of the treatments of issues, if it is nothing for those without a note to
fetch, is what is picked out of the noted issues by what their downloads give. -/
theorem filterMap_treat {α : Type} (source : Source) (requested : Int) (picks : List Nat)
    (h : Distinct is) (pick : Issue → Chapter.Treatment → Option α)
    (hnothing : ∀ i, pick i .nothing = none) (hmissing : ∀ i, pick i .missing = none) :
    (is.filterMap fun i =>
        pick i (Chapter.treat source.lead (source.fetchAll requested picks is).outcomes i)) =
      (is.filter Issue.hasNote).filterMap fun i =>
        pick i (match source.noteFor is i with
          | .ok n => .shown n
          | .error f => .failed (.ofFault (unreadable source.lead i) f)) := by
  rw [List.filterMap_filter]
  refine List.filterMap_congr fun i hi => ?_
  rw [treat_fetchAll h hi]
  cases hstatus : i.status with
  | notNeeded | missing =>
    have hnot : ¬i.hasNote = true := by
      rw [hasNote_iff, hstatus]
      simp
    rw [if_neg hnot]
    simp only [hnothing, hmissing]
  | attached => rw [if_pos (hasNote_iff.2 hstatus)]

/-- The notes shown are sections of the chapter, each under the name of its issue. -/
theorem issues_subsections (h : Distinct is) (hx : x.lead = source.lead) :
    (Chapter.issues x is (source.fetchAll requested picks is).outcomes).chapter.subsections =
      (source.shown is).map fun s => Chapter.noteSection source.lead s.1 s.2 := by
  have htreat := filterMap_treat source requested picks h
    (fun i t => t.note?.map (Chapter.noteSection source.lead i)) (fun _ => rfl) (fun _ => rfl)
  unfold Chapter.issues Source.shown
  simp only [List.map_filterMap, hx]
  refine Eq.trans (List.filterMap_congr fun i _ => ?_)
    (htreat.trans (List.filterMap_congr fun i _ => ?_))
  · cases Chapter.treat source.lead (source.fetchAll requested picks is).outcomes i <;> rfl
  · cases source.noteFor is i <;> rfl

/-- The incidents of the chapter on issues are the failures, one for each. -/
theorem issues_incidents (h : Distinct is) (hx : x.lead = source.lead) :
    (Chapter.issues x is (source.fetchAll requested picks is).outcomes).incidents =
      (source.failures is).map fun s => .ofFault (unreadable source.lead s.1) s.2 := by
  have htreat := filterMap_treat source requested picks h
    (fun _ t => t.incident?) (fun _ => rfl) (fun _ => rfl)
  unfold Chapter.issues Source.failures
  simp only [List.map_filterMap, hx]
  refine Eq.trans (List.filterMap_congr fun i _ => ?_)
    (htreat.trans (List.filterMap_congr fun i _ => ?_))
  · cases Chapter.treat source.lead (source.fetchAll requested picks is).outcomes i <;> rfl
  · cases source.noteFor is i <;> rfl

/-- The notes that the chapter misses are those that are owed. -/
theorem issues_missing (h : Distinct is) (hx : x.lead = source.lead) :
    (Chapter.issues x is (source.fetchAll requested picks is).outcomes).missing =
      source.owed is := by
  unfold Chapter.issues Source.owed
  simp only
  refine List.filter_congr fun i hi => ?_
  rw [hx, treat_fetchAll h hi]
  unfold Issue.lacksNote Issue.hasNote
  cases hstatus : i.status with
  | notNeeded | missing => rfl
  | attached => cases source.noteFor is i <;> rfl

/-! ## One treatment for each issue -/

/-- A note is shown if it is attached and could be read. -/
theorem mem_shown_iff {n : Note} :
    (i, n) ∈ source.shown is ↔ i ∈ is ∧ i.status = .attached ∧ source.noteFor is i = .ok n := by
  unfold Source.shown
  rw [List.mem_filterMap]
  constructor
  · rintro ⟨j, hj, hn⟩
    obtain ⟨hj, hnote⟩ := List.mem_filter.1 hj
    cases hread : source.noteFor is j with
    | error f =>
      rw [hread] at hn
      cases hn
    | ok m =>
      rw [hread] at hn
      cases hn
      exact ⟨hj, hasNote_iff.1 hnote, hread⟩
  · rintro ⟨hi, hstatus, hread⟩
    refine ⟨i, List.mem_filter.2 ⟨hi, hasNote_iff.2 hstatus⟩, ?_⟩
    rw [hread]
    rfl

/-- A note is owed if it is missing, or attached and could not be read. -/
theorem mem_owed_iff :
    i ∈ source.owed is ↔
      i ∈ is ∧
      (i.status = .missing ∨ i.status = .attached ∧ ∃ f, source.noteFor is i = .error f) := by
  unfold Source.owed Issue.lacksNote Issue.hasNote
  rw [List.mem_filter]
  refine and_congr_right fun _ => ?_
  cases i.status with
  | notNeeded | missing => simp
  | attached =>
    cases source.noteFor is i with
    | ok n => simp [Except.isOk, Except.toBool]
    | error f => simp [Except.isOk, Except.toBool]

theorem key_mem_owed_iff (h : Distinct is) (hi : i ∈ is) :
    i.key ∈ (source.owed is).map (·.key) ↔ i ∈ source.owed is := by
  constructor
  · intro hkey
    obtain ⟨j, hj, he⟩ := List.mem_map.1 hkey
    rwa [h.eq_of_key (mem_owed_iff.1 hj).1 hi he] at hj
  · exact fun howed => List.mem_map_of_mem howed

/-- An issue that needs no note is neither shown nor owed one, and any other issue is either. -/
theorem treated_once (hi : i ∈ is) :
    (i.status = .notNeeded → (∀ n, (i, n) ∉ source.shown is) ∧ i ∉ source.owed is) ∧
      (i.status ≠ .notNeeded → ((∃ n, (i, n) ∈ source.shown is) ↔ i ∉ source.owed is)) := by
  simp only [mem_shown_iff, mem_owed_iff]
  cases i.status with
  | notNeeded => simp
  | missing => simp [hi]
  | attached =>
    cases source.noteFor is i with
    | ok n => simp [hi]
    | error f => simp [hi]

end

end Release

end Pamphlet
