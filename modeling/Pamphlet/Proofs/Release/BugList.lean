import Mathlib.Data.List.Nodup
import Pamphlet.Proofs.Outcome
import Pamphlet.Release.BugList

/-!
# A bug list names an issue once

What a line does is `Reads`, and a list is read line by line (`readLines_cons_iff`). A record that
names an issue again is refused, so the keys of a list that has been read are all different:
`ofBytes_distinct`.
-/

namespace Pamphlet.Release.BugList

/-- No issue is listed twice. -/
def Distinct (is : List Issue) : Prop :=
  (is.map (·.key)).Nodup

/-- A new issue has a key that no issue before it has. -/
theorem checkNew_ok {lead : String} {seen : List Issue} {i i' : Issue}
    (h : checkNew lead seen i = .ok i') : i' = i ∧ ∀ j ∈ seen, j.key ≠ i.key := by
  unfold checkNew at h
  split at h
  · cases h
  · rename_i hnew
    cases h
    refine ⟨rfl, fun j hj he => hnew ?_⟩
    rw [List.any_eq_true]
    exact ⟨j, hj, by simpa using he⟩

theorem Distinct.append {is : List Issue} {i : Issue} (h : Distinct is)
    (hnew : ∀ j ∈ is, j.key ≠ i.key) : Distinct (is ++ [i]) := by
  unfold Distinct at h ⊢
  rw [List.map_append, List.nodup_append]
  refine ⟨h, List.nodup_singleton _, ?_⟩
  intro key hkey key' hkey' he
  obtain ⟨j, hj, rfl⟩ := List.mem_map.1 hkey
  rw [List.map_singleton, List.mem_singleton] at hkey'
  exact hnew j hj (he.trans hkey')

theorem checkNew_of_new {lead : String} {seen : List Issue} {i : Issue}
    (h : ∀ j ∈ seen, j.key ≠ i.key) : checkNew lead seen i = .ok i := by
  unfold checkNew
  rw [if_neg]
  rw [List.any_eq_true]
  rintro ⟨j, hj, hkey⟩
  exact h j hj (beq_iff_eq.1 hkey)

/-! ## Line by line -/

/-- What one line does to what has been read. -/
inductive Reads (naming : Naming) (list : BugList) (line : List Char) : BugList → Prop
  | blank (kind : Line.read line = .blank) : Reads naming list line list
  | comment {previous : Option String} (kind : Line.read line = .comment previous) :
      Reads naming list line { list with previous := list.previous <|> previous }
  | record {fields : List (List Char)} {i : Issue} (kind : Line.read line = .record fields)
      (read : readRecord naming fields = .ok (.ok i)) (new : ∀ j ∈ list.issues, j.key ≠ i.key) :
      Reads naming list line { list with issues := list.issues ++ [i] }

section

variable {path : Disk.Path} {naming : Naming} {number : Nat} {list out : BugList}

theorem readLines_cons_iff {line : List Char} {rest : List (List Char)} :
    readLines path naming number list (line :: rest) = .ok out ↔
      ∃ next, Reads naming list line next ∧
        readLines path naming (number + 1) next rest = .ok out := by
  constructor
  · intro h
    unfold readLines at h
    split at h
    · rename_i hline
      exact ⟨_, .blank hline, h⟩
    · rename_i previous hline
      exact ⟨_, .comment hline, h⟩
    · rename_i fields hline
      obtain ⟨read, hread, h⟩ := bind_ok h
      split at h
      · cases h
      · rename_i i hi
        cases read with
        | error problem => cases hi
        | ok i' =>
          obtain ⟨rfl, hnew⟩ := checkNew_ok hi
          exact ⟨_, .record hline hread hnew, h⟩
  · rintro ⟨next, hline, h⟩
    unfold readLines
    cases hline with
    | blank hline =>
      rw [hline]
      exact h
    | comment hline =>
      rw [hline]
      exact h
    | record hline hread hnew =>
      rename_i fields i
      have hcheck :
          (Except.ok i : Except RecordProblem Issue).bind
          (checkNew naming.lead list.issues) = .ok i :=
        checkNew_of_new hnew
      simp only [hline, hread, ok_bind, hcheck]
      exact h

/-- What each line that is read preserves holds of the whole list. -/
theorem readLines_induct {P : BugList → Prop}
    (step : ∀ {list next : BugList} {line : List Char}, Reads naming list line next →
      P list → P next)
    {lines : List (List Char)} (h : readLines path naming number list lines = .ok out)
    (hlist : P list) : P out := by
  induction lines generalizing number list with
  | nil =>
    cases h
    exact hlist
  | cons line rest ih =>
    obtain ⟨next, hnext, h⟩ := readLines_cons_iff.1 h
    exact ih h (step hnext hlist)

end

/-! ## Keys -/

/-- Reading a line keeps the keys different. -/
theorem Reads.distinct {naming : Naming} {list next : BugList} {line : List Char}
    (h : Reads naming list line next) (hlist : Distinct list.issues) : Distinct next.issues := by
  cases h with
  | blank kind | comment kind => exact hlist
  | record kind read new => exact hlist.append new

/-- **The keys of a list of issues are different.** -/
theorem ofBytes_distinct {path : Disk.Path} {naming : Naming} {bytes : List UInt8} {list : BugList}
    (h : ofBytes path naming bytes = .ok list) : Distinct list.issues := by
  obtain ⟨cs, -, hlist⟩ := ofBytes_ok h
  exact readLines_induct (P := fun list => Distinct list.issues) Reads.distinct hlist List.nodup_nil

/-- In a list without repetitions the key tells the issue. -/
theorem Distinct.eq_of_key {is : List Issue} (h : Distinct is) {i j : Issue} (hi : i ∈ is)
    (hj : j ∈ is) (he : i.key = j.key) : i = j :=
  List.inj_on_of_nodup_map h hi hj he

end Pamphlet.Release.BugList
