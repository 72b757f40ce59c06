import Pamphlet.Record.Intake

/-!
# Reading back what was written

A field is read as what its datum is read as, and a list as what its items are; so a record written
from readable parts is read back whole. Conversely, what has been read of a field has been read of
its datum.
-/

namespace Pamphlet.Record.Intake

variable {α : Type} {fields : Fields} {name : String} {read : Datum → Intake α} {d : Datum} {x : α}

theorem required_of_get? (hd : fields.get? name = some d) (hx : read d = .ok x) :
    required fields name read = .ok x := by
  unfold required
  rw [hd, Option.elim_some, hx]
  rfl

theorem optional_of_get? {default : α} (hd : fields.get? name = some d) (hx : read d = .ok x) :
    optional fields name default read = .ok x := by
  unfold optional
  rw [hd, Option.elim_some, hx]
  rfl

theorem under_ok {key : Key} {a : Intake α} (h : under key a = .ok x) : a = .ok x := by
  cases a with
  | ok y => exact h
  | error vs => cases h

theorem required_ok (h : required fields name read = .ok x) :
    ∃ d, fields.get? name = some d ∧ read d = .ok x := by
  have hread := under_ok h
  cases hd : fields.get? name with
  | none =>
    rw [hd] at hread
    cases hread
  | some d =>
    rw [hd] at hread
    exact ⟨d, rfl, hread⟩

theorem textWithin_ok {least : Nat} {most : Option Nat} {s : String}
    (h : textWithin least most d = .ok s) : d = .text s ∧ least ≤ s.length := by
  unfold textWithin at h
  split at h
  · rename_i s'
    by_cases hleast : s'.length < least
    · rw [if_pos hleast] at h
      cases h
    · rw [if_neg hleast] at h
      have hsame : s' = s := by
        cases most with
        | none => exact Except.ok.inj h
        | some most =>
          simp only at h
          split at h
          · cases h
          · exact Except.ok.inj h
      rw [← hsame]
      exact ⟨rfl, Nat.le_of_not_lt hleast⟩
  · cases h

/-- A list is read back if each of its elements is. -/
theorem all_map (write : α → Datum) (h : ∀ x, read (write x) = .ok x) (index : Nat) (xs : List α) :
    all read index (xs.map write) = .ok xs := by
  induction xs generalizing index with
  | nil => rfl
  | cons x xs ih =>
    rw [List.map_cons]
    unfold all
    rw [h, ih]
    rfl

/-- A list is read back if each of its items is. -/
theorem listOf_map (write : α → Datum) (h : ∀ x, read (write x) = .ok x) (xs : List α) :
    listOf read (.list (xs.map write)) = .ok xs :=
  all_map write h 0 xs

theorem listOf_texts (ss : List String) : listOf text (.texts ss) = .ok ss :=
  listOf_map .text (fun _ => rfl) ss

theorem whole_number (n : Int) : whole (.number n 0) = .ok n := by
  have hunit : ((Number.tenPower 0 : Nat) : Int) = 1 := rfl
  simp only [whole, hunit, Int.emod_one, Int.ediv_one, if_true]
  rfl

end Pamphlet.Record.Intake
