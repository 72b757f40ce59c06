import Pamphlet.Fault

/-!
# The codes of faults

What fails fails under one code of the catalog, or under none.
-/

namespace Pamphlet

variable {α : Type}

/-- The code of a fault, if the catalog has it. -/
def Fault.code? (f : Fault) : Option String :=
  f.catalog?.map (·.code)

/-- A computation fails under this code; under none, its fault is not in the catalog. -/
def FailsWith (e : Except Fault α) (code : Option String) : Prop :=
  ∃ f, e = .error f ∧ f.code? = code

variable {e : Except Fault α} {code code' : Option String}

/-- A computation fails under one code at most. -/
theorem FailsWith.code_eq (h : FailsWith e code) (h' : FailsWith e code') : code = code' := by
  obtain ⟨f, rfl, rfl⟩ := h
  obtain ⟨f', hf', rfl⟩ := h'
  cases hf'
  rfl

theorem FailsWith.not_ok (h : FailsWith e code) : ¬∃ a, e = .ok a := by
  obtain ⟨f, rfl, -⟩ := h
  rintro ⟨a, ha⟩
  cases ha

/-- Where one of four conditions holds and each leads to an ending of its own, the endings tell
which one holds. -/
theorem endings_iff {done fine p q r : Prop} {s t : String} (hst : s ≠ t)
    (hdone : done → ∃ a, e = .ok a)
    (hfine : fine → done) (hp : p → FailsWith e (some s)) (hq : q → FailsWith e (some t))
    (hr : r → FailsWith e none) (hor : fine ∨ p ∨ q ∨ r) :
    (done ↔ fine) ∧ (FailsWith e (some s) ↔ p) ∧ (FailsWith e (some t) ↔ q) ∧
    (FailsWith e none ↔ r) := by
  -- no two endings come together
  have hs (h : FailsWith e (some s)) : ¬done ∧ ¬FailsWith e (some t) ∧ ¬FailsWith e none :=
    ⟨fun hd => h.not_ok (hdone hd), fun h' => hst (Option.some.inj (h.code_eq h')),
      fun h' => nomatch h.code_eq h'⟩
  have ht (h : FailsWith e (some t)) : ¬done ∧ ¬FailsWith e none :=
    ⟨fun hd => h.not_ok (hdone hd), fun h' => nomatch h.code_eq h'⟩
  have hnone (h : FailsWith e none) : ¬done := fun hd => h.not_ok (hdone hd)
  grind only

end Pamphlet
