import Pamphlet.Text.Blank
import Pamphlet.Text.Word

/-!
# Classes of characters

A statement about the characters of ASCII is decided by going through them (`of_ascii`). The blanks
beyond ASCII are few and are listed (`mem_wideBlanks`); so no word character is a blank
(`not_isBlank_of_isWordChar`), which the two tables do not show at a glance.
-/

namespace Pamphlet.Text

/-- The characters of a text that is written out are checked one by one. -/
theorem forall_of_all {p : Char → Prop} [DecidablePred p] {cs : List Char}
    (h : (cs.all fun c => decide (p c)) = true) : ∀ c ∈ cs, p c := by
  intro c hc
  exact of_decide_eq_true (List.all_eq_true.1 h c hc)

theorem of_ascii {p : Char → Prop} (h : ∀ n < 128, p (Char.ofNat n)) {c : Char}
    (hc : c.toNat < 128) : p c := by
  have hp := h c.toNat hc
  rwa [Char.ofNat_toNat] at hp

/-- No character beyond ASCII has an `m` for its lower case. -/
theorem lowerChar_ne_of_not_ascii {c : Char} (h : ¬c.toNat < 128) : lowerChar c ≠ 'm' := by
  unfold lowerChar
  split
  · decide
  · unfold Char.toLower
    split
    · rename_i hcapital
      have hn : c.toNat = c.val.toNat := rfl
      have hZ : 'Z'.val.toNat = 90 := rfl
      simp only [ge_iff_le, UInt32.le_iff_toNat_le] at hcapital
      omega
    · rintro rfl
      exact h (by decide)

theorem lt_of_isAlpha {c : Char} (h : c.isAlpha = true) : c.toNat < 128 := by
  delta Char.isAlpha Char.isUpper Char.isLower at h
  simp only [Bool.or_eq_true, Bool.and_eq_true, decide_eq_true_eq, UInt32.le_iff_toNat_le,
    ge_iff_le] at h
  have hn : c.toNat = c.val.toNat := rfl
  have hz : 'z'.val.toNat = 122 := rfl
  have hZ : 'Z'.val.toNat = 90 := rfl
  omega

/-- The blanks beyond ASCII. -/
def wideBlanks : List Nat :=
  [0x85, 0xA0, 0x1680, 0x2000, 0x2001, 0x2002, 0x2003, 0x2004, 0x2005, 0x2006, 0x2007,
    0x2008, 0x2009, 0x200A, 0x2028, 0x2029, 0x202F, 0x205F, 0x3000]

theorem mem_wideBlanks {c : Char} (h : isBlank c = true) (hc : 128 ≤ c.toNat) :
    c.toNat ∈ wideBlanks := by
  simp only [isBlank, Bool.or_eq_true, Bool.and_eq_true, decide_eq_true_eq, beq_iff_eq] at h
  simp only [wideBlanks, List.mem_cons, List.not_mem_nil, or_false]
  omega

theorem inside_wideBlanks : ∀ n ∈ wideBlanks, CharSet.inside wordChars.bounds n false = false := by
  decide +kernel

theorem not_isBlank_of_isWordChar {c : Char} (h : isWordChar c = true) : isBlank c = false := by
  by_cases hc : c.toNat < 128
  · have hascii : isWordChar c = true → isBlank c = false :=
      of_ascii (p := fun c => isWordChar c = true → isBlank c = false) (by decide +kernel) hc
    exact hascii h
  · cases hblank : isBlank c with
    | false => rfl
    | true =>
      unfold isWordChar CharSet.contains at h
      rw [if_neg hc, inside_wideBlanks _ (mem_wideBlanks hblank (Nat.le_of_not_lt hc))] at h
      cases h

end Pamphlet.Text
