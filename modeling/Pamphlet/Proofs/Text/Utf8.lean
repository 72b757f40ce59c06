import Pamphlet.Text.Utf8

/-!
# Bytes of texts

`Utf8.encode` is the encoding of strings that the standard library has: `encode_eq`. Reading the
bytes of a text gives its characters and no fault: `decode_encode`.
-/

namespace Pamphlet.Text.Utf8

theorem encodeChar_eq (c : Char) : encodeChar c = String.utf8EncodeChar c := by
  -- the three bounds of the standard library are inclusive, and it cuts the first digits to size
  have hc : c.val.toNat < 0x110000 := by
    rcases c.valid with h | ⟨-, h⟩ <;> omega
  unfold encodeChar String.utf8EncodeChar
  simp only [Char.toNat]
  by_cases h₁ : c.val.toNat < 0x80
  · have h₁' : c.val.toNat ≤ 0x7f := by omega
    rw [if_pos h₁, if_pos h₁']
  have h₁' : ¬c.val.toNat ≤ 0x7f := by omega
  rw [if_neg h₁, if_neg h₁']
  by_cases h₂ : c.val.toNat < 0x800
  · have h₂' : c.val.toNat ≤ 0x7ff := by omega
    rw [if_pos h₂, if_pos h₂', Nat.mod_eq_of_lt (a := c.val.toNat / 64) (b := 32) (by omega),
      Nat.add_comm 0xC0, Nat.add_comm 0x80]
  have h₂' : ¬c.val.toNat ≤ 0x7ff := by omega
  rw [if_neg h₂, if_neg h₂']
  by_cases h₃ : c.val.toNat < 0x10000
  · have h₃' : c.val.toNat ≤ 0xffff := by omega
    rw [if_pos h₃, if_pos h₃', Nat.mod_eq_of_lt (a := c.val.toNat / 4096) (b := 16) (by omega),
      Nat.add_comm 0xE0, Nat.add_comm 0x80, Nat.add_comm 0x80]
  · have h₃' : ¬c.val.toNat ≤ 0xffff := by omega
    rw [if_neg h₃, if_neg h₃', Nat.mod_eq_of_lt (a := c.val.toNat / 262144) (b := 8) (by omega),
      Nat.add_comm 0xF0, Nat.add_comm 0x80, Nat.add_comm 0x80, Nat.add_comm 0x80]

theorem encode_eq (s : String) : encode s = s.toByteArray.data.toList := by
  have hlist : s.toByteArray = s.toList.utf8Encode := by
    rw [String.utf8Encode_toList]
  rw [hlist]
  unfold encode List.utf8Encode
  rw [List.toList_data_toByteArray]
  congr 1
  funext c
  exact encodeChar_eq c

/-! ## Reading back -/

section

variable {offset : Nat} {b : UInt8} {bs : List UInt8} {begun : Pending}

theorem decodeFrom_start (h : start? b = some begun) (hmissing : begun.missing = 0) :
    decodeFrom offset none (b :: bs) =
      (Char.ofNat begun.bits :: (decodeFrom (offset + 1) none bs).1,
        (decodeFrom (offset + 1) none bs).2) := by
  rw [decodeFrom, h]
  simp only [hmissing, if_true]

theorem decodeFrom_begin (h : start? b = some begun) (hmissing : begun.missing ≠ 0) :
    decodeFrom offset none (b :: bs) = decodeFrom offset (some begun) bs := by
  rw [decodeFrom, h]
  simp only [hmissing, if_false]

theorem toNat_toUInt8 {n : Nat} (h : n < 256) : n.toUInt8.toNat = n :=
  Nat.mod_eq_of_lt h

/-- A byte in the range that is expected goes on with the sequence. -/
theorem next?_some {n low high missing bits : Nat} {read : List UInt8} (h : n < 256)
    (hlow : low ≤ n) (hhigh : n ≤ high) :
    (Pending.mk read (missing + 1) bits low high).next? n.toUInt8 =
      some ⟨n.toUInt8 :: read, missing, bits * 64 + (n - 0x80), 0x80, 0xBF⟩ := by
  unfold Pending.next?
  simp only [toNat_toUInt8 h, hlow, hhigh, and_self, if_true, Nat.add_sub_cancel]

theorem decodeFrom_more {n low high missing bits : Nat} {read : List UInt8} (hlow : low ≤ n)
    (hhigh : n ≤ high) (h : n < 256) :
    decodeFrom offset (some ⟨read, missing + 2, bits, low, high⟩) (n.toUInt8 :: bs) =
      decodeFrom offset
      (some ⟨n.toUInt8 :: read, missing + 1, bits * 64 + (n - 0x80), 0x80, 0xBF⟩) bs := by
  rw [decodeFrom, next?_some h hlow hhigh]
  simp only [Nat.succ_ne_zero, if_false]

theorem decodeFrom_last {n low high bits : Nat} {read : List UInt8} (hlow : low ≤ n)
    (hhigh : n ≤ high) (h : n < 256) :
    decodeFrom offset (some ⟨read, 1, bits, low, high⟩) (n.toUInt8 :: bs) =
      (Char.ofNat (bits * 64 + (n - 0x80)) :: (decodeFrom (offset + (read.length + 1)) none bs).1,
        (decodeFrom (offset + (read.length + 1)) none bs).2) := by
  rw [decodeFrom, next?_some h hlow hhigh]
  simp only [if_true, List.length_cons]

theorem start?_two {n : Nat} (h : 0xC2 ≤ n) (h' : n < 0xE0) :
    start? n.toUInt8 = some ⟨[n.toUInt8], 1, n - 0xC0, 0x80, 0xBF⟩ := by
  unfold start?
  simp only [toNat_toUInt8 (show n < 256 by omega)]
  rw [if_neg (by omega), if_neg (by omega), if_pos h']

/-- The second byte of three is bounded so that the form is not overlong and no surrogate. -/
theorem start?_three {n : Nat} (h : 0xE0 ≤ n) (h' : n < 0xF0) :
    ∃ low high, start? n.toUInt8 = some ⟨[n.toUInt8], 2, n - 0xE0, low, high⟩ ∧
      (low = 0x80 ∨ low = 0xA0 ∧ n = 0xE0) ∧ (high = 0xBF ∨ high = 0x9F ∧ n = 0xED) := by
  unfold start?
  simp only [toNat_toUInt8 (show n < 256 by omega)]
  rw [if_neg (by omega), if_neg (by omega), if_neg (by omega)]
  by_cases h₁ : n = 0xE0
  · subst h₁
    exact ⟨0xA0, 0xBF, rfl, .inr ⟨rfl, rfl⟩, .inl rfl⟩
  rw [if_neg h₁]
  by_cases h₂ : n = 0xED
  · subst h₂
    exact ⟨0x80, 0x9F, rfl, .inl rfl, .inr ⟨rfl, rfl⟩⟩
  rw [if_neg h₂, if_pos h']
  exact ⟨0x80, 0xBF, rfl, .inl rfl, .inl rfl⟩

/-- The second byte of four is bounded so that the form is not overlong and the code point is
one. -/
theorem start?_four {n : Nat} (h : 0xF0 ≤ n) (h' : n < 0xF5) :
    ∃ low high, start? n.toUInt8 = some ⟨[n.toUInt8], 3, n - 0xF0, low, high⟩ ∧
      (low = 0x80 ∨ low = 0x90 ∧ n = 0xF0) ∧ (high = 0xBF ∨ high = 0x8F ∧ n = 0xF4) := by
  unfold start?
  simp only [toNat_toUInt8 (show n < 256 by omega)]
  rw [if_neg (by omega), if_neg (by omega), if_neg (by omega), if_neg (by omega), if_neg (by omega),
    if_neg (by omega)]
  by_cases h₁ : n = 0xF0
  · subst h₁
    exact ⟨0x90, 0xBF, rfl, .inr ⟨rfl, rfl⟩, .inl rfl⟩
  rw [if_neg h₁]
  by_cases h₂ : n < 0xF4
  · rw [if_pos h₂]
    exact ⟨0x80, 0xBF, rfl, .inl rfl, .inl rfl⟩
  have h₃ : n = 0xF4 := by omega
  subst h₃
  exact ⟨0x80, 0x8F, rfl, .inl rfl, .inr ⟨rfl, rfl⟩⟩

end

/-- The bytes of a character are read as the character. -/
theorem decodeFrom_encodeChar (offset : Nat) (c : Char) (bs : List UInt8) :
    ∃ offset', decodeFrom offset none (encodeChar c ++ bs) =
      (c :: (decodeFrom offset' none bs).1, (decodeFrom offset' none bs).2) := by
  have hsurrogate : c.toNat < 0xD800 ∨ 0xDFFF < c.toNat ∧ c.toNat < 0x110000 := c.valid
  have hc : ∀ n, n = c.toNat → Char.ofNat n = c := by
    rintro n rfl
    exact Char.ofNat_toNat c
  unfold encodeChar
  simp only
  by_cases h₁ : c.toNat < 0x80
  · rw [if_pos h₁]
    have hstart : start? c.toNat.toUInt8 = some ⟨[c.toNat.toUInt8], 0, c.toNat, 0, 0⟩ := by
      unfold start?
      simp only [toNat_toUInt8 (show c.toNat < 256 by omega)]
      rw [if_pos h₁]
    refine ⟨offset + 1, ?_⟩
    rw [List.singleton_append, decodeFrom_start hstart rfl, hc _ rfl]
  rw [if_neg h₁]
  by_cases h₂ : c.toNat < 0x800
  · rw [if_pos h₂]
    have hstart := start?_two (n := 0xC0 + c.toNat / 64) (by omega) (by omega)
    refine ⟨offset + 2, ?_⟩
    rw [List.cons_append, List.singleton_append, decodeFrom_begin hstart (Nat.succ_ne_zero _),
      decodeFrom_last, hc _ (by omega)]
    · rfl
    all_goals omega
  rw [if_neg h₂]
  by_cases h₃ : c.toNat < 0x10000
  · rw [if_pos h₃]
    obtain ⟨low, high, hstart, hlow, hhigh⟩ := start?_three (n := 0xE0 + c.toNat / 4096)
      (by omega) (by omega)
    refine ⟨offset + 3, ?_⟩
    rw [List.cons_append, List.cons_append, List.singleton_append,
      decodeFrom_begin hstart (Nat.succ_ne_zero _), decodeFrom_more, decodeFrom_last,
        hc _ (by omega)]
    · rfl
    all_goals omega
  · rw [if_neg h₃]
    obtain ⟨low, high, hstart, hlow, hhigh⟩ := start?_four (n := 0xF0 + c.toNat / 262144)
      (by omega) (by omega)
    refine ⟨offset + 4, ?_⟩
    rw [List.cons_append, List.cons_append, List.cons_append, List.singleton_append,
      decodeFrom_begin hstart (Nat.succ_ne_zero _), decodeFrom_more, decodeFrom_more,
        decodeFrom_last,
      hc _ (by omega)]
    · rfl
    all_goals omega

/-- Reading the bytes of a text gives its characters. -/
theorem decode_encode (s : String) : decode (encode s) = (s.toList, none) := by
  have hfrom : ∀ (cs : List Char) (offset : Nat),
      decodeFrom offset none (cs.flatMap encodeChar) = (cs, none) := by
    intro cs
    induction cs with
    | nil => exact fun _ => rfl
    | cons c cs ih =>
      intro offset
      obtain ⟨offset', h⟩ := decodeFrom_encodeChar offset c (cs.flatMap encodeChar)
      rw [List.flatMap_cons, h, ih]
  exact hfrom s.toList 0

end Pamphlet.Text.Utf8
