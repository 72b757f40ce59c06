import Pamphlet.Text.Blank

/-!
# Trimming

What has no blank at either end is left as it is: `Trimmed.trimChars_eq`. Of two texts, only the
last one that has more than blanks is trimmed at its end: `trimEnd_append`.
-/

namespace Pamphlet.Text

/-- A text with no blank at either end. -/
structure Trimmed (cs : List Char) : Prop where
  front : ∀ c ∈ cs.head?, isBlank c = false
  back : ∀ c ∈ cs.getLast?, isBlank c = false

theorem trimmed_of_check {cs : List Char} (hfront : cs.head?.all (!isBlank ·) = true)
    (hback : cs.getLast?.all (!isBlank ·) = true) : Trimmed cs where
  front := fun c hc => by simpa using Option.all_eq_true _ _ |>.1 hfront c hc
  back := fun c hc => by simpa using Option.all_eq_true _ _ |>.1 hback c hc

theorem trimEnd_eq_self {cs : List Char} (h : ∀ c ∈ cs.getLast?, isBlank c = false) :
    trimEnd cs = cs := by
  induction cs with
  | nil => rfl
  | cons c cs ih =>
    cases cs with
    | nil =>
      have hc : isBlank c = false := h c rfl
      simp only [trimEnd, hc, Bool.false_eq_true, if_false]
    | cons d ds =>
      have hlast : ∀ x ∈ (d :: ds).getLast?, isBlank x = false := by
        intro x hx
        exact h x (by rwa [List.getLast?_cons_cons])
      rw [trimEnd, ih hlast]

theorem dropWhile_isBlank_eq_self {cs : List Char} (h : ∀ c ∈ cs.head?, isBlank c = false) :
    cs.dropWhile isBlank = cs := by
  cases cs with
  | nil => rfl
  | cons c cs =>
    have hc : isBlank c = false := h c rfl
    rw [List.dropWhile_cons_of_neg (by rw [hc]; decide)]

theorem Trimmed.trimChars_eq {cs : List Char} (h : Trimmed cs) : trimChars cs = cs := by
  rw [trimChars, dropWhile_isBlank_eq_self h.front, trimEnd_eq_self h.back]

theorem trimmed_of_forall {cs : List Char} (h : ∀ c ∈ cs, isBlank c = false) : Trimmed cs where
  front := fun c hc => h c (List.mem_of_mem_head? hc)
  back := fun c hc => h c (List.mem_of_mem_getLast? hc)

/-- A text that begins without a blank and one that ends without a blank, one after the other. -/
theorem Trimmed.append {cs ds : List Char} (hcs : ∀ c ∈ cs, isBlank c = false) (hds : Trimmed ds) :
    Trimmed (cs ++ ds) where
  front := by
    intro c hc
    cases cs with
    | nil => exact hds.front c hc
    | cons d cs =>
      rw [List.cons_append, List.head?_cons] at hc
      cases hc
      exact hcs _ List.mem_cons_self
  back := by
    intro c hc
    rw [List.getLast?_append] at hc
    cases hlast : ds.getLast? with
    | none =>
      rw [hlast, Option.none_or] at hc
      exact hcs c (List.mem_of_mem_getLast? hc)
    | some d =>
      rw [hlast, Option.some_or] at hc
      exact hds.back c (hlast.trans hc)

/-! ## Texts that are put together -/

theorem trimEnd_cons_of_not_blank {c : Char} (h : isBlank c = false) (cs : List Char) :
    trimEnd (c :: cs) = c :: trimEnd cs := by
  rw [trimEnd]
  split
  · rename_i heq
    rw [heq, h]
    rfl
  · rfl

theorem trimEnd_cons_of_blank {c : Char} (h : isBlank c = true) {cs : List Char}
    (hcs : trimEnd cs = []) : trimEnd (c :: cs) = [] := by
  rw [trimEnd, hcs]
  simp only [h, if_true]

theorem trimEnd_cons_of_ne_nil (c : Char) {cs : List Char} (hcs : trimEnd cs ≠ []) :
    trimEnd (c :: cs) = c :: trimEnd cs := by
  rw [trimEnd]
  split
  · rename_i heq
    exact absurd heq hcs
  · rfl

/-- Where more than blanks follows, only that is trimmed at its end. -/
theorem trimEnd_append_of_ne_nil (cs : List Char) {ds : List Char} (hds : trimEnd ds ≠ []) :
    trimEnd (cs ++ ds) = cs ++ trimEnd ds := by
  induction cs with
  | nil => rfl
  | cons c cs ih =>
    have hne : trimEnd (cs ++ ds) ≠ [] := by
      rw [ih]
      exact List.append_ne_nil_of_right_ne_nil cs hds
    rw [List.cons_append, trimEnd_cons_of_ne_nil c hne, ih, List.cons_append]

theorem trimEnd_append_of_eq_nil (cs : List Char) {ds : List Char} (hds : trimEnd ds = []) :
    trimEnd (cs ++ ds) = trimEnd cs := by
  induction cs with
  | nil => exact hds
  | cons c cs ih => rw [List.cons_append, trimEnd, ih, trimEnd]

theorem dropWhile_isBlank_append (cs : List Char) {ds : List Char}
    (h : ∀ d ∈ ds.head?, isBlank d = false) :
    (cs ++ ds).dropWhile isBlank = cs.dropWhile isBlank ++ ds := by
  induction cs with
  | nil => exact dropWhile_isBlank_eq_self h
  | cons c cs ih =>
    rw [List.cons_append, List.dropWhile_cons, List.dropWhile_cons, ih]
    by_cases hc : isBlank c = true
    · rw [if_pos hc, if_pos hc]
    · rw [if_neg hc, if_neg hc, List.cons_append]

theorem trimEnd_prefix_self (cs : List Char) : trimEnd cs <+: cs := by
  induction cs with
  | nil => exact List.prefix_rfl
  | cons c cs ih =>
    rw [trimEnd]
    split
    · split
      · exact List.nil_prefix
      · exact ⟨cs, rfl⟩
    · exact (List.prefix_cons_inj c).2 ih

theorem mem_of_mem_trimEnd {cs : List Char} {c : Char} (h : c ∈ trimEnd cs) : c ∈ cs :=
  (trimEnd_prefix_self cs).subset h

/-! ## Texts that have nothing but blanks -/

theorem trimEnd_eq_nil_iff {cs : List Char} : trimEnd cs = [] ↔ ∀ c ∈ cs, isBlank c = true := by
  induction cs with
  | nil => exact ⟨fun _ => List.forall_mem_nil _, fun _ => rfl⟩
  | cons c cs ih =>
    rw [List.forall_mem_cons, ← ih]
    by_cases hend : trimEnd cs = []
    · cases hc : isBlank c with
      | true => simp [trimEnd_cons_of_blank hc hend, hend]
      | false => simp [trimEnd_cons_of_not_blank hc]
    · simp [trimEnd_cons_of_ne_nil c hend, hend]

theorem trimChars_eq_nil_iff {cs : List Char} : trimChars cs = [] ↔ ∀ c ∈ cs, isBlank c = true := by
  rw [trimChars, trimEnd_eq_nil_iff]
  induction cs with
  | nil => exact Iff.rfl
  | cons c cs ih =>
    rw [List.dropWhile_cons]
    split
    · rename_i hc
      rw [ih, List.forall_mem_cons]
      exact ⟨fun h => ⟨hc, h⟩, fun h => h.2⟩
    · exact Iff.rfl

/-- A text is trimmed away exactly if it is blank. -/
theorem trim_eq_empty_iff {s : String} : trim s = "" ↔ isBlankText s = true := by
  rw [isBlankText, List.all_eq_true, ← trimChars_eq_nil_iff, trim]
  exact ⟨fun h => String.ofList_injective h, congrArg String.ofList⟩

end Pamphlet.Text
