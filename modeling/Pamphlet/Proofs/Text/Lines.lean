import Pamphlet.Text.Lines

/-!
# Lines and the ways to end them

A line ends with a line feed, a carriage return or both. A carriage return and a line feed that ends
an empty line after it are read as one end, so that the empty line is lost: `lines_append`.
-/

namespace Pamphlet.Text

/-- The ways to end a line. -/
inductive LineEnd : List Char → Prop
  | feed : LineEnd ['\n']
  | carriageReturn : LineEnd ['\r']
  | both : LineEnd ['\r', '\n']

theorem lines_feed (cs : List Char) : lines ('\n' :: cs) = [] :: lines cs := by
  rw [lines]
  · rfl
  · intro cs' hc
    cases hc

theorem lines_carriageReturn {cs : List Char} (h : ∀ cs', cs ≠ '\n' :: cs') :
    lines ('\r' :: cs) = [] :: lines cs := by
  rw [lines]
  · rfl
  · intro cs' _
    exact h cs'

theorem lines_append_of {line rest stop : List Char} {below : List (List Char)}
    (hline : ∀ c ∈ line, isLineEnd c = false) (h : lines (stop ++ rest) = [] :: below) :
    lines (line ++ (stop ++ rest)) = line :: below := by
  induction line with
  | nil => exact h
  | cons c line ih =>
    rw [List.cons_append, lines_cons_of_not_end (hline c List.mem_cons_self),
      ih fun x hx => hline x (List.mem_cons_of_mem c hx)]

/-- A line, its end, then any text: the line and the lines of the text, or of what follows the line
feed that the text begins with. -/
theorem lines_append {line stop : List Char} (hline : ∀ c ∈ line, isLineEnd c = false)
    (hend : LineEnd stop) (rest : List Char) :
    lines (line ++ (stop ++ rest)) = line :: lines rest ∨
      ∃ rest', rest = '\n' :: rest' ∧ lines (line ++ (stop ++ rest)) = line :: lines rest' := by
  cases hend with
  | feed => exact .inl (lines_append_of hline (lines_feed rest))
  | both => exact .inl (lines_append_of hline rfl)
  | carriageReturn =>
    by_cases h : ∃ rest', rest = '\n' :: rest'
    · obtain ⟨rest', rfl⟩ := h
      exact .inr ⟨rest', rfl, lines_append_of hline rfl⟩
    · refine .inl (lines_append_of hline (lines_carriageReturn ?_))
      intro rest' he
      exact h ⟨rest', he⟩

theorem not_end_of_mem_lines {cs line : List Char} (h : line ∈ lines cs) :
    ∀ c ∈ line, isLineEnd c = false := by
  fun_induction lines cs generalizing line with
  | case1 => cases h
  | case2 cs ih =>
    rcases List.mem_cons.1 h with rfl | h
    · exact List.forall_mem_nil _
    · exact ih h
  | case3 c cs _ hend ih =>
    rcases List.mem_cons.1 h with rfl | h
    · exact List.forall_mem_nil _
    · exact ih h
  | case4 c cs _ hend hrest ih =>
    rw [List.mem_singleton] at h
    subst h
    exact List.forall_mem_singleton.2 (Bool.eq_false_iff.2 hend)
  | case5 c cs _ hend first rest hrest ih =>
    rcases List.mem_cons.1 h with rfl | h
    · exact List.forall_mem_cons.2 ⟨Bool.eq_false_iff.2 hend, ih (hrest ▸ List.mem_cons_self)⟩
    · exact ih (hrest ▸ List.mem_cons_of_mem first h)

/-- Lines that are each ended by a line feed. -/
theorem lines_flatMap {ls : List (List Char)} (h : ∀ line ∈ ls, ∀ c ∈ line, isLineEnd c = false) :
    lines (ls.flatMap (· ++ ['\n'])) = ls := by
  induction ls with
  | nil => rfl
  | cons line rest ih =>
    rw [List.flatMap_cons, List.append_assoc, List.singleton_append,
      lines_append_end (h line List.mem_cons_self), ih fun l hl =>
        h l (List.mem_cons_of_mem line hl)]

end Pamphlet.Text
