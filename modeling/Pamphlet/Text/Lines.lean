/-!
# Lines

A text splits at every line feed, carriage return and pair of the two; the ends are dropped. What
follows the last end is a line of its own only if it is not empty, so a text that ends its last line
and one that does not have the same lines (`lines_append_end`). While a text is still being read
only the lines that have ended are known (`endedLines`).
-/

namespace Pamphlet.Text

def isLineEnd (c : Char) : Bool :=
  c == '\n' || c == '\r'

/-- The lines of a text, without their ends. -/
def lines : List Char → List (List Char)
  | [] => []
  | '\r' :: '\n' :: cs => [] :: lines cs
  | c :: cs =>
    if isLineEnd c then [] :: lines cs
    else
      match lines cs with
      | [] => [[c]]
      | line :: rest => (c :: line) :: rest

/-- The lines of a text of which more may come. A carriage return at its end may be half of a
pair. -/
def endedLines (cs : List Char) : List (List Char) :=
  let sure := if cs.getLast? = some '\r' then cs.dropLast else cs
  lines (sure.reverse.dropWhile fun c => !isLineEnd c).reverse

theorem lines_cons_of_not_end {c : Char} (h : isLineEnd c = false) (cs : List Char) :
    lines (c :: cs) =
      match lines cs with
      | [] => [[c]]
      | line :: rest => (c :: line) :: rest := by
  have hr : c ≠ '\r' := by rintro rfl; simp [isLineEnd] at h
  rw [lines]
  · simp [h]
  · intro cs' hc; exact absurd hc hr

/-- A text without line ends, then a line feed, then any text: one line and the lines of the
text. -/
theorem lines_append_end {line : List Char} (h : ∀ c ∈ line, isLineEnd c = false)
    (cs : List Char) : lines (line ++ '\n' :: cs) = line :: lines cs := by
  induction line with
  | nil => simp [lines, isLineEnd]
  | cons c line ih =>
    rw [List.cons_append, lines_cons_of_not_end (h c (by simp)),
      ih fun x hx => h x (by simp [hx])]

end Pamphlet.Text
