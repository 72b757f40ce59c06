import Pamphlet.Text.Blank

/-!
# Folded texts

Folding a text in two parts: the second one is folded as the first one ends. A text without blanks
is left as it is.
-/

namespace Pamphlet.Text

/-- Whether what has been read ends in a blank, given whether that was so before. -/
def endsBlank (before : Bool) (cs : List Char) : Bool :=
  cs.getLast?.elim before isBlank

theorem endsBlank_cons (before : Bool) (c : Char) (cs : List Char) :
    endsBlank before (c :: cs) = endsBlank (isBlank c) cs := by
  cases cs with
  | nil => rfl
  | cons d ds =>
    rw [endsBlank, endsBlank, List.getLast?_cons_cons, List.getLast?_cons]
    rfl

theorem foldRunsFrom_append (mark : Char) (before : Bool) (cs ds : List Char) :
    foldRunsFrom mark before (cs ++ ds) =
      foldRunsFrom mark before cs ++ foldRunsFrom mark (endsBlank before cs) ds := by
  induction cs generalizing before with
  | nil => rfl
  | cons c cs ih =>
    rw [endsBlank_cons, List.cons_append, foldRunsFrom, foldRunsFrom]
    cases hc : isBlank c with
    | true =>
      rw [if_pos rfl, if_pos rfl, ih]
      cases before <;> rfl
    | false =>
      rw [if_neg Bool.false_ne_true, if_neg Bool.false_ne_true, ih]
      rfl

theorem foldRunsFrom_of_not_blank (mark : Char) (before : Bool) {cs : List Char}
    (h : ∀ c ∈ cs, isBlank c = false) : foldRunsFrom mark before cs = cs := by
  induction cs generalizing before with
  | nil => rfl
  | cons c cs ih =>
    obtain ⟨hc, hcs⟩ := List.forall_mem_cons.1 h
    rw [foldRunsFrom, hc, if_neg Bool.false_ne_true, ih false hcs]

end Pamphlet.Text
