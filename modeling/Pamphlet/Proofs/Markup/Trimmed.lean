import Pamphlet.Proofs.Markup.Print
import Pamphlet.Proofs.Text.Characters
import Pamphlet.Proofs.Text.Trim

/-!
# Trimmed content

Dropping the blanks at both ends of what is written for an element's content is writing the content
of the trimmed element: `trimChars_writtenContent`. Blanks are written as they are, and what is
written of a child begins and ends with no blank but those of the text after it.
-/

namespace Pamphlet.Markup

open Pamphlet.Text

/-! ## Blanks at the ends of content -/

/-- A text that is changed and dropped if nothing is left of it. -/
def retext (f : List Char → List Char) (o : Option String) : Option String :=
  textOf (f (o.getD "").toList)

namespace Element

/-- The element without the blanks at both ends of its content. -/
def trimmed (e : Element) : Element :=
  if e.children.isEmpty then { e with text := retext trimChars e.text }
  else
    { e with
      text := retext (·.dropWhile isBlank) e.text
      children :=
        onLast (fun child => { child with tail := retext trimEnd child.tail }) e.children }

theorem onLast_concat (f : Element → Element) (es : List Element) (e : Element) :
    onLast f (es ++ [e]) = es ++ [f e] := by
  induction es with
  | nil => rfl
  | cons d es ih =>
    cases es with
    | nil => rfl
    | cons d' es =>
      rw [List.cons_append, List.cons_append, onLast, ← List.cons_append, ih]
      rfl

end Element

theorem getD_retext (f : List Char → List Char) (o : Option String) :
    ((retext f o).getD "").toList = f (o.getD "").toList := by
  unfold retext
  rw [textOf_getD, String.toList_ofList]

theorem isRun_retext {f : List Char → List Char} (hf : ∀ cs c, c ∈ f cs → c ∈ cs)
    {o : Option String} (h : IsRun o) : IsRun (retext f o) := by
  intro s hs
  unfold retext textOf at hs
  split at hs
  · cases hs
  · rename_i hne
    cases hs
    refine ⟨fun he => hne (String.ofList_injective he), ?_⟩
    rw [String.toList_ofList]
    exact fun c hc => isText_of_isRun h c (hf _ c hc)

/-! ## Blanks at the ends of what is written -/

theorem textChar_of_isBlank {c : Char} (h : isBlank c = true) : textChar c = [c] := by
  have hamp : c ≠ '&' := by
    rintro rfl
    exact absurd h (by decide)
  have hopen : c ≠ '<' := by
    rintro rfl
    exact absurd h (by decide)
  have hclose : c ≠ '>' := by
    rintro rfl
    exact absurd h (by decide)
  simp only [textChar, hamp, hopen, hclose, if_false]

/-- A character that is no blank is written without blanks. -/
theorem textChar_unblank {c : Char} (h : isBlank c = false) :
    ∀ d ∈ textChar c, isBlank d = false := by
  unfold textChar
  split
  · exact forall_of_all (by decide)
  split
  · exact forall_of_all (by decide)
  split
  · exact forall_of_all (by decide)
  · intro d hd
    rw [List.mem_singleton.1 hd]
    exact h

theorem textChar_ne_nil (c : Char) : textChar c ≠ [] := by
  by_cases h : textChar c = [c]
  · rw [h]
    exact List.cons_ne_nil c []
  · obtain ⟨cs, hcs⟩ := textChar_escaped h
    rw [hcs]
    exact List.cons_ne_nil _ cs

/-- Escaped text is trimmed at its beginning as the text is. -/
theorem dropWhile_escaped (cs : List Char) :
    (cs.flatMap textChar).dropWhile isBlank = (cs.dropWhile isBlank).flatMap textChar := by
  induction cs with
  | nil => rfl
  | cons c cs ih =>
    rw [List.flatMap_cons]
    by_cases hc : isBlank c = true
    · rw [textChar_of_isBlank hc, List.singleton_append, List.dropWhile_cons_of_pos hc,
        List.dropWhile_cons_of_pos hc, ih]
    · have hunblank := textChar_unblank (c := c) (by simpa using hc)
      rw [List.dropWhile_cons_of_neg hc, List.flatMap_cons]
      refine dropWhile_isBlank_eq_self fun d hd => hunblank d ?_
      rw [List.head?_append_of_ne_nil _ (textChar_ne_nil c)] at hd
      exact List.mem_of_mem_head? hd

/-- Escaped text is trimmed at its end as the text is. -/
theorem trimEnd_escaped (cs : List Char) :
    trimEnd (cs.flatMap textChar) = (trimEnd cs).flatMap textChar := by
  induction cs with
  | nil => rfl
  | cons c cs ih =>
    rw [List.flatMap_cons]
    by_cases hcs : trimEnd cs = []
    · rw [trimEnd_append_of_eq_nil _ (by rw [ih, hcs]; rfl)]
      by_cases hc : isBlank c = true
      · rw [textChar_of_isBlank hc, trimEnd_cons_of_blank hc rfl, trimEnd_cons_of_blank hc hcs]
        rfl
      · have hunblank : isBlank c = false := by simpa using hc
        rw [trimEnd_cons_of_not_blank hunblank, hcs, List.flatMap_singleton]
        exact trimEnd_eq_self fun d hd => textChar_unblank hunblank d (List.mem_of_mem_getLast? hd)
    · have hne : (trimEnd cs).flatMap textChar ≠ [] := by
        obtain ⟨d, ds, hds⟩ := List.exists_cons_of_ne_nil hcs
        rw [hds, List.flatMap_cons]
        exact List.append_ne_nil_of_left_ne_nil (textChar_ne_nil d) _
      rw [trimEnd_append_of_ne_nil _ (by rw [ih]; exact hne), trimEnd_cons_of_ne_nil c hcs, ih,
        List.flatMap_cons]

/-! ## Content -/

/-- The characters of an element's content as they are written. -/
def Element.writtenContent (e : Element) : List Char :=
  (e.text.getD "").toList.flatMap textChar ++ e.children.flatMap Element.written

/-- What is written for an element ends in a tag, so only the text behind it is trimmed. -/
theorem trimEnd_written {e : Element} (h : e.Readable) :
    trimEnd e.written = ({ e with tail := retext trimEnd e.tail } : Element).written := by
  obtain ⟨front, hfront⟩ := written_split h
  have hself : e.written = front ++ '>' :: (e.tail.getD "").toList.flatMap textChar := by
    rw [← hfront e.tail h.here.tail]
    cases e
    rfl
  have hangle : isBlank '>' = false := by decide
  have hne : trimEnd ('>' :: (e.tail.getD "").toList.flatMap textChar) ≠ [] := by
    rw [trimEnd_cons_of_not_blank hangle]
    exact List.cons_ne_nil _ _
  rw [hself, trimEnd_append_of_ne_nil front hne, trimEnd_cons_of_not_blank hangle, trimEnd_escaped,
    hfront _ (isRun_retext (fun _ _ => mem_of_mem_trimEnd) h.here.tail), getD_retext]

/-- **Trimming what is written of content is writing the trimmed content.** -/
theorem trimChars_writtenContent {e : Element} (h : ∀ child ∈ e.children, child.Readable) :
    trimChars e.writtenContent = e.trimmed.writtenContent := by
  unfold Element.trimmed Element.writtenContent
  rcases List.eq_nil_or_concat e.children with hnone | ⟨es, last, hchildren⟩
  · rw [hnone]
    simp only [List.isEmpty_nil, if_true, List.flatMap_nil, List.append_nil, getD_retext]
    rw [trimChars, dropWhile_escaped, trimEnd_escaped]
    rfl
  · have hlast : last.Readable := h last (by rw [hchildren]; simp)
    have hwhole : e.children.isEmpty = false := by
      rw [hchildren]
      simp
    -- the content has an angle at its front after the text, and one at its end before the last tail
    have hfront : ∀ d ∈ (e.children.flatMap Element.written).head?, isBlank d = false := by
      obtain ⟨first, others, hfirst⟩ :=
        List.exists_cons_of_ne_nil (List.isEmpty_eq_false_iff.1 hwhole)
      obtain ⟨more, hmore⟩ := written_begins (h first (by rw [hfirst]; exact List.mem_cons_self))
      intro d hd
      rw [hfirst, List.flatMap_cons, hmore, List.cons_append, List.head?_cons] at hd
      cases hd
      decide
    have hne : trimEnd last.written ≠ [] := by
      obtain ⟨more, hmore⟩ := written_begins
        (hlast.withTail (isRun_retext (fun _ _ => mem_of_mem_trimEnd) hlast.here.tail))
      rw [trimEnd_written hlast, hmore]
      exact List.cons_ne_nil _ _
    rw [hwhole]
    simp only [Bool.false_eq_true, if_false, getD_retext]
    rw [trimChars, dropWhile_isBlank_append _ hfront, dropWhile_escaped, hchildren,
      List.concat_eq_append, Element.onLast_concat, List.flatMap_append, List.flatMap_append,
      List.flatMap_singleton,
      List.flatMap_singleton, ← List.append_assoc, trimEnd_append_of_ne_nil _ hne,
        trimEnd_written hlast,
      List.append_assoc]

theorem mem_of_mem_trimChars {cs : List Char} {c : Char} (h : c ∈ trimChars cs) : c ∈ cs :=
  List.dropWhile_suffix isBlank |>.subset (mem_of_mem_trimEnd h)

namespace Element

theorem isRun_trimmed {e : Element} (h : IsRun e.text) : IsRun e.trimmed.text := by
  unfold trimmed
  split
  · exact isRun_retext (fun _ _ => mem_of_mem_trimChars) h
  · exact isRun_retext (fun _ _ hc => List.dropWhile_suffix isBlank |>.subset hc) h

theorem mem_of_mem_trimmed {e : Element} {c : Char} (h : c ∈ (e.trimmed.text.getD "").toList) :
    c ∈ (e.text.getD "").toList := by
  unfold trimmed at h
  split at h
  · rw [getD_retext] at h
    exact mem_of_mem_trimChars h
  · rw [getD_retext] at h
    exact (List.dropWhile_suffix isBlank).subset h

/-- Trimming changes no child but for the text after the last one. -/
theorem children_trimmed {p : Element → Prop} {e : Element} (h : ∀ child ∈ e.children, p child)
    (htail : ∀ child, p child → p { child with tail := retext trimEnd child.tail }) :
    ∀ child ∈ e.trimmed.children, p child := by
  unfold trimmed
  split
  · exact h
  · rcases List.eq_nil_or_concat e.children with hnone | ⟨es, last, hchildren⟩
    · rw [hnone]
      exact List.forall_mem_nil _
    · rw [hchildren, List.concat_eq_append, List.forall_mem_append, List.forall_mem_singleton] at h
      rw [hchildren, List.concat_eq_append, onLast_concat, List.forall_mem_append,
        List.forall_mem_singleton]
      exact ⟨h.1, htail last h.2⟩

/-- Trimmed children can still be read back. -/
theorem readable_trimmed {e : Element} (h : ∀ child ∈ e.children, child.Readable) :
    ∀ child ∈ e.trimmed.children, child.Readable :=
  children_trimmed h fun _ hchild =>
    hchild.withTail (isRun_retext (fun _ _ => mem_of_mem_trimEnd) hchild.here.tail)

end Element

end Pamphlet.Markup
