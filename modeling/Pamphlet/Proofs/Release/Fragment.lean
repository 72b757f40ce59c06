import Pamphlet.Proofs.Markup.Document
import Pamphlet.Proofs.Markup.Enclosed
import Pamphlet.Proofs.Markup.Plain
import Pamphlet.Proofs.Markup.Trimmed
import Pamphlet.Proofs.Release.Summary

/-!
# Fragments are read back

A summary keeps the content of a fragment as text. Read back, it is a division with that content,
without the blanks at its ends and with the line ends of its texts joined: `fragment_of_teller`.
-/

namespace Pamphlet.Markup

open Pamphlet.Text

namespace Element

/-- A division with the content of an element: blanks at both ends are dropped, and line ends of
texts are joined. -/
def division (e : Element) : Element :=
  { label := .tag "div", text := e.trimmed.joined.text, children := e.trimmed.joined.children }

theorem text_division {e : Element} (h : IsRun e.text) : ∀ s ∈ e.division.text, s ≠ "" := by
  intro s hs
  have htext : e.division.text = textOf (normalizeLines (e.trimmed.text.getD "").toList) := by
    rw [textOf_joined (isRun_trimmed h), division, joined_eq]
  rw [htext] at hs
  unfold textOf at hs
  split at hs
  · cases hs
  · rename_i hne
    cases hs
    exact fun hempty => hne (String.ofList_injective hempty)

/-- A tree that can be written without namespaces: no attribute takes the name that binds the
default namespace, and the name of each begins as a name does. -/
def Writable (e : Element) : Prop :=
  ∀ x ∈ e.descendants, ∀ a ∈ x.attributes, a.1 ≠ "xmlns" ∧
    ∀ c ∈ a.1.toList.head?, isNameStart c = true

/-- An element with names of the right form that can be written can be read back. -/
theorem Formed.readable {e : Element} (h : e.Formed IsName fun name => IsNamePart name.toList)
    (hwritable : e.Writable) : e.Readable := by
  intro x hx
  have hhere := h x hx
  refine ⟨hhere.tag, fun a ha => ?_, hhere.distinct, hhere.text, hhere.tail⟩
  obtain ⟨hpart, hvalue⟩ := hhere.attributes a ha
  obtain ⟨hunbound, hfirst⟩ := hwritable x hx a ha
  exact ⟨⟨hpart.name hfirst, hunbound⟩, hvalue⟩

/-- Without carriage returns, the division has the trimmed content as it is. -/
theorem division_eq {e : Element} (htext : '\r' ∉ (e.text.getD "").toList)
    (h : ∀ child ∈ e.children, child.ReturnFree) :
    e.division =
    { label := .tag "div", text := e.trimmed.text, children := e.trimmed.children } := by
  have hchildren : ∀ child ∈ e.trimmed.children, child.joined = child := by
    refine fun child hchild => joined_eq_self (children_trimmed h (fun x hx => ?_) child hchild)
    unfold ReturnFree at hx ⊢
    rw [descendants_eq, List.forall_mem_cons] at hx ⊢
    refine ⟨⟨hx.1.1, fun hmem => hx.1.2 ?_⟩, hx.2⟩
    rw [getD_retext] at hmem
    exact mem_of_mem_trimEnd hmem
  unfold division
  rw [joined_eq]
  simp only
  rw [map_joinLines_eq_self fun hmem => htext (mem_of_mem_trimmed hmem),
    List.map_congr_left hchildren, List.map_id']

end Element

end Pamphlet.Markup

namespace Pamphlet.Release.Summary

open Pamphlet.Text Pamphlet.Markup

/-- The markup inside an element is its content as it is written, trimmed. -/
theorem toList_innerMarkup {e : Element} (h : ∀ child ∈ e.children, child.Readable) :
    (innerMarkup e).toList = e.trimmed.writtenContent := by
  have hprint :
      e.children.flatMap (fun child => child.print.toList) = e.children.flatMap Element.written :=
    List.flatMap_congr fun child hchild => toList_print (h child hchild)
  rw [← trimChars_writtenContent h]
  unfold innerMarkup trim Element.writtenContent
  rw [String.toList_ofList, String.toList_append, toList_escapeText, String.toList_join,
    List.flatMap_map, hprint]

/-- **The markup of an element's content is read back as a division with that content.** -/
theorem parse_innerMarkup {e : Element} (htext : IsRun e.text)
    (h : ∀ child ∈ e.children, child.Readable) :
    parse (.text ("<div>" ++ innerMarkup e ++ "</div>")) false = .ok e.division := by
  have hwritten : ("<div>" ++ innerMarkup e ++ "</div>").toList = "<div>".toList ++
      ((e.trimmed.text.getD "").toList.flatMap textChar ++
        (e.trimmed.children.flatMap Element.written ++ "</div>".toList)) := by
    rw [String.toList_append, String.toList_append, toList_innerMarkup h, Element.writtenContent,
      List.append_assoc, List.append_assoc]
  rw [parse_division (Element.isRun_trimmed htext) (Element.readable_trimmed h) hwritten]
  unfold Element.division
  rw [Element.joined_eq]

section

variable {s : Summary} {t : Topic}

theorem eq_of_isFragment (ht : t.isFragment = true) :
    t = .overview ∨ t = .newFeatures ∨ t = .releaseVerification := by
  simpa [Topic.isFragment, or_assoc] using ht

theorem fragmentNamed_field (s : Summary) (ht : t.isFragment = true) :
    s.fragmentNamed t.field = s.fragment t := by
  rcases eq_of_isFragment ht with rfl | rfl | rfl <;> rfl

/-- A summary that was made from a document has the markup of each fragment in it. -/
theorem get_fragment {root : Element} (h : ofPayload (payload root) = .ok s)
    (ht : t.isFragment = true) : s.get t = ((tellerOf root t).map innerMarkup).getD "" := by
  have hother : t.isRequired = false ∧ t ≠ .branch := by
    rcases eq_of_isFragment ht with rfl | rfl | rfl <;> decide
  have htext : topicText t = innerMarkup := by
    funext e
    exact if_pos ht
  rw [get_ofPayload h hother.1 hother.2, htext]

/-- A fragment of which nothing is told is an empty division. -/
theorem fragment_of_none {root : Element} (h : ofPayload (payload root) = .ok s)
    (ht : t.isFragment = true)
    (hteller : tellerOf root t = none) : s.fragment t = .ok (.named "div") := by
  have hget : s.get t = innerMarkup (.named "div") := by
    rw [get_fragment h ht, hteller]
    rfl
  unfold fragment
  rw [hget, parse_innerMarkup isRun_none (List.forall_mem_nil _)]
  rfl

/-- **A fragment is read back** as the division of the element that tells it. -/
theorem fragment_of_teller {root e : Element} (h : ofPayload (payload root) = .ok s)
    (ht : t.isFragment = true) (hteller : tellerOf root t = some e) (htext : IsRun e.text)
    (hchildren : ∀ child ∈ e.children, child.Readable) : s.fragment t = .ok e.division := by
  have hget : s.get t = innerMarkup e := by
    rw [get_fragment h ht, hteller]
    rfl
  unfold fragment
  rw [hget, parse_innerMarkup htext hchildren]
  rfl

end

end Pamphlet.Release.Summary
