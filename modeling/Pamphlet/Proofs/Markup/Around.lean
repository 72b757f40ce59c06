import Pamphlet.Proofs.Markup.Element
import Pamphlet.Proofs.Markup.Print

/-!
# One place in a tree

An element around a place among its children is an `Around`. If what stands at the place shows a
text (`ShowsText`) then so does the whole element (`ShowsText.put`): all that is written for it is
fixed, but for the escaped text in one place (`ShowsText.printPage`). An escaped text has no angle
(`angle_not_mem_escapeText`).
-/

namespace Pamphlet.Markup

open Pamphlet.Text

/-! ## Escaped texts -/

/-- A text is escaped character by character. -/
theorem escapeText_append (s t : String) : escapeText (s ++ t) = escapeText s ++ escapeText t := by
  unfold escapeText escapeWith
  rw [String.toList_append, List.flatMap_append, String.ofList_append]

/-- Escaped text has no angle bracket. -/
theorem angle_not_mem_textChar (c : Char) : '<' ∉ textChar c ∧ '>' ∉ textChar c := by
  unfold textChar
  split
  · decide
  · split
    · decide
    · rename_i hopen
      split
      · decide
      · rename_i hclose
        exact ⟨fun h => hopen (List.mem_singleton.1 h).symm,
          fun h => hclose (List.mem_singleton.1 h).symm⟩

/-- An escaped text can neither open nor close a tag. -/
theorem angle_not_mem_escapeText (s : String) :
    '<' ∉ (escapeText s).toList ∧ '>' ∉ (escapeText s).toList := by
  rw [toList_escapeText]
  refine ⟨fun h => ?_, fun h => ?_⟩
  · obtain ⟨c, -, hc⟩ := List.mem_flatMap.1 h
    exact (angle_not_mem_textChar c).1 hc
  · obtain ⟨c, -, hc⟩ := List.mem_flatMap.1 h
    exact (angle_not_mem_textChar c).2 hc

/-! ## Elements around a place -/

/-- An element with a place among its children. -/
structure Around where
  tag : String
  attributes : Attributes := []
  text : Option String := none
  before : List Element := []
  after : List Element := []
  tail : Option String := none

/-- The element with another one at its place. -/
def Around.put (f : Around) (e : Element) : Element :=
  { label := .tag f.tag, attributes := f.attributes, text := f.text,
    children := f.before ++ e :: f.after, tail := f.tail }

namespace Element

/-- The names in a tree. -/
def namesIn (e : Element) : List String :=
  e.descendants.flatMap (·.names)

theorem namesIn_eq (e : Element) : e.namesIn = e.names ++ e.children.flatMap namesIn := by
  unfold namesIn
  rw [descendants_eq, List.flatMap_cons, List.flatMap_assoc]

/-- Elements are written one after the other. -/
theorem printPageAllWith_append (known : Prefixes) (es ds : List Element) :
    printPageAllWith known (es ++ ds) = printPageAllWith known es ++ printPageAllWith known ds := by
  induction es with
  | nil => exact String.empty_append.symm
  | cons e es ih =>
    rw [List.cons_append, printPageAllWith, printPageAllWith, ih, String.append_assoc]

/-- The tag before the content of an element, when a page is written. -/
def pageOpening (known : Prefixes) (declarations tag : String) (attributes : Attributes) : String :=
  "<" ++ known.written tag ++ declarations ++
    printAttributes known escapePageValue attributes ++ ">"

/-- The tag after the content of an element, if it has one. -/
def pageClosing (known : Prefixes) (tag : String) : String :=
  if emptyTags.contains (lower (known.written tag)) then "" else "</" ++ known.written tag ++ ">"

/-- The text of an element as a page has it. -/
def pageText (known : Prefixes) (tag text : String) : String :=
  if rawTags.contains (lower (known.written tag)) then text else escapeText text

theorem printPageWith_tag (known : Prefixes) (declarations tag : String) (attributes : Attributes)
    (text : Option String) (children : List Element) (tail : Option String) :
    printPageWith known declarations { label := .tag tag, attributes, text, children, tail } =
      pageOpening known declarations tag attributes ++ pageText known tag (text.getD "") ++
        printPageAllWith known children ++ pageClosing known tag ++ escapeText (tail.getD "") := by
  rw [printPageWith]
  rfl

end Element

open Element

/-! ## Elements that show a text -/

/-- Elements for texts. They have the same names, and what is written for them is the escaped text
between two fixed ones. -/
structure ShowsText (element : String → Element) : Prop where
  names : ∀ s s', (element s).namesIn = (element s').namesIn
  written : ∀ known declarations, ∃ first last,
    ∀ s, (element s).printPageWith known declarations = first ++ escapeText s ++ last

/-- A text at the front of an element. -/
theorem showsText_text {tag : String} (hname : splitFullName tag = none)
    (hraw : rawTags.contains (lower tag) = false) (attributes : Attributes)
    (children : List Element) (tail : Option String) :
    ShowsText fun s => { label := .tag tag, attributes, text := some s, children, tail } where
  names s s' := by
    rw [namesIn_eq, namesIn_eq]
    rfl
  written known declarations := by
    have htext : ∀ s, pageText known tag s = escapeText s := by
      intro s
      have hwritten : known.written tag = tag := by
        unfold Prefixes.written
        rw [hname]
      rw [pageText, hwritten, hraw, if_neg Bool.false_ne_true]
    refine ⟨pageOpening known declarations tag attributes,
      printPageAllWith known children ++ pageClosing known tag ++ escapeText (tail.getD ""),
        fun s => ?_⟩
    rw [printPageWith_tag, Option.getD_some, htext]
    simp only [String.append_assoc]

/-- A text after an element, behind a fixed one. -/
theorem showsText_tail (e : Element) (front : String) :
    ShowsText fun s => { e with tail := some (front ++ s) } where
  names s s' := by
    rw [namesIn_eq, namesIn_eq]
    rfl
  written known declarations := by
    obtain ⟨label, attributes, text, children, tail⟩ := e
    refine ⟨printPageWith known declarations { label, attributes, text, children } ++
      escapeText front, "", fun s => ?_⟩
    have hempty : escapeText "" = "" := rfl
    unfold printPageWith
    simp only [Option.getD_some, Option.getD_none, escapeText_append, hempty, String.append_empty,
      String.append_assoc]

/-- An element around one that shows a text shows the text, too. -/
theorem ShowsText.put {element : String → Element} (h : ShowsText element) (f : Around) :
    ShowsText fun s => f.put (element s) where
  names s s' := by
    rw [namesIn_eq, namesIn_eq]
    simp only [Around.put, List.flatMap_append, List.flatMap_cons, h.names s s']
    rfl
  written known declarations := by
    obtain ⟨first, last, hwritten⟩ := h.written known ""
    refine ⟨pageOpening known declarations f.tag f.attributes ++
      pageText known f.tag (f.text.getD "") ++
        printPageAllWith known f.before ++ first,
      last ++ printPageAllWith known f.after ++ pageClosing known f.tag ++
        escapeText (f.tail.getD ""),
      fun s => ?_⟩
    rw [Around.put, printPageWith_tag, printPageAllWith_append, printPageAllWith, hwritten]
    simp only [String.append_assoc]

/-- All that is written for a tree that shows a text is fixed, but for the escaped text in one
place. -/
theorem ShowsText.printPage {element : String → Element} (h : ShowsText element) :
    ∃ first last, ∀ s, (element s).printPage = first ++ escapeText s ++ last := by
  have hknown : ∀ s, Prefixes.ofTree (element s) = Prefixes.ofTree (element "") := by
    intro s
    have hnames := h.names s ""
    unfold namesIn at hnames
    rw [Prefixes.ofTree, Prefixes.ofTree, hnames]
  obtain ⟨first, last, hwritten⟩ := h.written (Prefixes.ofTree (element ""))
    ((Prefixes.ofTree (element "")).declarations escapeValue)
  refine ⟨first, last, fun s => ?_⟩
  rw [Element.printPage, hknown]
  exact hwritten s

end Pamphlet.Markup
