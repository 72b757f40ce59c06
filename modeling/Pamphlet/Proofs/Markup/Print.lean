import Pamphlet.Proofs.Markup.Written

/-!
# What is written for a tree

A tree without namespaces is written without prefixes and declarations: `written_bare` for an
element with nothing in it and `written_full` for any other.
-/

namespace Pamphlet.Markup

/-- What is not written as it is begins with an ampersand. -/
theorem textChar_escaped {c : Char} (hc : textChar c ≠ [c]) : ∃ cs, textChar c = '&' :: cs := by
  unfold textChar at hc ⊢
  split at hc
  · exact ⟨_, if_pos ‹_›⟩
  rw [if_neg ‹_›]
  split at hc
  · exact ⟨_, if_pos ‹_›⟩
  rw [if_neg ‹_›]
  split at hc
  · exact ⟨_, if_pos ‹_›⟩
  · exact absurd rfl hc

/-- A tree that is read back as it is written: it has no namespaces, and no attribute declares
one. -/
abbrev Element.Readable : Element → Prop :=
  Formed IsName fun name => IsName name ∧ name ≠ "xmlns"

/-- An element that is written as it is read, whatever its children are. -/
abbrev Element.ReadableHere : Element → Prop :=
  FormedHere IsName fun name => IsName name ∧ name ≠ "xmlns"

theorem Element.FormedHere.isAttribute {e : Element} (h : e.ReadableHere) :
    ∀ a ∈ e.attributes, IsAttribute a :=
  fun a ha => ⟨(h.attributes a ha).1.1, (h.attributes a ha).1.2, (h.attributes a ha).2⟩

theorem splitFullName_of_isName {name : String} (h : IsName name) : splitFullName name = none := by
  obtain ⟨c, cs, hname, hc, -⟩ := h
  have hbrace : c ≠ '\x7b' := ne_of_isNameStart hc (by decide)
  unfold splitFullName
  rw [hname]
  split
  · rename_i heq
    exact absurd (List.cons.inj heq).1 hbrace
  · rfl

theorem written_of_isName {name : String} (h : IsName name) : Prefixes.written [] name = name := by
  unfold Prefixes.written
  rw [splitFullName_of_isName h]

/-- A tree without namespaces needs no prefixes. -/
theorem ofTree_eq_nil {e : Element} (h : e.Readable) : Prefixes.ofTree e = [] := by
  have hnames : ∀ name ∈ e.descendants.flatMap (·.names), splitFullName name = none := by
    intro name hname
    obtain ⟨x, hx, hname⟩ := List.mem_flatMap.1 hname
    obtain ⟨tag, htag, hisName⟩ := (h x hx).tag
    have hcases : name = tag ∨ name ∈ x.attributes.map (·.1) := by
      simpa [Element.names, Element.tag?, htag] using hname
    rcases hcases with rfl | hattribute
    · exact splitFullName_of_isName hisName
    · obtain ⟨a, ha, rfl⟩ := List.mem_map.1 hattribute
      exact splitFullName_of_isName ((h x hx).isAttribute a ha).name
  unfold Prefixes.ofTree
  generalize e.descendants.flatMap (·.names) = names at hnames
  induction names with
  | nil => rfl
  | cons name names ih =>
    rw [List.foldl_cons, Prefixes.extend, hnames name List.mem_cons_self]
    exact ih fun n hn => hnames n (List.mem_cons_of_mem name hn)

/-- The characters that are written for a tree without namespaces, and for the text after it. -/
def Element.written (e : Element) : List Char :=
  (e.printWith [] "").toList

theorem printAllWith_eq (known : Prefixes) (es : List Element) :
    (Element.printAllWith known es).toList = es.flatMap fun e => (e.printWith known "").toList := by
  induction es with
  | nil => rfl
  | cons e es ih =>
    unfold Element.printAllWith
    rw [String.toList_append, ih, List.flatMap_cons]

theorem toList_escapeText (s : String) : (escapeText s).toList = s.toList.flatMap textChar := by
  unfold escapeText escapeWith
  rw [String.toList_ofList]

theorem toList_printAttributes {attributes : Attributes} (h : ∀ a ∈ attributes, IsAttribute a) :
    (Element.printAttributes [] escapeValue attributes).toList = writtenAttributes attributes := by
  unfold Element.printAttributes writtenAttributes
  rw [String.toList_join, List.flatMap_map]
  refine List.flatMap_congr fun a ha => ?_
  obtain ⟨name, value⟩ := a
  simp only [String.toList_append, written_of_isName (h _ ha).name, escapeValue, escapeWith,
    String.toList_ofList]
  simp [List.append_assoc]

section

variable {e : Element} {name : String}

/-- How an element without content is written. -/
theorem written_bare (he : e.ReadableHere) (hlabel : e.label = .tag name) (hname : IsName name)
    (htext : e.text = none) (hchildren : e.children = []) :
    e.written = '<' :: (name.toList ++ (writtenAttributes e.attributes ++
      [' ', '/', '>'] ++ (e.tail.getD "").toList.flatMap textChar)) := by
  obtain ⟨label, attributes, text, children, tail⟩ := e
  simp only at hlabel htext hchildren
  subst hlabel htext hchildren
  change (Element.printWith [] "" _).toList = _
  rw [Element.printWith]
  simp only [Option.getD_none, List.isEmpty_nil, and_self, if_true, String.toList_append,
    written_of_isName hname, toList_printAttributes he.isAttribute, toList_escapeText]
  simp [List.append_assoc]

/-- How an element with content is written. -/
theorem written_full (he : e.ReadableHere) (hlabel : e.label = .tag name) (hname : IsName name)
    (h : ¬(e.text = none ∧ e.children = [])) :
    e.written = '<' :: (name.toList ++ (writtenAttributes e.attributes ++
      '>' :: ((e.text.getD "").toList.flatMap textChar ++ (e.children.flatMap Element.written ++
        '<' :: '/' :: (name.toList ++ '>' :: (e.tail.getD "").toList.flatMap textChar))))) := by
  obtain ⟨label, attributes, text, children, tail⟩ := e
  simp only at hlabel h
  subst hlabel
  have hcontent : ¬(text.getD "" = "" ∧ children.isEmpty = true) := by
    intro hempty
    refine h ⟨?_, List.isEmpty_iff.1 hempty.2⟩
    cases text with
    | none => rfl
    | some s => exact absurd hempty.1 (he.text s rfl).1
  have hchildren : (Element.printAllWith [] children).toList = children.flatMap Element.written :=
    printAllWith_eq [] children
  change (Element.printWith [] "" _).toList = _
  rw [Element.printWith]
  simp only [hcontent, if_false, String.toList_append, written_of_isName hname,
    toList_printAttributes he.isAttribute, toList_escapeText, hchildren]
  simp [List.append_assoc]

end

/-! ## Elements as a whole -/

/-- What is written for an element begins with an angle bracket. -/
theorem written_begins {e : Element} (h : e.Readable) : ∃ more, e.written = '<' :: more := by
  obtain ⟨name, hlabel, hname⟩ := h.here.tag
  by_cases hempty : e.text = none ∧ e.children = []
  · exact ⟨_, written_bare h.here hlabel hname hempty.1 hempty.2⟩
  · exact ⟨_, written_full h.here hlabel hname hempty⟩

theorem declarations_nil (escape : String → String) : Prefixes.declarations [] escape = "" := by
  unfold Prefixes.declarations
  rw [List.mergeSort_nil]
  rfl

/-- A tree without namespaces is printed without declarations. -/
theorem toList_print {e : Element} (h : e.Readable) : e.print.toList = e.written := by
  unfold Element.print Element.written
  rw [ofTree_eq_nil h]
  simp only [declarations_nil]

/-- What stands after an element is written after an angle. -/
theorem written_split {e : Element} (h : e.Readable) :
    ∃ front, ∀ tail, IsRun tail →
      ({ e with tail := tail } : Element).written =
        front ++ '>' :: (tail.getD "").toList.flatMap textChar := by
  obtain ⟨name, hlabel, hname⟩ := h.here.tag
  by_cases hempty : e.text = none ∧ e.children = []
  · refine ⟨'<' :: (name.toList ++ (writtenAttributes e.attributes ++ [' ', '/'])),
      fun tail htail => ?_⟩
    rw [written_bare (h.here.withTail htail) hlabel hname hempty.1 hempty.2]
    simp [List.append_assoc]
  · refine ⟨'<' :: (name.toList ++ (writtenAttributes e.attributes ++
      '>' :: ((e.text.getD "").toList.flatMap textChar ++ (e.children.flatMap Element.written ++
        '<' :: '/' :: name.toList)))), fun tail htail => ?_⟩
    rw [written_full (h.here.withTail htail) hlabel hname hempty]
    simp [List.append_assoc]

end Pamphlet.Markup
