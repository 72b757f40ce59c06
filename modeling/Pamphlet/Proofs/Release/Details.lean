import Pamphlet.Proofs.Markup.Element
import Pamphlet.Proofs.Release.Note
import Pamphlet.Proofs.Text.Stretches

/-!
# What the details of a release note hold

The details are the trimmed text of the body and its other children but the titles, each with the
text that follows it. What follows a child that is left out is left out as well, and so are the
blanks at both ends of the body's text; `Layout.stretches` is the text of the body in these parts.
Nothing but blanks is lost, and no two words run together, exactly if these stretches spare the
words (`parse_details`).
-/

namespace Pamphlet.Release.Note

open Pamphlet.Text Pamphlet.Markup Pamphlet.Markup.Element

/-! ## The parts of a body -/

/-- An element without anything inside it; what follows it stays. -/
def hollow (e : Element) : Element :=
  { e with text := none, children := [] }

/-- A child of a body, which the details keep or leave out. -/
structure Part where
  child : Element
  kept : Bool

namespace Part

def leftOut (e : Element) : Part :=
  ⟨e, false⟩

/-- A child that is left out if it is a title. -/
def other (e : Element) : Part :=
  ⟨e, !e.hasTag "h1"⟩

/-- The child, with nothing inside it if it is left out. -/
def remains (p : Part) : Element :=
  if p.kept then p.child else hollow p.child

/-- The text that remains of the child, and the text that follows it. -/
def stretch (p : Part) : Stretch where
  chars := p.remains.characters.toList ++ (p.remains.tail.getD "").toList
  kept := p.kept

theorem filter_other (es : List Element) :
    ((es.map other).filter (·.kept)).map (·.child) = es.filter fun e => !e.hasTag "h1" := by
  rw [List.filter_map, List.map_map]
  exact List.map_id _

theorem wholeText_stretches (ps : List Part) :
    wholeText (ps.map (·.stretch)) = (charactersOf (ps.map (·.remains))).toList := by
  rw [wholeText, toList_charactersOf, List.flatMap_map, List.flatMap_map]
  rfl

theorem keptText_stretches (ps : List Part) :
    keptText (ps.map (·.stretch)) = (charactersOf ((ps.filter (·.kept)).map (·.child))).toList := by
  rw [toList_charactersOf]
  induction ps with
  | nil => rfl
  | cons p ps ih =>
    rw [List.map_cons]
    cases hkept : p.kept with
    | true =>
      have hremains : p.remains = p.child := if_pos hkept
      rw [keptText_of_kept hkept, List.filter_cons_of_pos hkept, ih, stretch, hremains]
      rfl
    | false => rw [keptText_of_not_kept hkept, List.filter_cons_of_neg (by simp [hkept]), ih]

end Part

/-- The stretches of the text of a body: the blanks at its ends are left out. -/
def leading (text : String) : List Stretch :=
  let cs := text.toList
  [⟨cs.takeWhile isBlank, false⟩, ⟨trimChars cs, true⟩,
    ⟨(cs.dropWhile isBlank).drop (trimChars cs).length, false⟩]

theorem wholeText_leading (text : String) : wholeText (leading text) = text.toList := by
  have hback := List.prefix_iff_eq_append.1 (trimEnd_prefix_self (text.toList.dropWhile isBlank))
  calc
    wholeText (leading text)
      = text.toList.takeWhile isBlank ++ (trimChars text.toList ++
          (text.toList.dropWhile isBlank).drop (trimChars text.toList).length) := by
            simp [wholeText, leading]
    _ = text.toList.takeWhile isBlank ++ text.toList.dropWhile isBlank := congrArg _ hback
    _ = text.toList := List.takeWhile_append_dropWhile

theorem keptText_leading (text : String) : keptText (leading text) = trimChars text.toList :=
  List.append_nil _

namespace Layout

variable {children : List Element} (l : Layout children)

/-- The children in order; the heading and the paragraph of the summary are left out, and so are the
titles. -/
def parts : List Part :=
  l.before.map .other ++ .leftOut l.heading ::
    (l.between.map .other ++ .leftOut l.paragraph :: l.after.map .other)

/-- The body without what is inside the titles, the heading and the paragraph of the summary. -/
def remainder (body : Element) : Element :=
  { body with children := l.parts.map (·.remains) }

/-- The text of the remainder of a body, in the stretches that the details keep and those that they
leave out. -/
def stretches (text : Option String) : List Stretch :=
  leading (text.getD "") ++ l.parts.map (·.stretch)

theorem kept_parts :
    (l.parts.filter (·.kept)).map (·.child) = l.others.filter fun e => !e.hasTag "h1" := by
  have hleft : ∀ e ps, ((Part.leftOut e :: ps).filter (·.kept)) = ps.filter (·.kept) :=
    fun _ _ => rfl
  rw [parts, others, List.filter_append, hleft, List.filter_append, hleft, List.map_append,
    List.map_append, Part.filter_other, Part.filter_other, Part.filter_other, List.filter_append,
    List.filter_append]

theorem wholeText_stretches (body : Element) :
    wholeText (l.stretches body.text) = (l.remainder body).characters.toList := by
  rw [stretches, wholeText_append, wholeText_leading, Part.wholeText_stretches, characters_eq,
    String.toList_append]
  rfl

/-- The details read as the text before the first child, trimmed, and the children that are kept. -/
theorem characters_details (text : Option String) :
    (l.note text).details.characters =
      trim (text.getD "") ++ charactersOf (l.others.filter fun e => !e.hasTag "h1") := by
  rw [characters_eq, note]
  split
  · rename_i hblank
    rw [trim_eq_empty_iff.2 hblank]
    rfl
  · rfl

theorem keptText_stretches (text : Option String) :
    keptText (l.stretches text) = (l.note text).details.characters.toList := by
  rw [stretches, keptText_append, keptText_leading, Part.keptText_stretches, kept_parts,
    characters_details, String.toList_append, trim, String.toList_ofList]

/-- The details hold the words of the remainder exactly if no word is lost between the stretches. -/
theorem collapse_details_iff (body : Element) :
    collapse (l.note body.text).details.characters = collapse (l.remainder body).characters ↔
      SparesWords [] (l.stretches body.text) := by
  rw [collapse_eq_iff, ← l.keptText_stretches, ← l.wholeText_stretches, words_kept_eq_iff]

end Layout

/-! ## Release notes -/

theorem parse_eq_ok {source : Markup.Source} {note : Note} (h : parse source = .ok note) :
    ∃ root, Markup.parse source false = .ok root ∧ ofRoot root.plain = .ok note := by
  unfold parse at h
  split at h
  · cases h
  · cases h
  · rename_i root hroot
    exact ⟨root, hroot, mapError_ok h⟩

/-- **The text of the details.** What the details of a release note hold is the trimmed text of the
body and the text of its other children but the titles, with what follows each of them. Blanks
apart, this is all the text of the body but what is inside the titles, the heading and the paragraph
of the summary, exactly if what else is left out, at the ends of the body's text and after these
children, is blank and keeps no two words apart. -/
theorem parse_details {source : Markup.Source} {note : Note} (h : parse source = .ok note) :
    ∃ root body, Markup.parse source false = .ok root ∧ IsBody root.plain body ∧
    ∃ l : Layout body.children, note.details.characters =
        trim (body.text.getD "") ++ charactersOf (l.others.filter fun e => !e.hasTag "h1") ∧
      (collapse note.details.characters = collapse (l.remainder body).characters ↔
        SparesWords [] (l.stretches body.text)) := by
  obtain ⟨root, hroot, hnote⟩ := parse_eq_ok h
  obtain ⟨body, hbody, l, -, rfl⟩ := ofRoot_eq_ok_iff.1 hnote
  exact ⟨root, body, hroot, hbody, l, l.characters_details body.text, l.collapse_details_iff body⟩

/-- The note of the sample, whose details do without the `t` below the summary. -/
def sampleNote : Note where
  summary := .ofText "p" "s"
  details :=
    { label := .tag "div", text := some "Lead",
      children := [.ofText "p" "i", .named "ul", .ofText "p" "d"] }

theorem parse_samplePage_eq_sampleNote : parse (.text samplePage) = .ok sampleNote := by
  rw [parse_of_document parse_samplePage]
  rfl

/-- A page whose text after the paragraph is lost. -/
theorem parse_details_sample :
    parse (.text samplePage) = .ok sampleNote ∧ sampleNote.details.characters = "Leadid" ∧
      ∃ root body, Markup.parse (.text samplePage) false = .ok root ∧ IsBody root.plain body ∧
        ∃ l : Layout body.children,
          sampleNote.details.characters =
            trim (body.text.getD "") ++ charactersOf (l.others.filter fun e => !e.hasTag "h1") ∧
          (collapse sampleNote.details.characters = collapse (l.remainder body).characters ↔
            SparesWords [] (l.stretches body.text)) :=
  ⟨parse_samplePage_eq_sampleNote, by decide +kernel, parse_details parse_samplePage_eq_sampleNote⟩

example : (sampleLayout.remainder sampleBody).characters = " Leaditd" := by decide +kernel

example : ¬SparesWords [] (sampleLayout.stretches sampleBody.text) := by decide +kernel

end Pamphlet.Release.Note
