import Mathlib.Data.List.InsertIdx
import Pamphlet.Page.Chapters
import Pamphlet.Proofs.Page.Rendering

/-!
# Leaving a section out of a page

A section below another one has four elements in the block of that one: its entry in the contents
list, and the line, the heading and the block that stand for it below the list. `omitAt` takes them
out of a block that begins with one paragraph, and `partsAt` picks them. What they do to the block
of a section is what leaving the section out, or picking it, does to the sections below
(`omitAt_block`, `partsAt_block`), whether or not variables have been filled in. `Page.omitNote` and
`Page.noteParts` do so in the chapter on issues.
-/

namespace Pamphlet.Page

open Pamphlet.Markup

/-! ## Blocks -/

/-- The parts of the section at a place in a block: its entry, and its line, its heading and its
block. -/
def partsAt (n : Nat) (block : Element) : List Element :=
  match block.children with
  | _ :: list :: rest => list.children[n]?.toList ++ (rest.drop (3 * n)).take 3
  | _ => []

/-- A block without the parts of the section at a place. -/
def omitAt (n : Nat) (block : Element) : Element :=
  match block.children with
  | first :: list :: rest =>
    { block with
      children := first :: { list with children := list.children.eraseIdx n } ::
        (rest.take (3 * n) ++ rest.drop (3 * (n + 1))) }
  | _ => block

/-- The parts of a section below another one where lines are drawn. -/
def Shown.parts (t : Shown) : List Element :=
  [t.entry, Part.rule, t.heading, t.block]

theorem take_sequence (n : Nat) (shown : List Shown) :
    (sequence true shown).take (3 * n) = sequence true (shown.take n) := by
  induction n generalizing shown with
  | zero => rfl
  | succ n ih =>
    cases shown with
    | nil => rfl
    | cons t rest =>
      rw [sequence_cons, List.take_succ_cons, sequence_cons, ← ih]
      rfl

theorem drop_sequence (n : Nat) (shown : List Shown) :
    (sequence true shown).drop (3 * n) = sequence true (shown.drop n) := by
  induction n generalizing shown with
  | zero => rfl
  | succ n ih =>
    cases shown with
    | nil => rfl
    | cons t rest =>
      rw [sequence_cons, List.drop_succ_cons, ← ih]
      rfl

theorem sequence_append (ruled : Bool) (shown shown' : List Shown) :
    sequence ruled (shown ++ shown') = sequence ruled shown ++ sequence ruled shown' :=
  List.flatMap_append

section

variable (w : Wording) (level : Int) (s : Section) {first : Element}

/-- The children of a block that lists the sections below it. -/
theorem children_block (hbody : s.body.children = [first]) (hcontents : s.hasContents = true)
    (hruled : s.ruled = true) :
    (w.tree (s.block level)).children =
      w.tree first ::
        { Part.list with children := (s.subsections.map (w.shown (level + 1))).map (·.entry) } ::
          sequence true (s.subsections.map (w.shown (level + 1))) := by
  rw [w.tree_block, w.lower_tree level (.inl hcontents), hbody, hruled]
  rfl

/-- **Leaving out the parts of a section** gives the block without that section. -/
theorem omitAt_block (hbody : s.body.children = [first]) (hcontents : s.hasContents = true)
    (hruled : s.ruled = true) (n : Nat) :
    omitAt n (w.tree (s.block level)) =
      w.tree (Section.block level { s with subsections := s.subsections.eraseIdx n }) := by
  have hrest : (sequence true (s.subsections.map (w.shown (level + 1)))).take (3 * n) ++
      (sequence true (s.subsections.map (w.shown (level + 1)))).drop (3 * (n + 1)) =
        sequence true ((s.subsections.eraseIdx n).map (w.shown (level + 1))) := by
    rw [take_sequence, drop_sequence, ← sequence_append, ← List.eraseIdx_eq_take_drop_succ,
      List.eraseIdx_map]
  have hchildren : (w.tree (Section.block level
      { s with subsections := s.subsections.eraseIdx n })).children = _ :=
    children_block w level _ hbody hcontents hruled
  unfold omitAt
  rw [children_block w level s hbody hcontents hruled]
  simp only
  rw [hrest, List.eraseIdx_map, List.eraseIdx_map, ← hchildren, w.tree_block, w.tree_block]

/-- The parts that belong to a section are those it is shown with. -/
theorem partsAt_block (hbody : s.body.children = [first]) (hcontents : s.hasContents = true)
    (hruled : s.ruled = true) (n : Nat) :
    partsAt n (w.tree (s.block level)) =
      s.subsections[n]?.toList.flatMap fun t => (w.shown (level + 1) t).parts := by
  unfold partsAt
  rw [children_block w level s hbody hcontents hruled]
  simp only
  rw [drop_sequence, List.getElem?_map, List.getElem?_map, ← List.map_drop]
  cases hn : s.subsections[n]? with
  | none =>
    rw [List.drop_of_length_le (List.getElem?_eq_none_iff.1 hn)]
    rfl
  | some t =>
    obtain ⟨hlt, ht⟩ := List.getElem?_eq_some_iff.1 hn
    rw [List.drop_eq_getElem_cons hlt, ht, List.map_cons, sequence_cons]
    rfl

end

/-! ## The chapter on issues -/

/-- Where the block of the chapter on issues stands among the headings and blocks of a page. -/
def issuesPlace : Nat :=
  2 * Chapter.titles.idxOf Chapter.issuesTitle + 1

/-- The page without the parts of one note. -/
def omitNote (n : Nat) (p : Page) : Page :=
  { p with blocks := p.blocks.modify issuesPlace (omitAt n) }

/-- The parts of one note on a page. -/
def noteParts (n : Nat) (p : Page) : List Element :=
  p.blocks[issuesPlace]?.elim [] (partsAt n)

end Pamphlet.Page

