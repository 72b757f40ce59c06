import Pamphlet.Page.Part
import Pamphlet.Text.Blank

/-!
# Sections

A titled division of a page with sections of its own. On the page it is a heading and a block; in
the contents list it is an entry that links to the heading. Heading and entry name the section by
its anchor, so the entries of a list and the headings of the sections below it agree in their order
(`entriesOf`, `blocksOf`).
-/

namespace Pamphlet.Page

open Pamphlet.Text Pamphlet.Markup

/-- What stands for a title in addresses. -/
def anchorName (title : String) : String :=
  String.ofList (foldRuns '_' (trimChars title.toList))

structure Section where
  title : String
  body : Element := .named "div"
  /-- What the entry says, if it is not the title. -/
  label : Option Element := none
  subsections : List Section := []
  /-- Whether there is a contents list even if there are no sections below. -/
  hasContents : Bool := false
  /-- Whether a line is drawn before each of the sections below. -/
  ruled : Bool := false

namespace Section

/-- The heading of a title. -/
def headingOf (level : Int) (title : String) : Element :=
  (Element.named ("h" ++ toString level)).append
    ((Element.ofText "a" title).withAttribute "name" (anchorName title))

/-- The entry of a title in a contents list. -/
def entryOf (title : String) (label : Option Element) : Element :=
  let link := (Element.named "a").withAttribute "href" ("#" ++ anchorName title)
  Part.item.append <|
    match label with
    | none => { link with text := some title }
    | some label => link.appendContent label

def heading (level : Int) (s : Section) : Element :=
  headingOf level s.title

def entry (s : Section) : Element :=
  entryOf s.title s.label

def entriesOf (sections : List Section) : List Element :=
  sections.map entry

mutual

/-- What stands under the heading of a section. -/
def block (level : Int) : Section → Element
  | ⟨_, body, _, subsections, hasContents, ruled⟩ =>
    let block := (Element.named "blockquote").appendContent body
    if hasContents || !subsections.isEmpty then
      { block with
        children := block.children ++
          { Part.list with children := entriesOf subsections } ::
            blocksOf ruled (level + 1) subsections }
    else block

/-- Headings and blocks of sections in their order. -/
def blocksOf (ruled : Bool) (level : Int) : List Section → List Element
  | [] => []
  | s :: rest =>
    (if ruled then [Part.rule] else []) ++
      s.heading level :: s.block level :: blocksOf ruled level rest

end

end Section

end Pamphlet.Page
