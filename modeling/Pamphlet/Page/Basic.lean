import Pamphlet.Fault
import Pamphlet.Markup.Print
import Pamphlet.Page.Section
import Pamphlet.Page.Substitution

/-!
# Pages

A page has a title, an opening, a contents list and the headings and blocks of its sections.
Attaching a section adds one entry to the list and one heading and block to the page, so the list
agrees with the headings until one of them is changed. `Page.problem?` compares both with the titles
that a page should have.
-/

namespace Pamphlet

open Pamphlet.Markup Pamphlet.Page

structure Page where
  title : Element
  opening : List Element
  contents : Element
  blocks : List Element

namespace Page

/-- The level of the headings of a page's own sections. -/
def mainLevel : Int := 2

/-- A page without sections. -/
def new (title introduction : String) : Page where
  title := .ofText "title" title
  opening := [Part.header 1 title, Part.paragraph introduction]
  contents := Part.list
  blocks := []

def head (p : Page) : Element :=
  (Element.named "head").append p.title

def body (p : Page) : Element :=
  { Element.named "body" with children := p.opening ++ p.contents :: p.blocks }

/-- The page as a tree. -/
def root (p : Page) : Element :=
  { Element.named "html" with children := [p.head, p.body] }

def attach (p : Page) (s : Section) : Page :=
  { p with
    contents := p.contents.append s.entry
    blocks := p.blocks ++ [s.heading mainLevel, s.block mainLevel] }

/-! ## Links -/

/-- Where the entries of the contents list lead. -/
def targets (p : Page) : List (Option String) :=
  (p.contents.grandchildrenNamed "li" "a").map (·.attributes.get? "href")

/-- The names of the main headings. -/
def anchors (p : Page) : List (Option String) :=
  (p.body.grandchildrenNamed ("h" ++ toString mainLevel) "a").map (·.attributes.get? "name")

/-- Compares the contents list and the headings with the titles that a page should have. -/
def problem? (p : Page) (expected : List String) : Option PageProblem :=
  if p.targets ≠ expected.map fun t => some ("#" ++ anchorName t) then
    some (.contents p.targets)
  else if p.anchors ≠ expected.map fun t => some (anchorName t) then some (.headings p.anchors)
  else none

/-! ## Variables -/

def fill (values : Substitution.Values) (p : Page) : Page where
  title := Substitution.fillTree values p.title
  opening := p.opening.map (Substitution.fillTree values)
  contents := Substitution.fillTree values p.contents
  blocks := p.blocks.map (Substitution.fillTree values)

def tokens (p : Page) : List Substitution.Token :=
  Substitution.treeTokens p.root

/-! ## Writing -/

/-- A tree as the text of a document. -/
def document (e : Element) : String :=
  "<!DOCTYPE html>\n" ++ e.printPage ++ "\n"

def text (p : Page) : String :=
  document p.root

end Page

end Pamphlet
