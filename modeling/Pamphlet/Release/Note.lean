import Pamphlet.Fault
import Pamphlet.Markup.Plain
import Pamphlet.Text.Blank

/-!
# Release notes

A release note is a page about one issue. Its summary is the first paragraph under the heading
"Summary of Change", before the next heading; its details are everything else in the body, the
page's titles apart.
-/

namespace Pamphlet.Release

open Pamphlet.Text Pamphlet.Markup

structure Note where
  summary : Element
  details : Element

namespace Note

def headingTags : List String :=
  ["h1", "h2", "h3", "h4", "h5", "h6"]

def isHeading (e : Element) : Bool :=
  e.tag?.any headingTags.contains

def summaryHeading : String :=
  "summary of change"

def isSummaryHeading (e : Element) : Bool :=
  isHeading e && lower (collapse e.characters) = summaryHeading

/-- The first paragraph of a list of siblings, if no heading comes before it, and the siblings
without it. -/
def takeParagraph : List Element → Option (Element × List Element)
  | [] => none
  | e :: rest =>
    if isHeading e then none
    else if e.hasTag "p" then some (e, rest)
    else (takeParagraph rest).map fun (p, rest) => (p, e :: rest)

/-- The summary's paragraph, and the other children of the body but the summary's heading. -/
def split : List Element → Except NoteProblem (Element × List Element)
  | [] => .error .noHeading
  | e :: rest =>
    if isSummaryHeading e then
      match takeParagraph rest with
      | some found => .ok found
      | none => .error .noParagraph
    else (split rest).map fun (p, rest) => (p, e :: rest)

/-- What remains of a body without its titles and its summary. -/
def detailsOf (body : Element) (others : List Element) : Element :=
  let text := trim (body.text.getD "")
  { label := .tag "div"
    text := if text = "" then none else some text
    children := others.filter fun e => !e.hasTag "h1" }

def ofBody (body : Element) : Except NoteProblem Note := do
  let (paragraph, others) ← split body.children
  let details := detailsOf body others
  if details.children.isEmpty && details.text.isNone then throw .noDetails
  return ⟨paragraph.alone, details⟩

/-- The body of a page, which may be its root. -/
def bodyOf (root : Element) : Option Element :=
  if root.hasTag "body" then some root else (root.childrenNamed "body").head?

def ofRoot (root : Element) : Except NoteProblem Note :=
  match bodyOf root with
  | none => .error .noBody
  | some body => ofBody body

/-- Reads a release note. -/
def parse (source : Source) : Except Fault Note :=
  match Markup.parse source false with
  | .error (.complaint c) => .error (.badNote (.malformed c))
  | .error failure => .error (.markup failure)
  | .ok root => (ofRoot root.plain).mapError .badNote

end Note

end Pamphlet.Release
