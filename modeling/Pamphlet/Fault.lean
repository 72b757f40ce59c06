import Pamphlet.Catalog
import Pamphlet.Disk.Problem
import Pamphlet.Markup.Document
import Pamphlet.Record.Violation
import Pamphlet.Text.TemplateProblem
import Pamphlet.Text.Utf8
import Pamphlet.Tracker.Reply

/-!
# Faults

A `Fault` is the cause of a failure. Some causes are in the catalog (`Fault.catalog?`); these have a
code and may come from another cause, which `Fault.origin?` names. Every fault is reported under a
kind (`Fault.name`) with a text (`Fault.text`); for a catalogued fault the text is the catalog's
message.
-/

namespace Pamphlet

open Pamphlet.Text Pamphlet.Record Pamphlet.Disk Pamphlet.Tracker Pamphlet.Markup

/-- What is wrong with a line of a bug list. -/
inductive RecordProblem
  | tooFewFields
  | emptyKey
  | badAttachment (id : String)
  | duplicate (name : String)
  deriving DecidableEq, Repr

def RecordProblem.text : RecordProblem → String
  | .tooFewFields => "expected at least key and title"
  | .emptyKey => "empty issue key"
  | .badAttachment id => "bad release note attachment id " ++ quoted id
  | .duplicate name => "duplicate issue " ++ name

/-- What is wrong with a release note. -/
inductive NoteProblem
  | malformed (complaint : Complaint)
  | noBody
  | noHeading
  | noParagraph
  | noDetails
  deriving DecidableEq, Repr

def NoteProblem.text : NoteProblem → String
  | .malformed complaint => complaint.text
  | .noBody => "document has no <body>"
  | .noHeading => "no 'Summary of Change' heading"
  | .noParagraph => "'Summary of Change' has no paragraph"
  | .noDetails => "release note has no details"

/-- A list of quoted texts, with a word for each missing one. -/
def quotedOptions (texts : List (Option String)) : String :=
  "[" ++ ", ".intercalate (texts.map fun t => t.elim "None" quoted) ++ "]"

/-- How a page differs from what its sections should have made it. -/
inductive PageProblem
  | order (expected found : List String)
  | contents (targets : List (Option String))
  | headings (anchors : List (Option String))
  deriving DecidableEq, Repr

def PageProblem.text : PageProblem → String
  | .order expected found =>
    s!"Sections out of order: expected {quotedList expected}, got {quotedList found}"
  | .contents targets => s!"Table of contents does not match sections: {quotedOptions targets}"
  | .headings anchors => s!"Section headings do not match sections: {quotedOptions anchors}"

/-- What a step misses that should have been made before it. -/
inductive Lack
  /-- Something has no field of this name, since it is not there. -/
  | field (name : String)
  /-- There is nothing that an element could be put into. -/
  | parent
  deriving DecidableEq, Repr

namespace Lack

def name : Lack → String
  | .field _ => "AttributeError"
  | .parent => "TypeError"

def text : Lack → String
  | .field name => "'NoneType' object has no attribute " ++ quoted name
  | .parent => "SubElement() argument 1 must be xml.etree.ElementTree.Element, not None"

end Lack

inductive Fault
  | incompleteSummary (problems : List String)
  | unreadableSummary (path : Path) (problem : FileProblem)
  | malformedSummary (path : Path) (complaint : Complaint)
  | foreignRoot (path : Path) (tag : String)
  | badRecord (path : Path) (line : Nat) (problem : RecordProblem)
  | mismatch (expected found : String)
  | noAddress (issue : String)
  | noFetch (address : String) (problem : FetchProblem)
  | badNote (problem : NoteProblem)
  | brokenPage (problem : PageProblem)
  | file (problem : FileProblem)
  | markup (failure : Failure)
  | undecodable (fault : Utf8.Fault)
  | template (problem : Template.Problem)
  | unknownFragment (name : String)
  | violations (kind : String) (vs : List Violation)
  | premature (lack : Lack)
  | foreign (name text : String)

/-- Another failure that a fault comes from. -/
structure Origin where
  name : String
  text : String

/-! ## Documents that cannot be read -/

def failureName : Failure → String
  | .complaint _ => "ParseError"
  | .unknownLabel _ => "LookupError"
  | .notTextLabel _ => "LookupError"
  | .multiByteLabel => "ValueError"
  | .brokenLabel coding _ => coding.failureName

def failureText : Failure → String
  | .complaint c => c.text
  | .unknownLabel label => "unknown encoding: " ++ label
  | .notTextLabel label =>
    "'" ++ label ++ "' is not a text encoding; use codecs.decode() to handle arbitrary codecs"
  | .multiByteLabel => "multi-byte encodings are not supported"
  | .brokenLabel coding label => coding.failureText label

/-! ## Records that break rules -/

def placeText (place : List Record.Key) : String :=
  ".".intercalate <| place.map fun
    | .field name => name
    | .item index => toString index

def violationText (v : Violation) : String :=
  s!"{placeText v.place}\n  {v.rule.message} [type={v.rule.name}]"

def violationsText (kind : String) (vs : List Violation) : String :=
  "\n".intercalate
    ((plural vs.length "validation error" ++ " for " ++ kind) :: vs.map violationText)

namespace Fault

def catalog? : Fault → Option CatalogError
  | .incompleteSummary problems => some (.incomplete problems)
  | .unreadableSummary path problem => some (.badSummary path.text problem.text)
  | .malformedSummary path complaint => some (.badSummary path.text complaint.text)
  | .foreignRoot path tag =>
    some (.badSummary path.text s!"unexpected root element <{tag}>")
  | .badRecord path line problem => some (.badBugList path.text line problem.text)
  | .mismatch expected found => some (.mismatch expected found)
  | .noAddress issue => some (.noFetch issue "no release note address")
  | .noFetch address problem => some (.noFetch address problem.text)
  | .badNote problem => some (.badNote problem.text)
  | .brokenPage problem => some (.broken problem.text)
  | _ => none

/-- The kind that a fault is reported under. -/
def name : Fault → String
  | .incompleteSummary _ => "ValidationError"
  | .unreadableSummary .. => "SummaryFormatError"
  | .malformedSummary .. => "SummaryFormatError"
  | .foreignRoot .. => "SummaryFormatError"
  | .badRecord .. => "IssueListFormatError"
  | .mismatch .. => "ReleaseMismatchError"
  | .noAddress _ => "ReleaseNoteFetchError"
  | .noFetch .. => "ReleaseNoteFetchError"
  | .badNote _ => "ReleaseNoteFormatError"
  | .brokenPage _ => "AssertFailure"
  | .file problem => problem.trouble.name
  | .markup failure => failureName failure
  | .undecodable _ => "UnicodeDecodeError"
  | .template problem => problem.name
  | .unknownFragment _ => "KeyError"
  | .violations .. => "ValidationError"
  | .premature lack => lack.name
  | .foreign name _ => name

/-- The text of a fault that is not in the catalog. -/
def plainText : Fault → String
  | .file problem => problem.text
  | .markup failure => failureText failure
  | .undecodable fault => fault.text
  | .template problem => problem.text
  | .unknownFragment name => quoted name
  | .violations kind vs => violationsText kind vs
  | .premature lack => lack.text
  | .foreign _ text => text
  | _ => ""

def text (f : Fault) : String :=
  match f.catalog? with
  | some e => e.message
  | none => f.plainText

/-- What a fault of the catalog came from. -/
def origin? : Fault → Option Origin
  | .unreadableSummary _ problem => some ⟨problem.trouble.name, problem.text⟩
  | .malformedSummary _ complaint => some ⟨"ParseError", complaint.text⟩
  | .noFetch _ problem => some ⟨problem.name, problem.text⟩
  | .badNote (.malformed complaint) => some ⟨"ParseError", complaint.text⟩
  | _ => none

end Fault

end Pamphlet
