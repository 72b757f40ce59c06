import Pamphlet.Fault
import Pamphlet.Markup.Plain
import Pamphlet.Markup.Print
import Pamphlet.Record.Intake
import Pamphlet.Release.Topic

/-!
# Release summaries

What the release manager tells about a release. A summary document names each topic by a child of
its root; of several children with one tag the last one counts, and other children do not. The
payload taken from them is checked for what must be there (`checkPayload`) before it is read as a
summary (`Summary.ofFields`), so that everything missing is reported at once.

A fragment keeps its markup as text; `Summary.fragment` reads it back.
-/

namespace Pamphlet.Release

open Pamphlet.Text Pamphlet.Markup Pamphlet.Record

structure Summary where
  releaseId : String
  previousReleaseId : String
  branch : String := ""
  overview : String := ""
  newFeatures : String := ""
  releaseVerification : String := ""
  machine : String := ""
  antVersion : String := ""
  jdk14 : String := ""
  java6 : String := ""
  compilers : String := ""
  jsr169 : String := ""
  osgi : String := ""
  deriving DecidableEq, Repr

namespace Summary

def get (s : Summary) : Topic → String
  | .releaseId => s.releaseId
  | .previousReleaseId => s.previousReleaseId
  | .branch => s.branch
  | .overview => s.overview
  | .newFeatures => s.newFeatures
  | .releaseVerification => s.releaseVerification
  | .machine => s.machine
  | .antVersion => s.antVersion
  | .jdk14 => s.jdk14
  | .java6 => s.java6
  | .compilers => s.compilers
  | .jsr169 => s.jsr169
  | .osgi => s.osgi

def fields (s : Summary) : Fields :=
  Topic.all.map fun t => (t.field, .text (s.get t))

/-! ## Reading records -/

def kind : String :=
  "ReleaseSummary"

/-- The greatest length of a release's name. -/
def maxIdLength : Nat := 50

def readTopic (fields : Fields) (t : Topic) : Intake String :=
  if t.isRequired then .required fields t.field (.textWithin 1 (some maxIdLength))
  else .optional fields t.field "" .text

/-- The first two numbers of a release. -/
def branchOf (releaseId : String) : String :=
  String.ofList (['.'].intercalate ((releaseId.toList.splitOn '.').take 2))

/-- A release is made from the branch of its first two numbers unless it is said to be another. -/
def withBranch (s : Summary) : Summary :=
  if s.branch = "" then { s with branch := branchOf s.releaseId } else s

def ofFields (fields : Fields) : Intake Summary :=
  let read := readTopic fields
  withBranch <$> (Summary.mk <$> read .releaseId <*> read .previousReleaseId <*> read .branch
    <*> read .overview <*> read .newFeatures <*> read .releaseVerification <*> read .machine
    <*> read .antVersion <*> read .jdk14 <*> read .java6 <*> read .compilers <*> read .jsr169
    <*> read .osgi)

/-! ## Checking payloads -/

/-- Whether a datum tells nothing. -/
def isSilent : Datum → Bool
  | .text s => isBlankText s
  | d => d.isEmpty

/-- What must be there and is not. -/
def missingTopics (fields : Fields) : List Topic :=
  Topic.all.filter fun t => t.isRequired && (fields.get? t.field).elim true isSilent

/-- A payload with a text for every topic that it leaves out. -/
def fillOut (fields : Fields) : Fields :=
  (Topic.all.filter fun t => !t.isRequired).foldl
    (fun fields t =>
      match (fields.get? t.field).getD .null with
      | .null => fields.set t.field (.text "")
      | _ => fields)
    fields

def checkPayload (fields : Fields) : Except Fault Fields :=
  match missingTopics fields with
  | [] => .ok (fillOut fields)
  | missing =>
    .error (.incompleteSummary (missing.map fun t => s!"Missing required field: '{t.field}'"))

/-! ## Reading documents -/

/-- The markup inside an element, without the blanks at its ends. -/
def innerMarkup (e : Element) : String :=
  trim (escapeText (e.text.getD "") ++ String.join (e.children.map Element.print))

/-- The words inside an element. -/
def innerText (e : Element) : String :=
  collapse e.characters

def topicText (t : Topic) (e : Element) : String :=
  if t.isFragment then innerMarkup e else innerText e

/-- The child of a root that tells a topic. -/
def tellerOf (root : Element) (t : Topic) : Option Element :=
  (root.childrenNamed t.tag).getLast?

def payload (root : Element) : Fields :=
  Topic.all.filterMap fun t => (tellerOf root t).map fun e => (t.field, .text (topicText t e))

/-- The summary that a payload makes. -/
def ofPayload (fields : Fields) : Except Fault Summary := do
  match ofFields (← checkPayload fields) with
  | .ok s => return s
  | .error vs => throw (.violations kind vs)

/-- Reads the bytes of a summary document. -/
def ofBytes (path : Disk.Path) (bytes : List UInt8) : Except Fault Summary :=
  match parse (.bytes bytes) false with
  | .error (.complaint c) => .error (.malformedSummary path c)
  | .error failure => .error (.markup failure)
  | .ok root =>
    let root := root.plain
    match root.tag? with
    | some "summary" => ofPayload (payload root)
    | tag => .error (.foreignRoot path (tag.getD ""))

/-! ## Fragments -/

/-- A fragment as the content of a division. -/
def fragment (s : Summary) (t : Topic) : Except Fault Element :=
  (parse (.text ("<div>" ++ s.get t ++ "</div>")) false).mapError .markup

/-- The fragment of a name; only fragments have one. -/
def fragmentNamed (s : Summary) (name : String) : Except Fault Element :=
  match Topic.all.find? fun t => t.isFragment && t.field == name with
  | some t => s.fragment t
  | none => .error (.unknownFragment name)

/-- What the variables of a page stand for. -/
def values (s : Summary) (product : String) : List (String × String) :=
  [("releaseID", s.releaseId), ("previousReleaseID", s.previousReleaseId), ("branch", s.branch),
    ("productName", product)]

end Summary

end Pamphlet.Release
