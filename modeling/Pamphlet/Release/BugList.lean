import Pamphlet.Fault
import Pamphlet.Release.Issue
import Pamphlet.Text.Lines
import Pamphlet.Text.Stream
import Pamphlet.Text.Template

/-!
# Bug lists

A report of the issues that a release addresses, one line for each, with tabs between key, title,
fix versions and the id of the attached release note. Blank lines say nothing, lines that begin with
two slashes are comments, and the first comment of a certain form names the previous release.

Lines are read in order (`readLines`): of two faults the one on the earlier line is reported, and
`readRecord` has the order of the faults of one line. A list is a stream of text, so a bad record
comes before bytes that encode no character if its line ends in an earlier piece.
-/

namespace Pamphlet.Release

open Pamphlet.Text

/-- How issues are named and where the tracker shows them. -/
structure Naming where
  lead : String
  browseUrl : String
  attachmentUrl : String
  deriving DecidableEq, Repr

/-- What a bug list says. -/
structure BugList where
  issues : List Issue
  previous : Option String
  deriving DecidableEq, Repr

namespace BugList

def commentMark : List Char :=
  "//".toList

def previousMark : List Char :=
  "// Previous release:".toList

/-- A line of the list, without its end. -/
inductive Line
  | blank
  | comment (previous : Option String)
  | record (fields : List (List Char))
  deriving DecidableEq, Repr

/-- The parts of a text between separators. -/
def splitOn (separator : Char) : List Char → List (List Char)
  | [] => [[]]
  | c :: cs =>
    if c = separator then [] :: splitOn separator cs
    else
      match splitOn separator cs with
      | [] => [[c]]
      | part :: parts => (c :: part) :: parts

def Line.read (cs : List Char) : Line :=
  if cs.all isBlank then .blank
  else if commentMark.isPrefixOf cs then
    .comment <|
      if previousMark.isPrefixOf cs then
        some (String.ofList (trimChars (cs.drop previousMark.length)))
      else none
  else .record (splitOn '\t' cs)

/-! ## Records -/

/-- What stands for a note in a record. -/
inductive NoteMark
  | none
  | missing
  | id (digits : List Char)
  deriving DecidableEq, Repr

/-- Reads the last field of a record. -/
def NoteMark.read? (cs : List Char) : Option NoteMark :=
  if cs.isEmpty || cs == ['-'] then some .none
  else if cs.map lowerChar == "missing".toList then some .missing
  else if cs.all isDigit then some (.id cs)
  else Option.none

/-- The key of an issue, without what its name begins with. -/
def keyOf (lead : String) (field : List Char) : List Char :=
  let key := trimChars field
  if lead.toList.isPrefixOf key then key.drop lead.length else key

def versionsOf (field : List Char) : List String :=
  ((splitOn ',' field).map trimChars).filter (!·.isEmpty) |>.map String.ofList

def fillUrl (template name value : String) : Except Template.Problem String :=
  Template.fill template [(name, value)]

/-- The issue that a record describes. A bad record is a problem of its line; a bad template is a
fault of its own. -/
def readRecord (naming : Naming) (fields : List (List Char)) :
    Except Fault (Except RecordProblem Issue) := do
  let [first, title] := fields.take 2 | return .error .tooFewFields
  let key := String.ofList (keyOf naming.lead first)
  if key = "" then return .error .emptyKey
  let note := trimChars (fields[3]?.getD [])
  let some mark := NoteMark.read? note | return .error (.badAttachment (String.ofList note))
  let fill (template name value : String) := (fillUrl template name value).mapError Fault.template
  let noteAddress ←
    match mark with
    | .id digits => some <$> fill naming.attachmentUrl "attachment_id" (String.ofList digits)
    | _ => pure none
  let address ← fill naming.browseUrl "issue_id" (naming.lead ++ key)
  return .ok {
    key, title := String.ofList (trimChars title), versions := versionsOf (fields[2]?.getD [])
    address, noteAddress
    status := match mark with
      | .none => .notNeeded
      | .missing => .missing
      | .id _ => .attached }

/-- A record must not name an issue again. -/
def checkNew (lead : String) (seen : List Issue) (i : Issue) : Except RecordProblem Issue :=
  if seen.any (·.key == i.key) then .error (.duplicate (i.name lead)) else .ok i

/-! ## Lists -/

/-- Reads lines from a number on, after those that made `list`. -/
def readLines (path : Disk.Path) (naming : Naming) (number : Nat) (list : BugList) :
    List (List Char) → Except Fault BugList
  | [] => return list
  | line :: rest =>
    match Line.read line with
    | .blank => readLines path naming (number + 1) list rest
    | .comment previous =>
      readLines path naming (number + 1) { list with previous := list.previous <|> previous } rest
    | .record fields => do
      let read ← readRecord naming fields
      match read.bind (checkNew naming.lead list.issues) with
      | .error problem => throw (.badRecord path number problem)
      | .ok i => readLines path naming (number + 1) { list with issues := list.issues ++ [i] } rest

def ofLines (path : Disk.Path) (naming : Naming) (ls : List (List Char)) : Except Fault BugList :=
  readLines path naming 1 ⟨[], none⟩ ls

def ofChars (path : Disk.Path) (naming : Naming) (cs : List Char) : Except Fault BugList :=
  ofLines path naming (lines cs)

/-- Reads the bytes of a bug list. -/
def ofBytes (path : Disk.Path) (naming : Naming) (bytes : List UInt8) : Except Fault BugList :=
  match Utf8.decodeStream bytes with
  | (cs, none) => ofChars path naming cs
  | (before, some fault) => do
    let _ ← ofLines path naming (endedLines before)
    throw (.undecodable fault)

theorem ofBytes_of_decode {path : Disk.Path} {naming : Naming} {bytes : List UInt8}
    {cs : List Char} (h : Utf8.decode bytes = (cs, none)) :
    ofBytes path naming bytes = ofChars path naming cs := by
  rw [ofBytes, Utf8.decodeStream_eq_none_iff.2 h]

/-- A list that has been read is UTF-8 all through. -/
theorem ofBytes_ok {path : Disk.Path} {naming : Naming} {bytes : List UInt8} {list : BugList}
    (h : ofBytes path naming bytes = .ok list) :
    ∃ cs, Utf8.decode bytes = (cs, none) ∧ ofChars path naming cs = .ok list := by
  unfold ofBytes at h
  split at h
  · exact ⟨_, Utf8.decodeStream_eq_none_iff.1 ‹_›, h⟩
  · cases hlines : ofLines path naming (endedLines _) with
    | error f => rw [hlines] at h; cases h
    | ok list' => rw [hlines] at h; cases h

/-! ## The previous release -/

/-- Compares the previous release of a list with that of the summary; they can be compared only if
the list names one. -/
def checkPrevious (previous : Option String) (expected : String) : Except Fault (List String) :=
  match previous with
  | none => .ok ["Skipped previous release version sanity check."]
  | some found => if found = expected then .ok [] else .error (.mismatch expected found)

end BugList

end Pamphlet.Release
