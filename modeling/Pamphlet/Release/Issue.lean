import Pamphlet.Record.Intake

/-!
# Issues

One fixed issue of a release. It may need a release note, which is then attached to it in the issue
tracker or still missing.
-/

namespace Pamphlet.Release

open Pamphlet.Record

inductive NoteStatus
  | attached
  | missing
  | notNeeded
  deriving DecidableEq, Repr

def NoteStatus.name : NoteStatus → String
  | .attached => "has_note"
  | .missing => "missing_note"
  | .notNeeded => "no_note"

structure Issue where
  key : String
  title : String := ""
  versions : List String := []
  address : String
  noteAddress : Option String := none
  status : NoteStatus := .notNeeded
  deriving DecidableEq, Repr

namespace Issue

def hasNote (i : Issue) : Bool :=
  i.status = .attached

def lacksNote (i : Issue) : Bool :=
  i.status = .missing

/-- The name of an issue in the tracker. -/
def name (lead : String) (i : Issue) : String :=
  lead ++ i.key

/-! ## Records -/

def kind : String :=
  "Issue"

def ofFields (fields : Fields) : Intake Issue :=
  Issue.mk <$> .required fields "key" (.textWithin 1 none)
    <*> .optional fields "title" "" .text
    <*> .optional fields "fix_versions" [] (.listOf .text)
    <*> .required fields "jira_address" .text
    <*> .optional fields "release_note_address" none .text?
    <*> .optional fields "release_note_status" .notNeeded
      (.choice ([NoteStatus.attached, .missing, .notNeeded].map fun s => (s.name, s)))

def fields (i : Issue) : Fields :=
  [("key", .text i.key), ("title", .text i.title), ("fix_versions", .texts i.versions),
    ("jira_address", .text i.address),
    ("release_note_address", i.noteAddress.elim .null .text),
    ("release_note_status", .text i.status.name)]

end Issue

end Pamphlet.Release
