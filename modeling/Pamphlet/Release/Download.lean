import Pamphlet.Release.Incident
import Pamphlet.Release.Issue
import Pamphlet.Release.Note
import Pamphlet.Tracker.Reply

/-!
# Downloads

Fetching the note of an issue from the tracker. A fault of one download becomes an incident of its
issue's outcome; no other issue is touched by it.
-/

namespace Pamphlet.Release

open Pamphlet.Tracker

/-- Where notes are fetched from. -/
structure Source where
  tracker : Tracker
  followed : Bool
  lead : String

/-- What a download gave, and the addresses asked for. -/
structure Download where
  note : Except Fault Note
  asked : List String

/-- The note on a fetched page. -/
def readFetched (address : String) : Fetched → Except Fault Note
  | .page body => Note.parse (.bytes body)
  | .problem p => .error (.noFetch address p)
  | .broken kind text => .error (.foreign kind text)

/-- The download of an issue that has a place in a list. -/
def Source.download (source : Source) (i : Issue) (place : Nat := 0) : Download :=
  match i.noteAddress.filter (· ≠ "") with
  | none => ⟨.error (.noAddress (i.name source.lead)), []⟩
  | some address =>
    let (fetched, asked) := fetch source.tracker source.followed place address
    ⟨readFetched address fetched, asked⟩

/-- What became of the note of an issue. -/
structure Outcome where
  issue : Issue
  note : Option Note
  incident : Option Incident

/-- What is said of a note that could not be had. -/
def unreadable (lead : String) (i : Issue) : String :=
  "Unable to read or parse release note for " ++ i.name lead

end Pamphlet.Release
