import Pamphlet.Disk.Basic
import Pamphlet.Job.Log
import Pamphlet.Job.Stage
import Pamphlet.Job.Threads
import Pamphlet.Job.Timing
import Pamphlet.Page.Basic
import Pamphlet.Page.Chapters
import Pamphlet.Settings

/-!
# Jobs

The state of a job that makes release notes, what it is given, and what a step may do to it. An
action changes the state and may end in a fault; what it did before the fault stays done.
-/

namespace Pamphlet

open Pamphlet.Release Pamphlet.Disk

/-- What a job is given. -/
structure Assignment where
  name : String
  summaryPath : Path
  bugListPath : Path
  outputPath : Path
  settings : Settings
  tracker : Tracker
  /-- Whether replies to other places are followed. -/
  followed : Bool
  /-- Which of the downloads in flight ends next, time after time. -/
  picks : List Nat
  threads : Probe

/-- Where the notes of a job come from. -/
def Assignment.source (a : Assignment) : Release.Source :=
  ⟨a.tracker, a.followed, a.settings.naming.lead⟩

structure Job where
  stage : Stage := .received
  summary : Option Summary := none
  issues : List Issue := []
  page : Option Page := none
  /-- The titles of the sections attached so far. -/
  titles : List String := []
  output : String := ""
  warnings : List String := []
  incidents : List Incident := []
  /-- The issues that still need a note. -/
  missing : List Issue := []
  timings : List Timing := []
  disk : Disk
  /-- The addresses asked for, in order. -/
  asked : List String := []
  log : List LogLine := []

abbrev Act := ExceptT Fault (StateM Job)

namespace Job

/-- A job that has not begun. -/
def new (disk : Disk) : Job :=
  { disk }

end Job

end Pamphlet
