import Pamphlet.Job.Run

/-!
# The command line

A summary, a bug list and the page to write are named by three arguments; with any other number of
them the usage is shown. The exit status is 0 if the page was delivered, 1 if the run failed, and 2
if there was no run.
-/

namespace Pamphlet.CommandLine

open Pamphlet.Record Pamphlet.Text

def usage : String :=
  "\n".intercalate [
    "Usage:",
    "",
    "  python -m relnotes SUMMARY BUG_LIST OUTPUT_PAMPHLET",
    "",
    "    where",
    "        SUMMARY          Summary, a filled-in copy of releaseSummaryTemplate.xml.",
    "        BUG_LIST         A report of issues addressed by this release, exported",
    "                         from the issue tracker.",
    "        OUTPUT_PAMPHLET  The output file to generate, typically RELEASE-NOTES.html.",
    "",
    "The generator connects to the issue tracker in order to read the detailed",
    "release notes attached to individual issues. Before running it, make sure",
    "the tracker is reachable.",
    "",
    "The bug list holds key, title, fix versions and release note attachment id",
    "for each issue. For each issue with an attachment id the generator grabs",
    "the (latest) releaseNote.html file. For this reason, it is recommended that",
    "you freshly generate BUG_LIST just before you run this tool.",
    ""]

/-- What is said of a failed run: the fields of its entry in the catalog. -/
def failureText (fields : Fields) : String :=
  "\x7b" ++ ", ".intercalate (fields.filterMap fun
    | (name, .text s) => some (quoted name ++ ": " ++ quoted s)
    | _ => none) ++ "\x7d"

/-- What a run is given by its surroundings. -/
structure Surroundings where
  name : String
  settings : Settings
  tracker : Tracker
  picks : List Nat
  threads : Probe

def assignment (x : Surroundings) (summary bugList output : String) : Assignment where
  name := x.name
  summaryPath := .read summary
  bugListPath := .read bugList
  outputPath := .read output
  settings := x.settings
  tracker := x.tracker
  followed := true
  picks := x.picks
  threads := x.threads

/-- What a call leaves behind. -/
structure Ending where
  status : Nat
  printed : String
  job : Job

/-- The digits of a digest that are shown. -/
def shownDigest (digest : String) : String :=
  String.ofList (digest.toList.take 12)

def conclude : Except GenerationError Result × Job → Ending
  | (.ok r, j) =>
    let line := s!"Wrote {r.output} (sha256 {shownDigest r.digest})"
    ⟨0, "", { j with log := j.log ++ [⟨.info, line⟩] }⟩
  | (.error e, j) =>
    ⟨1, "", { j with log := j.log ++ [⟨.error, failureText e.entry.fields⟩] }⟩

def run (x : Surroundings) (disk : Disk) : List String → Ending
  | [summary, bugList, output] =>
    conclude (Job.run (assignment x summary bugList output) (.new disk))
  | _ => ⟨2, usage ++ "\n", .new disk⟩

end Pamphlet.CommandLine
