import Pamphlet.Job.Timing
import Pamphlet.Release.Incident

/-!
# Results

What a finished job tells: where the page is and its digest, what is on it, and what went wrong on
the way without stopping the job.
-/

namespace Pamphlet

open Pamphlet.Record Pamphlet.Release

structure Result where
  job : String
  output : String
  digest : String := ""
  sections : List String := []
  issueCount : Int := 0
  missing : List String := []
  timings : List Timing := []
  warnings : List String := []
  incidents : List Incident := []
  deriving DecidableEq, Repr

namespace Result

def kind : String :=
  "JobResult"

def ofFields (fields : Fields) : Intake Result :=
  Result.mk <$> .required fields "job_id" .text
    <*> .required fields "output_path" .text
    <*> .optional fields "content_hash" "" .text
    <*> .optional fields "sections" [] (.listOf .text)
    <*> .optional fields "issue_count" 0 .whole
    <*> .optional fields "missing_release_notes" [] (.listOf .text)
    <*> .optional fields "timings" [] (.listOf (.recordOf Timing.kind Timing.ofFields))
    <*> .optional fields "warnings" [] (.listOf .text)
    <*> .optional fields "errors" [] (.listOf (.recordOf Incident.kind Incident.ofFields))

def fields (r : Result) : Fields :=
  [("job_id", .text r.job), ("output_path", .text r.output), ("content_hash", .text r.digest),
    ("sections", .texts r.sections), ("issue_count", .number r.issueCount 0),
    ("missing_release_notes", .texts r.missing),
    ("timings", .list (r.timings.map fun t => .record t.fields)),
    ("warnings", .texts r.warnings),
    ("errors", .list (r.incidents.map fun i => .record i.fields))]

end Result

end Pamphlet
