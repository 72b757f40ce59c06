import Pamphlet.Job.Result
import Pamphlet.Proofs.Record.Intake

/-!
# Results can be told

A result is made when a run has already delivered, and nobody handles a failure there. The record of
a result is always one that is read back as the result (`Result.ofFields_fields`): no timing, no
incident and no field of it breaks a rule of its kind.
-/

namespace Pamphlet

open Pamphlet.Record Pamphlet.Record.Intake Pamphlet.Release

theorem Timing.ofFields_fields (t : Timing) : Timing.ofFields t.fields = .ok t := by
  unfold Timing.ofFields
  rw [required_of_get? (d := .text t.step) (x := t.step) rfl rfl,
    required_of_get? (d := .number t.milliseconds 0) rfl (whole_number t.milliseconds),
    optional_of_get? (d := .text t.status) (x := t.status) rfl rfl,
    optional_of_get? (d := .text t.detail) (x := t.detail) rfl rfl]
  rfl

theorem Release.Incident.ofFields_fields (i : Incident) : Incident.ofFields i.fields = .ok i := by
  unfold Incident.ofFields
  rw [required_of_get? (d := .text i.message) (x := i.message) rfl rfl,
    optional_of_get? (d := .text i.cause) (x := i.cause) rfl rfl]
  rfl

/-- **A result that is written down is read back as it is.** -/
theorem Result.ofFields_fields (r : Result) : Result.ofFields r.fields = .ok r := by
  have timings : listOf (recordOf Timing.kind Timing.ofFields)
      (.list (r.timings.map fun t => .record t.fields)) = .ok r.timings :=
    listOf_map _ (fun t => t.ofFields_fields) r.timings
  have incidents : listOf (recordOf Incident.kind Incident.ofFields)
      (.list (r.incidents.map fun i => .record i.fields)) = .ok r.incidents :=
    listOf_map _ (fun i => i.ofFields_fields) r.incidents
  unfold Result.ofFields
  rw [required_of_get? (d := .text r.job) (x := r.job) rfl rfl,
    required_of_get? (d := .text r.output) (x := r.output) rfl rfl,
    optional_of_get? (d := .text r.digest) (x := r.digest) rfl rfl,
    optional_of_get? (d := .texts r.sections) rfl (listOf_texts r.sections),
    optional_of_get? (d := .number r.issueCount 0) rfl (whole_number r.issueCount),
    optional_of_get? (d := .texts r.missing) rfl (listOf_texts r.missing),
    optional_of_get? rfl timings,
    optional_of_get? (d := .texts r.warnings) rfl (listOf_texts r.warnings),
    optional_of_get? rfl incidents]
  rfl

end Pamphlet
