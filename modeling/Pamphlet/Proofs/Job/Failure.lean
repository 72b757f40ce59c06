import Pamphlet.Proofs.Disk.Write
import Pamphlet.Proofs.Job.Accounts

/-!
# A step that fails changes nothing

An action that ends in a fault keeps what it did before the fault, so that a failed step leaves a
job as it was is a property of the steps and not of the actions that they are made of. It holds
because no step changes the job before the last thing in it that can fail: `act_error` says what is
left of an action that has failed, and `perform_error_spares` says the same of a step as part of a
job, together with what is recorded of it.

The disk is the exception. The step that writes the page may have made folders, which stay, and a
scratch file, which stays on a disk that does not let it be removed (`Leaves`).
-/

namespace Pamphlet.Step

open Act

/-! ## The disk -/

/-- What a failed step leaves of the disk of a job: the disk as it was, or what is left of a page
that could not be written. -/
inductive Leaves (a : Assignment) (s : Step) (f : Fault) (j k : Job) : Prop
  | untouched (other : s ≠ .write) (disk : k.disk = j.disk)
  | unwritten {problem : Disk.FileProblem} (last : s = .write) (fault : f = .file problem)
      (left : j.disk.Leftover a.outputPath (Text.Utf8.encode j.output) problem k.disk)

/-- What is left of the disk after the action of a failed step. -/
theorem act_leaves {a : Assignment} {s : Step} {j i : Job} {f : Fault}
    (h : (s.act a).on j = (.error f, i)) : s.Leaves a f j i := by
  by_cases hs : s = .write
  · subst hs
    rw [act, on_write] at h
    split at h
    · rename_i problem disk hwrite
      cases h
      exact .unwritten rfl rfl (Disk.write_error hwrite)
    · cases h
  · have hdisk := act_disk a j hs
    rw [h] at hdisk
    exact .untouched hs hdisk

/-- Only the disk counts. -/
theorem Leaves.of_disk {a : Assignment} {s : Step} {f : Fault} {j k i : Job} (h : s.Leaves a f j k)
    (disk : i.disk = k.disk) : s.Leaves a f j i := by
  cases h with
  | untouched other same => exact .untouched other (disk.trans same)
  | unwritten last fault left => exact .unwritten last fault (disk ▸ left)

/-- All files are as before, unless it is the page that could not be written and the disk keeps the
scratch file. -/
theorem Leaves.files_eq_iff {a : Assignment} {s : Step} {f : Fault} {j k : Job}
    (h : s.Leaves a f j k) :
    k.disk.files = j.disk.files ↔ ¬(s = .write ∧ j.disk.KeepsScratch a.outputPath) := by
  cases h with
  | untouched other disk => exact iff_of_true (congrArg Disk.files disk) fun h => other h.1
  | unwritten last fault left =>
    rw [left.files_eq_iff]
    exact not_congr ⟨fun h => ⟨last, h⟩, fun h => h.2⟩

/-! ## The job -/

/-- What a failed action leaves is the job as it was, but for the disk; downloads may have been
made. -/
theorem act_error {a : Assignment} {s : Step} {j i : Job} {f : Fault}
    (h : (s.act a).on j = (.error f, i)) : ∃ disk asked log, i = { j with disk, asked, log } := by
  have same : ∃ disk asked log, j = { j with disk, asked, log } :=
    ⟨j.disk, j.asked, j.log, rfl⟩
  cases s with
  | beginOutput | report => cases h
  | loadSummary =>
    rw [act, on_loadSummary] at h
    split at h
    · cases h
      exact same
    · split at h
      · cases h
        exact same
      · cases h
  | overview | newFeatures | environment | verification =>
    rw [act, on_addChapter] at h
    split at h
    · cases h
      exact same
    · split at h
      · cases h
        exact same
      · split at h
        · cases h
          exact same
        · cases h
  | loadIssues =>
    rw [act, on_loadIssues] at h
    split at h
    · cases h
      exact same
    · split at h
      · cases h
        exact same
      · split at h
        · cases h
          exact same
        · split at h
          · cases h
            exact same
          · cases h
  | bugFixes =>
    rw [act, on_bugFixes] at h
    split at h
    · cases h
      exact same
    · split at h
      · cases h
        exact same
      · cases h
  | issues =>
    -- the notes have been fetched before anything can fail
    rw [act, on_issues] at h
    split at h
    · cases h
      exact ⟨_, _, _, rfl⟩
    · split at h
      · cases h
        exact ⟨_, _, _, rfl⟩
      · cases h
  | check =>
    rw [act, on_check] at h
    split at h
    · cases h
      exact same
    · split at h
      · cases h
        exact same
      · split at h
        · cases h
        · cases h
          exact same
  | substitute =>
    rw [act, on_substitute] at h
    split at h
    · cases h
      exact same
    · split at h
      · cases h
        exact same
      · cases h
  | serialize =>
    rw [act, on_serialize] at h
    split at h
    · cases h
      exact same
    · cases h
  | write =>
    rw [act, on_write] at h
    split at h
    · rename_i problem disk hwrite
      cases h
      exact ⟨disk, j.asked, j.log, rfl⟩
    · cases h

/-- A job that a failed step has left as it was: the same stage, the same material, the same page
with its contents list and titles, the same text and results. -/
structure Spares (a : Assignment) (s : Step) (f : Fault) (j k : Job) : Prop where
  stage : k.stage = j.stage
  summary : k.summary = j.summary
  issues : k.issues = j.issues
  page : k.page = j.page
  titles : k.titles = j.titles
  output : k.output = j.output
  warnings : k.warnings = j.warnings
  incidents : k.incidents = j.incidents
  missing : k.missing = j.missing
  disk : s.Leaves a f j k
  /-- When all files are there under their places and with their bytes, and there is no other. -/
  files : k.disk.files = j.disk.files ↔ ¬(s = .write ∧ j.disk.KeepsScratch a.outputPath)
  /-- At most the failure of the step is recorded. -/
  timings : k.timings = j.timings ∨ k.timings = j.timings ++ [⟨s.name, 0, "failed", f.text⟩]

/-- **A step is done as a whole or not at all**, the disk apart. Whatever has been done to a job
before, and whichever of its steps is performed, if the step fails then the job is as it was before,
and at most one failure has been recorded. The files are as before exactly if the step was not
writing the page to a disk that does not let its scratch file be removed; there, this one file
stays. -/
theorem perform_error_spares {a : Assignment} {s : Step} {j k : Job} {f : Fault}
    (h : (s.perform a).on j = (.error f, k)) : s.Spares a f j k := by
  obtain ⟨i, hact, rfl⟩ := perform_error h
  have hleaves := act_leaves hact
  obtain ⟨disk, asked, log, rfl⟩ := act_error hact
  have hdisk : s.Leaves a f j (s.refused f { j with disk, asked, log }) := hleaves.of_disk rfl
  have htimings : (s.refused f { j with disk, asked, log }).timings = j.timings ∨
      (s.refused f { j with disk, asked, log }).timings =
        j.timings ++ [⟨s.name, 0, "failed", f.text⟩] := by
    unfold refused
    cases s.recordsFault with
    | true => exact .inr rfl
    | false => exact .inl (List.append_nil _)
  exact
    { stage := rfl, summary := rfl, issues := rfl, page := rfl, titles := rfl, output := rfl,
      warnings := rfl, incidents := rfl, missing := rfl, disk := hdisk,
      files := hdisk.files_eq_iff, timings := htimings }

/-- The disk of the sample, where files can be made and filled but neither renamed nor removed. -/
def growingDisk : Disk :=
  { Job.sampleDisk with
    refuses
      | .rename _ _ | .removeFile _ =>
        some ⟨.refused 1 "PermissionError" "Operation not permitted", Disk.Trouble.noConfusion⟩
      | _ => none }

/-- Some steps up to one that puts the page into words. -/
def shortPlan : List Step :=
  [.loadSummary, .beginOutput, .overview, .serialize]

/-- Writing fails when the page is already in a scratch file; the job is as the steps before have
left it, but there is one file more. -/
theorem perform_error_spares_sample :
    ∃ j k f, (Job.performAll Job.sampleAssignment shortPlan).on (.new growingDisk) = (.ok (), j) ∧
      (Step.write.perform Job.sampleAssignment).on j = (.error f, k) ∧
      Step.write.Spares Job.sampleAssignment f j k ∧
      k.disk.files.length = j.disk.files.length + 1 := by
  have hsteps : ((Job.performAll Job.sampleAssignment shortPlan).on (.new growingDisk)).1.isOk =
      true := by
    decide +kernel
  have hwrite : ((Step.write.perform Job.sampleAssignment).on
      ((Job.performAll Job.sampleAssignment shortPlan).on (.new growingDisk)).2).1.isOk
        = false := by
    decide +kernel
  have hfiles : ((Step.write.perform Job.sampleAssignment).on
      ((Job.performAll Job.sampleAssignment shortPlan).on
        (.new growingDisk)).2).2.disk.files.length =
      ((Job.performAll Job.sampleAssignment shortPlan).on
        (.new growingDisk)).2.disk.files.length + 1 := by
    decide +kernel
  rcases hbefore : (Job.performAll Job.sampleAssignment shortPlan).on (.new growingDisk) with
    ⟨result, j⟩
  rw [hbefore] at hsteps hwrite hfiles
  rcases hlast : (Step.write.perform Job.sampleAssignment).on j with ⟨result', k⟩
  rw [hlast] at hwrite hfiles
  cases result with
  | error f => cases hsteps
  | ok u =>
    cases result' with
    | ok u' => cases hwrite
    | error f => exact ⟨j, k, f, rfl, hlast, perform_error_spares hlast, hfiles⟩

end Pamphlet.Step
