import Pamphlet.Proofs.Job.Failure
import Pamphlet.Proofs.Job.Result
import Pamphlet.Proofs.Text.Utf8

/-!
# A run delivers its page or fails

Whatever the files hold, whatever the disk refuses and whatever the tracker answers, a run ends in
one of two ways (`run_delivers_or_fails`):

* it tells its result; then the target holds the bytes of the page, the digest is that of these
  bytes, and no other file has changed (`Delivered`);
* it ends in a `GenerationError`; then a step of the plan has failed, the error has the code of the
  step's fault if that has one, and every file is as it was, unless the page could not be written
  and the disk does not let its scratch file be removed (`Failed`).

The reason is that no step but the last one touches a disk (`Step.act_disk`), and that the last one
writes a file whole or leaves a scratch file at most (`Disk.write_ok`, `Disk.write_error`).
-/

namespace Pamphlet.Job

open Pamphlet.Text Act

/-- The steps of a run before the page is written. -/
def planBefore : List Step :=
  composing ++ [.check, .substitute]

theorem plan_eq_planBefore : plan = planBefore ++ [.serialize, .write] := rfl

theorem write_not_mem_planBefore : Step.write ∉ planBefore := by
  decide

/-! ## Disks along a run -/

/-- A step but the last one leaves the disk alone, whether it goes well or not. -/
theorem perform_disk {a : Assignment} {s : Step} {j k : Job} {result : Except Fault Unit}
    (hs : s ≠ .write) (h : (s.perform a).on j = (result, k)) : k.disk = j.disk := by
  have hact := Step.act_disk a j hs
  cases result with
  | ok u =>
    obtain ⟨detail, i, hi, rfl⟩ := Step.perform_ok h
    rw [hi] at hact
    exact hact
  | error f =>
    obtain ⟨i, hi, rfl⟩ := Step.perform_error h
    rw [hi] at hact
    exact hact

/-- All steps before the last one leave the disk alone. -/
theorem performAll_disk {a : Assignment} {steps : List Step} {j k : Job} {u : Unit}
    (hsteps : Step.write ∉ steps) (h : (performAll a steps).on j = (.ok u, k)) :
    k.disk = j.disk := by
  refine performAll_induct (P := fun i => i.disk = j.disk) ?_ rfl h
  intro s hs i i' hi hperform
  have hne : s ≠ .write := fun he => hsteps (he ▸ hs)
  rw [perform_disk hne hperform, hi]

/-- What comes before a step of the plan is a part of the plan without its last step. -/
theorem write_not_mem_of_plan {done rest : List Step} {s : Step}
    (hplan : plan = done ++ s :: rest) : Step.write ∉ done := by
  intro hmem
  have hlast : Step.write ∈ plan.dropLast := by
    rw [hplan, List.dropLast_append_of_ne_nil (List.cons_ne_nil s rest)]
    exact List.mem_append_left _ hmem
  revert hlast
  decide

/-! ## The two ends of a run -/

/-- A run that has delivered: what became of the job and the files that it began with. -/
structure Delivered (a : Assignment) (before after : Job) (r : Result) : Prop where
  stage : after.stage = .delivered
  /-- The target holds the page in UTF-8, the digest is that of these bytes, and every other file is
  as before. -/
  written : ∃ page place, after.page = some page ∧ after.disk.locate a.outputPath = .ok place ∧
    after.disk.file? place = some page.text.toByteArray.data.toList ∧
    r.digest = Digest.Sha256.hex page.text.toByteArray.data.toList ∧
    ∀ other, other ≠ place → after.disk.file? other = before.disk.file? other
  told : Result.ofFields r.fields = .ok r

/-- A run that has failed. -/
structure Failed (a : Assignment) (before after : Job) (e : GenerationError) : Prop where
  stage : after.stage = .failed
  /-- The cause is the fault of a step; the steps before it went well and did not touch the disk.
  What the step has left of it is there at the end. The files are those of before, under their
  places and with their bytes, and there is no other, exactly if the step was not writing the page
  to a disk that keeps the scratch file. -/
  cause : ∃ done s rest i k, plan = done ++ s :: rest ∧
    (performAll a done).on before = (.ok (), i) ∧ (s.act a).on i = (.error e.cause, k) ∧
    i.disk = before.disk ∧ s.Leaves a e.cause i after ∧
    (after.disk.files = before.disk.files ↔
      ¬(s = .write ∧ before.disk.KeepsScratch a.outputPath))
  /-- On a disk that lets scratch files be removed, all files are as before. -/
  files : ¬before.disk.KeepsScratch a.outputPath → after.disk.files = before.disk.files
  code : e.entry.code =
    match e.cause.catalog? with
    | some entry => entry.code
    | none => "GENERATION_FAILED"

/-- A run that tells its result has written the page. -/
theorem delivered_of_run {a : Assignment} {j k : Job} {r : Result} (h : run a j = (.ok r, k)) :
    Delivered a j k r := by
  obtain ⟨last, hsteps, rfl, rfl⟩ := run_ok h
  rw [plan_eq_planBefore] at hsteps
  obtain ⟨i, hbefore, hrest⟩ := performAll_append_ok hsteps
  obtain ⟨i', hserialize, hrest⟩ := performAll_cons_ok hrest
  obtain ⟨i'', hwrite, hnil⟩ := performAll_cons_ok hrest
  cases hnil
  obtain ⟨p, hp, hserialized⟩ := serialize_work hserialize
  obtain ⟨hwritten, hlast⟩ := write_work hwrite
  rw [hserialized] at hwritten hlast
  have hdisk : i.work.disk = j.disk := performAll_disk write_not_mem_planBefore hbefore
  obtain ⟨place, hplace, hbytes, hothers⟩ := Disk.write_ok hwritten
  have hpage : last.page = some p := (congrArg Work.page hlast).trans hp
  have houtput : last.output = p.text := congrArg Work.output hlast
  refine ⟨rfl, ⟨p, place, hpage, hplace, ?_, ?_, ?_⟩, Result.ofFields_fields _⟩
  · rw [← Utf8.encode_eq]
    exact hbytes
  · rw [← Utf8.encode_eq, ← houtput]
    rfl
  · intro other hother
    rw [← hdisk]
    exact hothers other hother

/-- An error has the code of its cause, or a code of its own for a cause that has none. -/
theorem entry_code (e : GenerationError) :
    e.entry.code =
      match e.cause.catalog? with
      | some entry => entry.code
      | none => "GENERATION_FAILED" := by
  unfold GenerationError.entry CatalogError.generation
  cases e.cause.catalog? <;> rfl

/-- A run that fails has failed in one step, and leaves what this step leaves. -/
theorem failed_of_run {a : Assignment} {j k : Job} {e : GenerationError}
    (h : run a j = (.error e, k)) : Failed a j k e := by
  obtain ⟨last, hsteps, rfl⟩ := run_error h
  obtain ⟨done, s, rest, i, hplan, hdone, hs⟩ := performAll_error hsteps
  have hdisk : i.disk = j.disk := performAll_disk (write_not_mem_of_plan hplan) hdone
  obtain ⟨i', hact, -⟩ := Step.perform_error hs
  have hleaves := (Step.perform_error_spares hs).disk
  have hfiles := hleaves.files_eq_iff
  rw [hdisk] at hfiles
  exact
    { stage := rfl
      cause := ⟨done, s, rest, i, i', hplan, hdone, hact, hdisk, hleaves.of_disk rfl, hfiles⟩
      files := fun hkeeps => hfiles.2 fun h => hkeeps h.2
      code := entry_code e }

/-- **A run delivers or fails**, and nothing else: whatever job it begins with, whatever the files
hold, and whatever the disk refuses and the tracker answers. A run that fails leaves every file as
it was, but for a scratch file where one can be made and not be removed. -/
theorem run_delivers_or_fails (a : Assignment) (j : Job) :
    match run a j with
    | (.ok r, k) => Delivered a j k r
    | (.error e, k) => Failed a j k e := by
  rcases h : run a j with ⟨result, k⟩
  cases result with
  | ok r => exact delivered_of_run h
  | error e => exact failed_of_run h

end Pamphlet.Job
