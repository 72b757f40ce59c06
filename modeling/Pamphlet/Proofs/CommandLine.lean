import Mathlib.Data.List.Basic
import Pamphlet.CommandLine
import Pamphlet.Proofs.Job.Delivery
import Pamphlet.Proofs.Page.Complete

/-!
# The exit status tells the truth

A call with three arguments is a run, and the status says whether it has delivered; any other call
has status 2 and does nothing. So a call ends in one of three ways (`Ends`), whatever the files
hold, whatever the disk refuses and whatever the tracker answers, and the status tells which one it
was (`run_truthful`).
-/

namespace Pamphlet

open Pamphlet.Page Pamphlet.Text

/-- A page made of a material has all its chapters, in their order. -/
theorem Material.page_complete {a : Assignment} {disk : Disk} {m : Material} (h : m.From a disk) :
    (m.page a).Complete Chapter.titles := by
  rw [← h.titles]
  exact (complete_new Act.pageTitle Act.introduction).attach_all (m.chapters a)

/-- No title of a chapter has a brace, so the page stays complete when it is filled. -/
theorem Material.filledPage_complete {a : Assignment} {disk : Disk} {m : Material}
    (h : m.From a disk) : (m.filledPage a).Complete Chapter.titles :=
  (page_complete h).fill _ (by decide)

namespace CommandLine

/-- What a job has delivered that a call has begun: its run has a result, which passes its own
check, its target holds a complete page, and every other file is as before. -/
structure Delivers (x : Surroundings) (disk : Disk) (args : List String) (j : Job) : Prop where
  stage : j.stage = .delivered
  ran : ∃ summary bugList output r k, args = [summary, bugList, output] ∧
    Job.run (assignment x summary bugList output) (.new disk) = (.ok r, k) ∧
    Result.ofFields r.fields = .ok r ∧
    ∃ page place, j.page = some page ∧ page.Complete Chapter.titles ∧
      j.disk.locate (.read output) = .ok place ∧
      j.disk.file? place = some (Utf8.encode page.text) ∧
      ∀ other, other ≠ place → j.disk.file? other = disk.file? other

/-- What a job has left that a call has begun and that has failed: the disk as it was, or what is
left of a page that could not be written. So every file is as before, unless the disk keeps the
scratch file of the page. -/
structure Fails (x : Surroundings) (disk : Disk) (args : List String) (j : Job) : Prop where
  stage : j.stage = .failed
  ran : ∃ summary bugList output e k, args = [summary, bugList, output] ∧
    Job.run (assignment x summary bugList output) (.new disk) = (.error e, k) ∧
    (j.disk = disk ∨ ∃ page problem, e.cause = .file problem ∧
      disk.Leftover (.read output) (Utf8.encode page) problem j.disk) ∧
    (¬disk.KeepsScratch (.read output) → j.disk.files = disk.files)

/-- The ways in which a call ends. -/
inductive Ends (x : Surroundings) (disk : Disk) (args : List String) : Ending → Prop
  | usage (hargs : args.length ≠ 3) : Ends x disk args ⟨2, usage ++ "\n", .new disk⟩
  | delivered {e : Ending} (hargs : args.length = 3) (status : e.status = 0)
      (h : Delivers x disk args e.job) : Ends x disk args e
  | failed {e : Ending} (hargs : args.length = 3) (status : e.status = 1)
      (h : Fails x disk args e.job) : Ends x disk args e

variable (x : Surroundings) (disk : Disk)

/-- A run that has failed leaves what its last step has left. -/
theorem fails_of_run {summary bugList output : String} {e : GenerationError} {j k : Job}
    (hrun : Job.run (assignment x summary bugList output) (.new disk) = (.error e, k))
    (stage : j.stage = k.stage) (same : j.disk = k.disk) :
    Fails x disk [summary, bugList, output] j := by
  have hfailed := Job.failed_of_run hrun
  refine ⟨stage.trans hfailed.stage, _, _, _, e, k, rfl, hrun, ?_, ?_⟩
  · obtain ⟨-, s, -, i, -, -, -, -, hdisk, hleaves, -⟩ := hfailed.cause
    cases hleaves with
    | untouched other untouched => exact .inl (same.trans (untouched.trans hdisk))
    | @unwritten problem last fault left =>
      rw [hdisk, ← same] at left
      exact .inr ⟨i.output, problem, fault, left⟩
  · intro hkeeps
    rw [same]
    exact hfailed.files hkeeps

theorem conclude_ends (summary bugList output : String) :
    Ends x disk [summary, bugList, output]
      (conclude (Job.run (assignment x summary bugList output) (.new disk))) := by
  rcases hrun : Job.run (assignment x summary bugList output) (.new disk) with ⟨result, k⟩
  cases result with
  | ok r =>
    have hdelivered := Job.delivered_of_run hrun
    obtain ⟨m, hm, -, hwork, hwritten⟩ := Job.delivered_work hrun
    obtain ⟨place, hplace, hbytes, hothers⟩ := Disk.write_ok hwritten
    refine .delivered rfl rfl
      ⟨hdelivered.stage, _, _, _, r, k, rfl, hrun, hdelivered.told, ?_⟩
    have hpage : k.page = some _ := congrArg Work.page hwork
    exact ⟨_, place, hpage, Material.filledPage_complete hm, hplace, hbytes, hothers⟩
  | error err => exact .failed rfl rfl (fails_of_run x disk hrun rfl rfl)

theorem run_ends (args : List String) : Ends x disk args (run x disk args) := by
  unfold run
  split
  · exact conclude_ends x disk _ _ _
  · rename_i hother
    refine .usage fun hlength => ?_
    obtain ⟨summary, bugList, output, rfl⟩ := List.length_eq_three.1 hlength
    exact hother _ _ _ rfl

/-- What the status of a call says, which has begun on a disk with some arguments, is so. -/
structure Truthful (args : List String) (e : Ending) : Prop where
  misused : e.status = 2 ↔ args.length ≠ 3
  /-- No file has been read or written, and nothing has been asked for. -/
  idle : e.status = 2 → e = ⟨2, usage ++ "\n", .new disk⟩
  delivered : e.status = 0 ↔ e.job.stage = .delivered
  delivers : e.status = 0 → Delivers x disk args e.job
  failed : e.status ≠ 2 → e.status ≠ 0 → e.status = 1 ∧ Fails x disk args e.job

/-- Each way of ending has a status of its own. -/
theorem Ends.truthful {x : Surroundings} {disk : Disk} {args : List String} {e : Ending}
    (h : Ends x disk args e) : Truthful x disk args e := by
  cases h with
  | usage hargs => exact ⟨by simp [hargs], fun _ => rfl, by simp [Job.new], by simp, by simp⟩
  | delivered hargs status h =>
    exact ⟨by omega, fun h => by omega, by simp [status, h.stage], fun _ => h,
      fun _ hnot => by omega⟩
  | failed hargs status h =>
    exact ⟨by omega, fun h => by omega, by simp [status, h.stage], fun h => by omega,
      fun _ _ => ⟨status, h⟩⟩

/-- **The exit status tells the truth.** It is 2 exactly if there are not three arguments; then the
usage is printed, and the job has not begun. It is 0 exactly if the job has delivered; then the
target holds a complete page. In all other cases it is 1, and every file is as before, unless the
page could not be written and the disk does not let its scratch file be removed. -/
theorem run_truthful (args : List String) : Truthful x disk args (run x disk args) :=
  (run_ends x disk args).truthful

example (args : List String) :
    (run x disk ("a" :: "b" :: "out.html" :: "extra" :: args)).status = 2 :=
  rfl

end CommandLine

end Pamphlet
