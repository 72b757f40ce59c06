import Pamphlet.Proofs.Job.Agreement
import Pamphlet.Proofs.Job.Delivery

/-!
# The timings of a run

A step that goes well is recorded once, as done (`Completed`), except that the check is not
recorded. Of the steps that fail, only those that read a file are recorded (`Step.recordsFault`). So
the timings of a run that delivers are the twelve recorded steps in their order, and those of a run
that fails are the recorded steps before the fault, with an entry for the fault only if it came up
while a file was read (`run_timings`).

With a summary and a page at hand (`Work.Ready`) most steps cannot fail (`act_ok_of_ready`), so a
run fails at one of the `fallible` steps.
-/

namespace Pamphlet

open Pamphlet.Release Act

/-! ## Steps -/

namespace Step

/-- A step that goes well is recorded as done. -/
theorem timings_of_ok {a : Assignment} {s : Step} {j k : Job} {u : Unit}
    (h : (s.perform a).on j = (.ok u, k)) :
    ∃ detail, k.timings =
      j.timings ++ if s.isRecorded then [⟨s.name, 0, "ok", detail⟩] else [] := by
  obtain ⟨detail, i, hact, rfl⟩ := perform_ok h
  have hsame := (act_keeps a s j).timings
  rw [hact] at hsame
  exact ⟨detail, by rw [← hsame]; rfl⟩

/-- A step that fails is recorded only if it reads a file. -/
theorem timings_of_error {a : Assignment} {s : Step} {j k : Job} {f : Fault}
    (h : (s.perform a).on j = (.error f, k)) :
    k.timings = j.timings ++ if s.recordsFault then [⟨s.name, 0, "failed", f.text⟩] else [] := by
  obtain ⟨i, hact, rfl⟩ := perform_error h
  have hsame := (act_keeps a s j).timings
  rw [hact] at hsame
  rw [← hsame]
  rfl

end Step

namespace Job

/-- The timings of steps that are done: each step that is recorded once, in their order, as done. -/
structure Completed (steps : List Step) (timings : List Timing) : Prop where
  steps : timings.map (·.step) = (steps.filter (·.isRecorded)).map Step.name
  status : ∀ t ∈ timings, t.status = "ok"

/-- One step more that has gone well. -/
theorem Completed.cons {s : Step} {steps : List Step} {timings : List Timing}
    (h : Completed steps timings) (detail : String) :
    Completed (s :: steps)
      ((if s.isRecorded then [⟨s.name, 0, "ok", detail⟩] else []) ++ timings) := by
  by_cases hs : s.isRecorded = true
  · rw [if_pos hs]
    refine ⟨?_, ?_⟩
    · rw [List.filter_cons_of_pos hs, List.singleton_append, List.map_cons, List.map_cons, h.steps]
    · intro t ht
      rcases List.mem_cons.1 ht with rfl | ht
      · rfl
      · exact h.status t ht
  · rw [if_neg hs, List.nil_append]
    refine ⟨?_, h.status⟩
    rw [List.filter_cons_of_neg hs, h.steps]

/-- What steps in a row record when all of them go well. -/
theorem timings_of_performAll {a : Assignment} {steps : List Step} {j k : Job} {u : Unit}
    (h : (performAll a steps).on j = (.ok u, k)) :
    ∃ completed, Completed steps completed ∧ k.timings = j.timings ++ completed := by
  induction steps generalizing j with
  | nil =>
    cases h
    exact ⟨[], ⟨rfl, List.forall_mem_nil _⟩, (List.append_nil _).symm⟩
  | cons s rest ih =>
    obtain ⟨i, hs, hrest⟩ := performAll_cons_ok h
    obtain ⟨detail, hfirst⟩ := Step.timings_of_ok hs
    obtain ⟨completed, hcompleted, hmore⟩ := ih hrest
    refine ⟨_, hcompleted.cons detail, ?_⟩
    rw [hmore, hfirst, List.append_assoc]

end Job

/-! ## Steps that cannot fail -/

/-- There are a summary and a page. -/
structure Work.Ready (w : Work) : Prop where
  summary : ∃ s, w.summary = some s
  page : ∃ p, w.page = some p

namespace Step

/-- The steps that may fail even when there are a summary and a page. The check is left out: it
comes after the chapters have been attached, and finds no fault with those. -/
def fallible : List Step :=
  [.loadSummary, .overview, .newFeatures, .loadIssues, .verification, .write]

/-- With a summary and a page, only few steps can fail. -/
theorem act_ok_of_ready {a : Assignment} {s : Step} {j : Job} (h : j.work.Ready) (hs : s ∉ fallible)
    (hcheck : s ≠ .check) : ∃ detail i, (s.act a).on j = (.ok detail, i) := by
  obtain ⟨⟨summary, hsummary⟩, ⟨p, hp⟩⟩ := h
  replace hsummary : j.summary = some summary := hsummary
  replace hp : j.page = some p := hp
  cases s with
  | loadSummary | overview | newFeatures | loadIssues | verification | write =>
    exact absurd (by simp [fallible]) hs
  | check => exact absurd rfl hcheck
  | beginOutput | report => exact ⟨_, _, rfl⟩
  | environment =>
    rw [act, on_addChapter, hsummary, hp]
    exact ⟨_, _, rfl⟩
  | bugFixes =>
    rw [act, on_bugFixes, hsummary, hp]
    exact ⟨_, _, rfl⟩
  | issues =>
    rw [act, on_issues, hsummary, hp]
    exact ⟨_, _, rfl⟩
  | substitute =>
    rw [act, on_substitute, hsummary, hp]
    exact ⟨_, _, rfl⟩
  | serialize =>
    rw [act, on_serialize, hp]
    exact ⟨_, _, rfl⟩

end Step

namespace Job

/-- A step that goes well takes neither the summary nor the page away. -/
theorem perform_ready {a : Assignment} {s : Step} {j k : Job} {u : Unit} (h : j.work.Ready)
    (hs : (s.perform a).on j = (.ok u, k)) : k.work.Ready := by
  cases s with
  | loadSummary =>
    obtain ⟨bytes, summary, -, -, w⟩ := loadSummary_work hs
    rw [w]
    exact ⟨⟨summary, rfl⟩, h.page⟩
  | beginOutput =>
    rw [beginOutput_work hs]
    exact ⟨h.summary, ⟨_, rfl⟩⟩
  | overview | newFeatures | environment | verification =>
    obtain ⟨_, _, _, -, -, -, w⟩ := chapter_work rfl hs
    rw [w]
    exact ⟨h.summary, ⟨_, rfl⟩⟩
  | loadIssues =>
    obtain ⟨_, _, _, _, -, -, -, -, w⟩ := loadIssues_work hs
    rw [w]
    exact ⟨h.summary, h.page⟩
  | bugFixes =>
    obtain ⟨_, _, -, -, w⟩ := bugFixes_work hs
    rw [w]
    exact ⟨h.summary, ⟨_, rfl⟩⟩
  | issues =>
    obtain ⟨_, _, -, -, w⟩ := issues_work hs
    rw [w]
    exact ⟨h.summary, ⟨_, rfl⟩⟩
  | check =>
    rw [check_work hs]
    exact h
  | substitute =>
    obtain ⟨_, _, -, -, w⟩ := substitute_work hs
    rw [w]
    exact ⟨h.summary, ⟨_, rfl⟩⟩
  | serialize =>
    obtain ⟨_, -, w⟩ := serialize_work hs
    rw [w]
    exact ⟨h.summary, h.page⟩
  | write =>
    rw [(write_work hs).2]
    exact ⟨h.summary, h.page⟩
  | report =>
    obtain ⟨detail, i, hact, rfl⟩ := Step.perform_ok hs
    cases hact
    exact ⟨h.summary, h.page⟩

/-- The steps of a run after the output has begun. -/
def laterSteps : List Step :=
  [.overview, .newFeatures, .loadIssues, .bugFixes, .issues, .environment, .verification, .check,
    .substitute, .serialize, .write]

/-- A step of the plan is one of its first two or comes after them. -/
theorem cases_of_plan {done rest : List Step} {s : Step} (hplan : plan = done ++ s :: rest) :
    (done = [] ∧ s = .loadSummary) ∨ (done = [.loadSummary] ∧ s = .beginOutput) ∨
      ∃ more, done = .loadSummary :: .beginOutput :: more ∧ laterSteps = more ++ s :: rest := by
  replace hplan : .loadSummary :: .beginOutput :: laterSteps = done ++ s :: rest := hplan
  match done, hplan with
  | [], hplan =>
    obtain ⟨hs, -⟩ := List.cons.inj hplan
    exact .inl ⟨rfl, hs.symm⟩
  | [first], hplan =>
    obtain ⟨hfirst, hplan⟩ := List.cons.inj hplan
    obtain ⟨hs, -⟩ := List.cons.inj hplan
    exact .inr (.inl ⟨by rw [hfirst], hs.symm⟩)
  | first :: second :: more, hplan =>
    obtain ⟨hfirst, hplan⟩ := List.cons.inj hplan
    obtain ⟨hsecond, hplan⟩ := List.cons.inj hplan
    exact .inr (.inr ⟨more, by rw [hfirst, hsecond], hplan⟩)

/-- Once the output has begun there are a summary and a page. -/
theorem ready_of_begun {a : Assignment} {more : List Step} {disk : Disk} {j : Job} {u : Unit}
    (h : (performAll a (.loadSummary :: .beginOutput :: more)).on (.new disk) = (.ok u, j)) :
    j.work.Ready := by
  obtain ⟨j₁, hload, h⟩ := performAll_cons_ok h
  obtain ⟨j₂, hbegin, h⟩ := performAll_cons_ok h
  obtain ⟨bytes, summary, -, -, w₁⟩ := loadSummary_work hload
  have w₂ := beginOutput_work hbegin
  rw [w₁] at w₂
  have hstart : j₂.work.Ready := by
    rw [w₂]
    exact ⟨⟨summary, rfl⟩, ⟨_, rfl⟩⟩
  exact performAll_induct (P := fun i => i.work.Ready)
    (fun s _ i i' hi hs => perform_ready hi hs) hstart h

/-- The check stands in the plan once, after all chapters. -/
theorem done_of_plan_eq_check {done rest : List Step} (h : plan = done ++ .check :: rest) :
    done = composing := by
  have hplan :
      composing ++ .check :: [.substitute, .serialize, .write] = done ++ .check :: rest :=
    h
  rw [List.append_cons_inj_of_notMem (by decide) (by decide)] at hplan
  exact hplan.1.symm

/-- A run fails at no other steps than the fallible ones. -/
theorem fallible_of_plan {a : Assignment} {disk : Disk} {done rest : List Step} {s : Step}
    {i i' : Job} {u : Unit} {f : Fault} (hplan : plan = done ++ s :: rest)
    (hdone : (performAll a done).on (.new disk) = (.ok u, i))
    (hact : (s.act a).on i = (.error f, i')) : s ∈ Step.fallible := by
  by_contra hs
  by_cases hcheck : s = .check
  · subst hcheck
    obtain rfl := done_of_plan_eq_check hplan
    obtain ⟨m, hm, w⟩ := composed_work hdone
    have htitles : i.titles = Page.Chapter.titles := congrArg Work.titles w
    rw [Step.act, check_of_agrees a (agrees_of_composed hm w), if_pos htitles] at hact
    cases hact
  · rcases cases_of_plan hplan with ⟨rfl, rfl⟩ | ⟨rfl, rfl⟩ | ⟨more, rfl, -⟩
    · exact hs List.mem_cons_self
    · cases hact
    · obtain ⟨detail, i'', hok⟩ := Step.act_ok_of_ready (ready_of_begun hdone) hs hcheck
      rw [hok] at hact
      cases hact

/-! ## Runs -/

/-- **The timings of a run tell how far it came.** A run that delivers has recorded every step of
the plan but the check, once each and as done. A run that fails has recorded in this way the steps
before the fault; the fault is the last entry if it came up while a file was read, and is not
recorded if it came up in another step, such as the one that writes the page. How deep elements may
stand in each other is left aside: here no step fails for that, such as the one that puts the page
into words. -/
theorem run_timings (a : Assignment) (disk : Disk) :
    match run a (.new disk) with
    | (.ok r, k) =>
      r.timings = k.timings ∧ (∀ t ∈ k.timings, t.status = "ok") ∧
        k.timings.map (·.step) =
          ["load_summary", "begin_output", "overview", "new_features", "load_issues",
            "bug_fixes", "issues", "environment", "release_verification", "substitute",
            "serialize", "write"]
    | (.error e, k) =>
      ∃ done s rest i i', plan = done ++ s :: rest ∧
        (performAll a done).on (.new disk) = (.ok (), i) ∧
        (s.act a).on i = (.error e.cause, i') ∧ s ∈ Step.fallible ∧
        ∃ completed, Completed done completed ∧
          k.timings =
            completed ++
              if s = .loadSummary ∨ s = .loadIssues then [⟨s.name, 0, "failed", e.cause.text⟩]
              else [] := by
  rcases h : run a (.new disk) with ⟨result, k⟩
  cases result with
  | ok r =>
    obtain ⟨last, hsteps, rfl, rfl⟩ := run_ok h
    obtain ⟨completed, hcompleted, htimings⟩ := timings_of_performAll hsteps
    replace htimings : last.deliver.timings = completed := htimings
    refine ⟨rfl, ?_, ?_⟩
    · rw [htimings]
      exact hcompleted.status
    · rw [htimings, hcompleted.steps]
      rfl
  | error e =>
    obtain ⟨last, hsteps, rfl⟩ := run_error h
    obtain ⟨done, s, rest, i, hplan, hdone, hs⟩ := performAll_error hsteps
    obtain ⟨i', hact, -⟩ := Step.perform_error hs
    obtain ⟨completed, hcompleted, hbefore⟩ := timings_of_performAll hdone
    refine ⟨done, s, rest, i, i', hplan, hdone, hact, fallible_of_plan hplan hdone hact, completed,
      hcompleted, ?_⟩
    change last.timings = _
    rw [Step.timings_of_error hs, hbefore]
    simp only [Step.recordsFault, Bool.or_eq_true, decide_eq_true_eq]
    rfl

end Job

end Pamphlet
