import Pamphlet.Proofs.Disk.Shape
import Pamphlet.Proofs.Job.Delivery
import Pamphlet.Proofs.Page.Agreement

/-!
# How a run ends does not depend on the tracker

Two jobs are `Alike` if they have the same summary, titles and disk, and pages with the same entries
and headings. This is all that decides how a step goes on, so a step goes the same way on two jobs
that are alike and leaves two jobs that are alike (`Step.perform_likewise`), whatever the trackers
answer and however the downloads are scheduled; and so do all steps up to the last one
(`performAll_likewise`). The last one writes the page, and whether that goes well does not depend on
what is written. Hence two runs that differ in their trackers end the same way (`run_ends_alike`).
-/

namespace Pamphlet

open Pamphlet.Page Act

/-- The assignment with another tracker and with downloads that end in another order. -/
def Assignment.answered (a : Assignment) (tracker : Tracker) (picks : List Nat) : Assignment :=
  { a with tracker, picks }

/-! ## Pages -/

/-- Two pages with the same entries and the same headings. -/
structure Page.Alike (p q : Page) : Prop where
  targets : q.targets = p.targets
  anchors : q.anchors = p.anchors

namespace Page.Alike

variable {p q : Page}

theorem refl (p : Page) : p.Alike p :=
  ⟨rfl, rfl⟩

theorem attach (h : p.Alike q) {s t : Page.Section} (ht : t.title = s.title) :
    (p.attach s).Alike (q.attach t) where
  targets := by
    rw [targets_attach, targets_attach, h.targets, ht]
  anchors := by
    rw [anchors_attach, anchors_attach, h.anchors, ht]

theorem fill (h : p.Alike q) (values : Substitution.Values) :
    (p.fill values).Alike (q.fill values) where
  targets := by
    rw [targets_fill, targets_fill, h.targets]
  anchors := by
    rw [anchors_fill, anchors_fill, h.anchors]

/-- Whether a page has a problem can be seen from its headings and entries. -/
theorem problem? (h : p.Alike q) (titles : List String) :
    q.problem? titles = p.problem? titles := by
  unfold Page.problem?
  rw [h.targets, h.anchors]

end Page.Alike

namespace Job

/-! ## Jobs -/

/-- Two jobs that go the same way. -/
structure Alike (j k : Job) : Prop where
  summary : k.summary = j.summary
  titles : k.titles = j.titles
  page : (j.page = none ∧ k.page = none) ∨ ∃ p q, j.page = some p ∧ k.page = some q ∧ p.Alike q
  disk : k.disk = j.disk

theorem Alike.refl (j : Job) : Alike j j where
  summary := rfl
  titles := rfl
  page := by
    cases j.page with
    | none => exact .inl ⟨rfl, rfl⟩
    | some p => exact .inr ⟨p, p, rfl, rfl, .refl p⟩
  disk := rfl

/-- Sections of one title keep jobs alike. -/
theorem Alike.attached {j k : Job} (h : Alike j k) {p q : Page} (hpq : p.Alike q)
    {s t : Page.Section} (ht : t.title = s.title) : Alike (attached s p j) (attached t q k) where
  summary := h.summary
  titles := by
    change k.titles ++ [t.title] = j.titles ++ [s.title]
    rw [h.titles, ht]
  page := .inr ⟨_, _, rfl, rfl, hpq.attach ht⟩
  disk := h.disk

/-- Two ends of an action: it goes well in both or ends in the same fault, and the jobs are
alike. -/
inductive Likewise {α : Type} : Except Fault α × Job → Except Fault α × Job → Prop
  | done {x y : α} {j k : Job} : Alike j k → Likewise (.ok x, j) (.ok y, k)
  | failed {f : Fault} {j k : Job} : Alike j k → Likewise (.error f, j) (.error f, k)

/-- What goes like something that went well goes well. -/
theorem Likewise.of_ok {α : Type} {x : α} {j : Job} {y : Except Fault α × Job}
    (h : Likewise (.ok x, j) y) : ∃ x' k, y = (.ok x', k) := by
  cases h
  exact ⟨_, _, rfl⟩

end Job

/-! ## Steps -/

namespace Step

open Job

variable {a : Assignment} {tracker : Tracker} {picks : List Nat} {j k : Job}

/-- Only one step asks the tracker. -/
theorem act_answered {s : Step} (hs : s ≠ .issues) :
    s.act (a.answered tracker picks) = s.act a := by
  cases s with
  | issues => exact absurd rfl hs
  | _ => rfl

theorem addChapter_likewise (field : String) (build : Release.Summary → Except Fault Page.Section)
    (h : Alike j k) : Likewise ((addChapter field build).on j) ((addChapter field build).on k) := by
  rw [on_addChapter, on_addChapter, h.summary]
  cases j.summary with
  | none => exact .failed h
  | some s =>
    simp only
    cases build s with
    | error f => exact .failed h
    | ok chapter =>
      rcases h.page with ⟨hj, hk⟩ | ⟨p, q, hj, hk, hpq⟩
      · rw [hj, hk]
        exact .failed h
      · rw [hj, hk]
        exact .done (h.attached hpq rfl)

theorem title_builtIssues (a : Assignment) (s : Release.Summary) (is : List Release.Issue) :
    (builtIssues a s is).chapter.title = Chapter.issuesTitle := rfl

/-- The chapter on issues has its title whatever the downloads give. -/
theorem issues_likewise (h : Alike j k) :
    Likewise ((Step.issues.act a).on j) ((Step.issues.act (a.answered tracker picks)).on k) := by
  have hfetched : Alike (fetched a j) (fetched (a.answered tracker picks) k) :=
    ⟨h.summary, h.titles, h.page, h.disk⟩
  rw [act, act, on_issues, on_issues, h.summary]
  cases j.summary with
  | none => exact .failed hfetched
  | some s =>
    rcases h.page with ⟨hj, hk⟩ | ⟨p, q, hj, hk, hpq⟩
    · rw [hj, hk]
      exact .failed hfetched
    · rw [hj, hk]
      have htitle : (builtIssues (a.answered tracker picks) s k.issues).chapter.title =
          (builtIssues a s j.issues).chapter.title :=
        (title_builtIssues ..).trans (title_builtIssues ..).symm
      simp only
      generalize builtIssues (a.answered tracker picks) s k.issues = built' at htitle ⊢
      generalize builtIssues a s j.issues = built at htitle ⊢
      obtain ⟨hsummary, htitles, hpage, hdisk⟩ := hfetched.attached hpq htitle
      exact .done ⟨hsummary, htitles, hpage, hdisk⟩

/-- Each step but the last one goes the same way on jobs that are alike. -/
theorem act_likewise {s : Step} (hs : s ≠ .write) (h : Alike j k) :
    Likewise ((s.act a).on j) ((s.act (a.answered tracker picks)).on k) := by
  cases s with
  | write => exact absurd rfl hs
  | issues => exact issues_likewise h
  | overview | newFeatures | environment | verification =>
    rw [act_answered (by decide)]
    exact addChapter_likewise _ _ h
  | beginOutput => exact .done ⟨h.summary, h.titles, .inr ⟨_, _, rfl, rfl, .refl _⟩, h.disk⟩
  | report => exact .done ⟨h.summary, h.titles, h.page, h.disk⟩
  | loadSummary =>
    rw [act_answered (by decide), act, on_loadSummary, on_loadSummary, h.disk]
    cases j.disk.read a.summaryPath with
    | error problem => exact .failed h
    | ok bytes =>
      simp only
      cases Release.Summary.ofBytes a.summaryPath bytes with
      | error f => exact .failed h
      | ok s => exact .done ⟨rfl, h.titles, h.page, rfl⟩
  | loadIssues =>
    rw [act_answered (by decide), act, on_loadIssues, on_loadIssues, h.disk, h.summary]
    cases j.disk.read a.bugListPath with
    | error problem => exact .failed h
    | ok bytes =>
      simp only
      cases Release.BugList.ofBytes a.bugListPath a.settings.naming bytes with
      | error f => exact .failed h
      | ok list =>
        cases j.summary with
        | none => exact .failed h
        | some s =>
          simp only
          cases Release.BugList.checkPrevious list.previous s.previousReleaseId with
          | error f => exact .failed h
          | ok warnings => exact .done ⟨rfl, h.titles, h.page, rfl⟩
  | bugFixes =>
    rw [act_answered (by decide), act, on_bugFixes, on_bugFixes, h.summary]
    cases j.summary with
    | none => exact .failed h
    | some s =>
      rcases h.page with ⟨hj, hk⟩ | ⟨p, q, hj, hk, hpq⟩
      · rw [hj, hk]
        exact .failed h
      · rw [hj, hk]
        exact .done (h.attached hpq rfl)
  | check =>
    rw [act_answered (by decide), act, on_check, on_check, h.titles]
    split
    · exact .failed h
    · rcases h.page with ⟨hj, hk⟩ | ⟨p, q, hj, hk, hpq⟩
      · rw [hj, hk]
        exact .failed h
      · rw [hj, hk]
        simp only [hpq.problem?]
        cases p.problem? Chapter.titles with
        | none => exact .done h
        | some problem => exact .failed h
  | substitute =>
    rw [act_answered (by decide), act, on_substitute, on_substitute, h.summary]
    cases j.summary with
    | none => exact .failed h
    | some s =>
      rcases h.page with ⟨hj, hk⟩ | ⟨p, q, hj, hk, hpq⟩
      · rw [hj, hk]
        exact .failed h
      · rw [hj, hk]
        exact .done ⟨rfl, h.titles, .inr ⟨_, _, rfl, rfl, hpq.fill _⟩, h.disk⟩
  | serialize =>
    rw [act_answered (by decide), act, on_serialize, on_serialize]
    rcases h.page with ⟨hj, hk⟩ | ⟨p, q, hj, hk, hpq⟩
    · rw [hj, hk]
      exact .failed h
    · rw [hj, hk]
      exact .done ⟨h.summary, h.titles, .inr ⟨p, q, rfl, rfl, hpq⟩, h.disk⟩

/-- What is noted of a step does not decide anything. -/
theorem finished_alike (s : Step) (detail detail' : String) (h : Alike j k) :
    Alike (s.finished detail j) (s.finished detail' k) :=
  ⟨h.summary, h.titles, h.page, h.disk⟩

theorem refused_alike (s : Step) (f : Fault) (h : Alike j k) :
    Alike (s.refused f j) (s.refused f k) :=
  ⟨h.summary, h.titles, h.page, h.disk⟩

/-- Steps but the one that writes the page go alike with both trackers. -/
theorem perform_likewise {s : Step} (hs : s ≠ .write) (h : Alike j k) :
    Likewise ((s.perform a).on j) ((s.perform (a.answered tracker picks)).on k) := by
  rw [on_perform, on_perform]
  generalize hj : (s.act a).on j = x
  generalize hk : (s.act (a.answered tracker picks)).on k = y
  have hact : Likewise x y := hj ▸ hk ▸ act_likewise hs h
  cases hact with
  | done halike => exact .done (s.finished_alike _ _ halike)
  | failed halike => exact .failed (s.refused_alike _ halike)

end Step

/-! ## Runs -/

namespace Job

variable (a : Assignment) (tracker : Tracker) (picks : List Nat)

/-- All steps before the write go alike with both trackers. -/
theorem performAll_likewise {steps : List Step} (hsteps : Step.write ∉ steps) {j k : Job}
    (h : Alike j k) :
    Likewise ((performAll a steps).on j) ((performAll (a.answered tracker picks) steps).on k) := by
  induction steps generalizing j k with
  | nil => exact .done h
  | cons s rest ih =>
    rw [List.mem_cons, not_or] at hsteps
    rw [on_performAll_cons, on_performAll_cons]
    generalize hj : (s.perform a).on j = x
    generalize hk : (s.perform (a.answered tracker picks)).on k = y
    have hperform : Likewise x y := hj ▸ hk ▸ Step.perform_likewise (Ne.symm hsteps.1) h
    cases hperform with
    | done halike => exact ih hsteps.2 halike
    | failed halike => exact .failed halike

/-- Writing goes the same way on disks that are the same, whatever is written. -/
theorem write_likewise {j k : Job} (h : Alike j k) :
    ((Step.write.perform (a.answered tracker picks)).on k).1 = ((Step.write.perform a).on j).1 := by
  have hwrite := (Disk.SameShape.refl j.disk).write a.outputPath (Text.Utf8.encode j.output)
    (Text.Utf8.encode k.output)
  rw [Step.on_perform, Step.on_perform, Step.act_answered (by decide), Step.act, on_write, on_write,
    h.disk]
  generalize j.disk.write a.outputPath (Text.Utf8.encode j.output) = x at hwrite ⊢
  generalize j.disk.write a.outputPath (Text.Utf8.encode k.output) = y at hwrite ⊢
  obtain ⟨result, disk⟩ := x
  obtain ⟨result', disk'⟩ := y
  obtain rfl : result' = result := hwrite
  cases result' <;> rfl

theorem performAll_single (s : Step) (j : Job) :
    ((performAll a [s]).on j).1 = ((s.perform a).on j).1 := by
  rw [on_performAll_cons]
  rcases (s.perform a).on j with ⟨result, i⟩
  cases result <;> rfl

/-- The whole plan goes well with one tracker exactly if it does with the other, or fails in the
same way. -/
theorem plan_likewise (j : Job) :
    ((performAll (a.answered tracker picks) plan).on j).1 = ((performAll a plan).on j).1 := by
  have hbefore : Likewise ((performAll a plan.dropLast).on j)
      ((performAll (a.answered tracker picks) plan.dropLast).on j) :=
    performAll_likewise a tracker picks (by decide) (.refl j)
  rw [show plan = plan.dropLast ++ [.write] from rfl, on_performAll_append, on_performAll_append]
  generalize (performAll a plan.dropLast).on j = x at hbefore ⊢
  generalize (performAll (a.answered tracker picks) plan.dropLast).on j = y at hbefore ⊢
  cases hbefore with
  | failed _ => rfl
  | done halike =>
    simp only
    rw [performAll_single, performAll_single]
    exact write_likewise a tracker picks halike

/-- **How a run ends does not depend on the tracker**: two runs with different answers both deliver,
or both fail for the same reason. -/
theorem run_ends_alike (j : Job) :
    (∃ r k r' k', run a j = (.ok r, k) ∧ run (a.answered tracker picks) j = (.ok r', k')) ∨
      ∃ e k k', run a j = (.error e, k) ∧ run (a.answered tracker picks) j = (.error e, k') := by
  have hplan := plan_likewise a tracker picks j
  rcases run_cases a j with ⟨k, hsteps, hrun⟩ | ⟨f, k, hsteps, hrun⟩
  · rw [hsteps] at hplan
    rcases run_cases (a.answered tracker picks) j with ⟨k', -, hrun'⟩ | ⟨f', k', hsteps', -⟩
    · exact .inl ⟨_, _, _, _, hrun, hrun'⟩
    · rw [hsteps'] at hplan
      cases hplan
  · rw [hsteps] at hplan
    rcases run_cases (a.answered tracker picks) j with ⟨k', hsteps', -⟩ | ⟨f', k', hsteps', hrun'⟩
    · rw [hsteps'] at hplan
      cases hplan
    · rw [hsteps'] at hplan
      cases hplan
      exact .inr ⟨_, _, _, hrun, hrun'⟩

end Job

end Pamphlet
