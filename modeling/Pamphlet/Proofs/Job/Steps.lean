import Pamphlet.Proofs.Job.Action

/-!
# What each step does

One equation for each action of a step: every way in which it can end, in which fault, and all of
the job that it changes. Whatever is proved of steps and runs is read off these equations; no proof
elsewhere opens an action. What the steps do to the page, the titles and the disk is one of five
things (`act_effect`), from which it follows that only the last step touches a disk (`act_disk`);
the other parts of a job are kept by all steps but one, if not by all (`act_keeps`).
-/

namespace Pamphlet.Act

open Pamphlet.Release Pamphlet.Page

theorem on_needSummary (field : String) (j : Job) :
    (needSummary field).on j =
      match j.summary with
      | some s => (.ok s, j)
      | none => (.error (.premature (.field field)), j) := by
  unfold needSummary
  rw [on_bind, on_get]
  simp only
  cases j.summary <;> rfl

theorem on_needPage (lack : Lack) (j : Job) :
    (needPage lack).on j =
      match j.page with
      | some p => (.ok p, j)
      | none => (.error (.premature lack), j) := by
  unfold needPage
  rw [on_bind, on_get]
  simp only
  cases j.page <;> rfl

/-- A job with a section attached to its page. -/
def attached (s : Page.Section) (p : Page) (j : Job) : Job :=
  { j with page := some (p.attach s), titles := j.titles ++ [s.title] }

theorem on_attach (s : Page.Section) (j : Job) :
    (attach s).on j =
      match j.page with
      | none => (.error (.premature .parent), j)
      | some p => (.ok (), attached s p j) := by
  unfold attach
  rw [on_bind, on_needPage]
  cases j.page <;> rfl

/-- Loading a summary reads one file. -/
theorem on_loadSummary (a : Assignment) (j : Job) :
    (loadSummary a).on j =
      match j.disk.read a.summaryPath with
      | .error problem => (.error (readingFault a.summaryPath problem), j)
      | .ok bytes =>
        match Summary.ofBytes a.summaryPath bytes with
        | .error f => (.error f, j)
        | .ok s => (.ok "", { j with summary := some s }) := by
  unfold loadSummary
  rw [on_bind, on_get]
  simp only
  cases j.disk.read a.summaryPath with
  | error problem => rfl
  | ok bytes =>
    simp only [on_bind, on_lift]
    cases Summary.ofBytes a.summaryPath bytes <;> rfl

theorem on_beginOutput (j : Job) :
    beginOutput.on j = (.ok "", { j with page := some (.new pageTitle introduction) }) := rfl

/-- A chapter is built before the page is looked for. -/
theorem on_addChapter (field : String) (build : Summary → Except Fault Page.Section) (j : Job) :
    (addChapter field build).on j =
      match j.summary with
      | none => (.error (.premature (.field field)), j)
      | some s =>
        match build s with
        | .error f => (.error f, j)
        | .ok chapter =>
          match j.page with
          | none => (.error (.premature .parent), j)
          | some p => (.ok "", attached chapter p j) := by
  unfold addChapter
  rw [on_bind, on_needSummary]
  cases j.summary with
  | none => rfl
  | some s =>
    simp only [on_bind, on_lift]
    cases build s with
    | error f => rfl
    | ok chapter =>
      simp only [on_attach]
      cases j.page <;> rfl

/-- A bug list is read before the summary is looked for. -/
theorem on_loadIssues (a : Assignment) (j : Job) :
    (loadIssues a).on j =
      match j.disk.read a.bugListPath with
      | .error problem => (.error (.file problem), j)
      | .ok bytes =>
        match BugList.ofBytes a.bugListPath a.settings.naming bytes with
        | .error f => (.error f, j)
        | .ok list =>
          match j.summary with
          | none => (.error (.premature (.field "previous_release_id")), j)
          | some s =>
            match BugList.checkPrevious list.previous s.previousReleaseId with
            | .error f => (.error f, j)
            | .ok warnings =>
              (.ok s!"{list.issues.length} issues",
                { j with
                  log := j.log ++ warnings.map fun w => ⟨.warning, "  " ++ w⟩
                  issues := list.issues
                  warnings := j.warnings ++ warnings }) := by
  unfold loadIssues
  rw [on_bind, on_get]
  simp only
  cases j.disk.read a.bugListPath with
  | error problem => rfl
  | ok bytes =>
    simp only [on_bind, on_lift]
    cases BugList.ofBytes a.bugListPath a.settings.naming bytes with
    | error f => rfl
    | ok list =>
      cases hs : j.summary with
      | none => simp only [on_needSummary, hs]
      | some s =>
        simp only [on_needSummary, hs]
        cases BugList.checkPrevious list.previous s.previousReleaseId with
        | error f => rfl
        | ok warnings => simp only [on_say, on_modify, on_pure, hs]

theorem on_bugFixes (a : Assignment) (j : Job) :
    (bugFixes a).on j =
      match j.summary with
      | none => (.error (.premature (.field "release_id")), j)
      | some s =>
        match j.page with
        | none => (.error (.premature .parent), j)
        | some p => (.ok "", attached (Chapter.bugFixes (subjectOf a s) j.issues) p j) := by
  unfold bugFixes
  rw [on_bind, on_needSummary]
  cases j.summary with
  | none => rfl
  | some s =>
    simp only [on_bind, on_get, on_attach]
    cases j.page <;> rfl

/-! ## The chapter on issues -/

/-- The notes of a list of issues, fetched. -/
def fetching (a : Assignment) (is : List Issue) : Fetching :=
  a.source.fetchAll a.settings.concurrency a.picks is

/-- A job that has fetched all notes. -/
def fetched (a : Assignment) (j : Job) : Job :=
  { j with
    asked := j.asked ++ (fetching a j.issues).asked
    log := j.log ++ (fetching a j.issues).incidents.map fun i => ⟨.warning, incidentLine i⟩ }

theorem on_fetchNotes (a : Assignment) (j : Job) :
    (fetchNotes a).on j = (.ok (fetching a j.issues).outcomes, fetched a j) := rfl

def builtIssues (a : Assignment) (s : Summary) (is : List Issue) : Chapter.IssuesChapter :=
  Chapter.issues (subjectOf a s) is (fetching a is).outcomes

/-- Notes are fetched before the summary and the page are looked for. -/
theorem on_issues (a : Assignment) (j : Job) :
    (issues a).on j =
      match j.summary with
      | none => (.error (.premature (.field "release_id")), fetched a j)
      | some s =>
        match j.page with
        | none => (.error (.premature .parent), fetched a j)
        | some p =>
          (.ok
            s!"{(builtIssues a s j.issues).chapter.subsections.length} notes, {
              (builtIssues a s j.issues).missing.length} missing",
            { attached (builtIssues a s j.issues).chapter p (fetched a j) with
              incidents := j.incidents ++ (builtIssues a s j.issues).incidents
              missing := j.missing ++ (builtIssues a s j.issues).missing }) := by
  have hsummary : (fetched a j).summary = j.summary := rfl
  have hpage : (fetched a j).page = j.page := rfl
  unfold issues
  rw [on_bind, on_fetchNotes]
  simp only [on_bind, on_needSummary, hsummary]
  cases j.summary with
  | none => rfl
  | some s =>
    simp only [on_get, on_attach, hpage]
    cases j.page <;> rfl

/-! ## Checking and writing -/

/-- The fault that a failure of the program itself ends in: the failure, unless asking for the
threads fails. -/
def breakFault (a : Assignment) (problem : PageProblem) : Fault :=
  match a.threads.dump with
  | .ok _ => .brokenPage problem
  | .error f => f

/-- A failure of the program, also where the threads cannot be listed. -/
theorem on_breakOff (a : Assignment) (problem : PageProblem) (j : Job) :
    (breakOff a problem).on j = (.error (breakFault a problem), j) := by
  unfold breakOff breakFault
  rw [on_bind, on_lift]
  cases a.threads.dump <;> rfl

/-- The titles are checked before the page is looked for. -/
theorem on_check (a : Assignment) (j : Job) :
    (check a).on j =
      if j.titles ≠ Chapter.titles then
        (.error (breakFault a (.order Chapter.titles j.titles)), j)
      else
        match j.page with
        | none => (.error (.premature (.field "findall")), j)
        | some p =>
          match p.problem? Chapter.titles with
          | none => (.ok "", j)
          | some problem => (.error (breakFault a problem), j) := by
  unfold check
  rw [on_bind, on_get]
  simp only
  split
  · rw [on_bind, on_breakOff]
  · simp only [on_bind, on_needPage]
    cases j.page with
    | none => rfl
    | some p =>
      simp only
      cases p.problem? Chapter.titles with
      | none => rfl
      | some problem => simp only [on_bind, on_breakOff]

theorem on_substitute (a : Assignment) (j : Job) :
    (substitute a).on j =
      match j.summary with
      | none => (.error (.premature (.field "release_id")), j)
      | some s =>
        match j.page with
        | none => (.error (.premature (.field "iter")), j)
        | some p =>
          (.ok s!"{Substitution.countKnown (s.values a.settings.product) p.tokens} replacements",
            { j with
              page := some (p.fill (s.values a.settings.product))
              log := j.log ++
                (Substitution.unknownNames (s.values a.settings.product) p.tokens).map fun name =>
                  ⟨.warning, "  " ++ Substitution.warning name⟩ }) := by
  unfold substitute
  rw [on_bind, on_needSummary]
  cases hs : j.summary with
  | none => rfl
  | some s =>
    simp only [on_bind, on_needPage]
    cases j.page with
    | none => rfl
    | some p => simp only [on_modify, on_say, on_pure, hs]

theorem on_serialize (j : Job) :
    serialize.on j =
      match j.page with
      | none => (.error (.premature (.field "iter")), j)
      | some p => (.ok s!"{p.text.length} chars", { j with output := p.text }) := by
  unfold serialize
  rw [on_bind, on_needPage]
  cases hp : j.page with
  | none => rfl
  | some p => simp only [on_bind, on_modify, on_pure, hp]

/-- Writing may change the disk also where it fails. -/
theorem on_write (a : Assignment) (j : Job) :
    (write a).on j =
      match j.disk.write a.outputPath (Text.Utf8.encode j.output) with
      | (.error problem, disk) => (.error (.file problem), { j with disk })
      | (.ok _, disk) => (.ok a.outputPath.text, { j with disk }) := by
  unfold write
  rw [on_bind, on_get]
  simp only
  rcases j.disk.write a.outputPath (Text.Utf8.encode j.output) with ⟨result, disk⟩
  cases result <;> rfl

end Pamphlet.Act

namespace Pamphlet.Step

open Pamphlet.Page Pamphlet.Act

/-! ## The page, the titles and the disk -/

/-- What a step may do to the page, the titles and the disk of a job. -/
inductive Effect (a : Assignment) (s : Step) (j k : Job) : Prop
  | spares (page : k.page = j.page) (titles : k.titles = j.titles) (disk : k.disk = j.disk)
  | attaches (p : Page) (chapter : Page.Section) (before : j.page = some p)
      (page : k.page = some (p.attach chapter)) (titles : k.titles = j.titles ++ [chapter.title])
      (disk : k.disk = j.disk)
  | begins (step : s = .beginOutput) (disk : k.disk = j.disk)
  | fills (step : s = .substitute) (detail : String) (done : (s.act a).on j = (.ok detail, k))
      (disk : k.disk = j.disk)
  | writes (step : s = .write) (page : k.page = j.page) (titles : k.titles = j.titles)

theorem Effect.refl (a : Assignment) (s : Step) (j : Job) : Effect a s j j :=
  .spares rfl rfl rfl

theorem Effect.attached {a : Assignment} {s : Step} {j : Job} {p : Page} (h : j.page = some p)
    (chapter : Page.Section) : Effect a s j (attached chapter p j) :=
  .attaches p chapter h rfl rfl rfl

/-- Adding a chapter attaches a section or does nothing. -/
theorem addChapter_effect {a : Assignment} {s : Step}
    (field : String) (build : Release.Summary → Except Fault Page.Section) (j : Job) :
    Effect a s j ((addChapter field build).on j).2 := by
  rw [on_addChapter]
  split
  · exact .refl a s j
  · split
    · exact .refl a s j
    · split
      · exact .refl a s j
      · rename_i p hp
        exact .attached hp _

/-- Every step has one of the effects, whether it goes well or not. -/
theorem act_effect (a : Assignment) (s : Step) (j : Job) : Effect a s j ((s.act a).on j).2 := by
  cases s with
  | beginOutput => exact .begins rfl rfl
  | overview | newFeatures | environment | verification => exact addChapter_effect _ _ j
  | report => exact .spares rfl rfl rfl
  | loadSummary =>
    rw [act, on_loadSummary]
    split
    · exact .refl a _ j
    · split <;> exact .spares rfl rfl rfl
  | loadIssues =>
    rw [act, on_loadIssues]
    split
    · exact .refl a _ j
    · split
      · exact .refl a _ j
      · split
        · exact .refl a _ j
        · split <;> exact .spares rfl rfl rfl
  | bugFixes =>
    rw [act, on_bugFixes]
    split
    · exact .refl a _ j
    · split
      · exact .refl a _ j
      · rename_i p hp
        exact .attached hp _
  | issues =>
    rw [act, on_issues]
    split
    · exact .spares rfl rfl rfl
    · split
      · exact .spares rfl rfl rfl
      · rename_i p hp
        exact .attaches p _ hp rfl rfl rfl
  | check =>
    rw [act, on_check]
    split
    · exact .refl a _ j
    · split
      · exact .refl a _ j
      · split <;> exact .refl a _ j
  | substitute =>
    rcases hact : (Step.substitute.act a).on j with ⟨result, k⟩
    have hon := hact
    rw [act, on_substitute] at hon
    split at hon
    · cases hon
      exact .refl a _ j
    · split at hon
      · cases hon
        exact .refl a _ j
      · cases hon
        exact .fills rfl _ hact rfl
  | serialize =>
    rw [act, on_serialize]
    split
    · exact .refl a _ j
    · exact .spares rfl rfl rfl
  | write =>
    rw [act, on_write]
    split <;> exact .writes rfl rfl rfl

/-- Only the last step of a run touches a disk. -/
theorem act_disk {s : Step} (a : Assignment) (j : Job) (h : s ≠ .write) :
    ((s.act a).on j).2.disk = j.disk := by
  cases act_effect a s j with
  | spares _ _ hdisk => exact hdisk
  | attaches _ _ _ _ _ hdisk => exact hdisk
  | begins _ hdisk => exact hdisk
  | fills _ _ _ hdisk => exact hdisk
  | writes hs _ _ => exact absurd hs h

/-! ## The other parts of a job -/

/-- No action changes the stage or records anything; only one asks the tracker, and only one brings
a summary. -/
structure Keeps (s : Step) (j k : Job) : Prop where
  stage : k.stage = j.stage
  timings : k.timings = j.timings
  asked : s ≠ .issues → k.asked = j.asked
  summary : s ≠ .loadSummary → k.summary = j.summary

/-- An action keeps the stage and the timings; only one step asks, and only one changes the
summary. -/
theorem act_keeps (a : Assignment) (s : Step) (j : Job) : s.Keeps j ((s.act a).on j).2 := by
  cases s with
  | beginOutput | report => exact ⟨rfl, rfl, fun _ => rfl, fun _ => rfl⟩
  | issues =>
    rw [act, on_issues]
    repeat' split
    all_goals exact ⟨rfl, rfl, fun h => absurd rfl h, fun _ => rfl⟩
  | loadSummary =>
    rw [act, on_loadSummary]
    repeat' split
    all_goals exact ⟨rfl, rfl, fun _ => rfl, fun h => absurd rfl h⟩
  | overview | newFeatures | environment | verification =>
    rw [act, on_addChapter]
    repeat' split
    all_goals exact ⟨rfl, rfl, fun _ => rfl, fun _ => rfl⟩
  | loadIssues =>
    rw [act, on_loadIssues]
    repeat' split
    all_goals exact ⟨rfl, rfl, fun _ => rfl, fun _ => rfl⟩
  | bugFixes =>
    rw [act, on_bugFixes]
    repeat' split
    all_goals exact ⟨rfl, rfl, fun _ => rfl, fun _ => rfl⟩
  | check =>
    rw [act, on_check]
    repeat' split
    all_goals exact ⟨rfl, rfl, fun _ => rfl, fun _ => rfl⟩
  | substitute =>
    rw [act, on_substitute]
    repeat' split
    all_goals exact ⟨rfl, rfl, fun _ => rfl, fun _ => rfl⟩
  | serialize =>
    rw [act, on_serialize]
    repeat' split
    all_goals exact ⟨rfl, rfl, fun _ => rfl, fun _ => rfl⟩
  | write =>
    rw [act, on_write]
    repeat' split
    all_goals exact ⟨rfl, rfl, fun _ => rfl, fun _ => rfl⟩

end Pamphlet.Step
