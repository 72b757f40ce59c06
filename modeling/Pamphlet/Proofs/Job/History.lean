import Pamphlet.Proofs.Job.Steps
import Pamphlet.Proofs.Page.Agreement

/-!
# What a run that goes well has done

`Job.work` is the part of a job that its steps hand on. Each step that goes well changes it in one
way (`loadSummary_work` to `write_work`), and so all steps of a run together make one page out of
what they have read: the chapters of the `Material`, attached in their order (`composed_work`), with
their variables filled in (`delivered_work`).
-/

namespace Pamphlet

open Pamphlet.Release Pamphlet.Page Act

/-- The part of a job that steps read and change. -/
structure Work where
  summary : Option Summary
  issues : List Issue
  page : Option Page
  titles : List String
  output : String
  warnings : List String
  incidents : List Incident
  missing : List Issue
  disk : Disk

namespace Job

def work (j : Job) : Work :=
  ⟨j.summary, j.issues, j.page, j.titles, j.output, j.warnings, j.incidents, j.missing, j.disk⟩

section

variable {a : Assignment} {j k : Job} {u : Unit}

/-- Loading the summary reads its file. -/
theorem loadSummary_work (h : (Step.loadSummary.perform a).on j = (.ok u, k)) :
    ∃ bytes s, j.work.disk.read a.summaryPath = .ok bytes ∧
      Summary.ofBytes a.summaryPath bytes = .ok s ∧ k.work = { j.work with summary := some s } := by
  obtain ⟨detail, i, hact, rfl⟩ := Step.perform_ok h
  rw [Step.act, on_loadSummary] at hact
  split at hact
  · cases hact
  · rename_i bytes hbytes
    split at hact
    · cases hact
    · rename_i s hs
      cases hact
      exact ⟨bytes, s, hbytes, hs, rfl⟩

theorem beginOutput_work (h : (Step.beginOutput.perform a).on j = (.ok u, k)) :
    k.work = { j.work with page := some (.new pageTitle introduction) } := by
  obtain ⟨detail, i, hact, rfl⟩ := Step.perform_ok h
  rw [Step.act, on_beginOutput] at hact
  cases hact
  rfl

/-- A chapter that a summary tells is attached. -/
theorem chapter_work {s : Step} {field : String} {build : Summary → Except Fault Page.Section}
    (hs : s.act a = addChapter field build) (h : (s.perform a).on j = (.ok u, k)) :
    ∃ summary chapter p, j.work.summary = some summary ∧ build summary = .ok chapter ∧
      j.work.page = some p ∧
      k.work =
        { j.work with
          page := some (p.attach chapter), titles := j.work.titles ++ [chapter.title] } := by
  obtain ⟨detail, i, hact, rfl⟩ := Step.perform_ok h
  rw [hs, on_addChapter] at hact
  split at hact
  · cases hact
  · rename_i summary hsummary
    split at hact
    · cases hact
    · rename_i chapter hchapter
      split at hact
      · cases hact
      · rename_i p hp
        cases hact
        exact ⟨summary, chapter, p, hsummary, hchapter, hp, rfl⟩

/-- Loading the bug list reads its file, and it names the previous release as the summary does. -/
theorem loadIssues_work (h : (Step.loadIssues.perform a).on j = (.ok u, k)) :
    ∃ bytes list s warnings, j.work.disk.read a.bugListPath = .ok bytes ∧
      BugList.ofBytes a.bugListPath a.settings.naming bytes = .ok list ∧ j.work.summary = some s ∧
      BugList.checkPrevious list.previous s.previousReleaseId = .ok warnings ∧
      k.work = { j.work with issues := list.issues, warnings := j.work.warnings ++ warnings } := by
  obtain ⟨detail, i, hact, rfl⟩ := Step.perform_ok h
  rw [Step.act, on_loadIssues] at hact
  split at hact
  · cases hact
  · rename_i bytes hbytes
    split at hact
    · cases hact
    · rename_i list hlist
      split at hact
      · cases hact
      · rename_i s hs
        split at hact
        · cases hact
        · rename_i warnings hwarnings
          cases hact
          exact ⟨bytes, list, s, warnings, hbytes, hlist, hs, hwarnings, rfl⟩

theorem bugFixes_work (h : (Step.bugFixes.perform a).on j = (.ok u, k)) :
    ∃ s p, j.work.summary = some s ∧ j.work.page = some p ∧
      k.work =
        { j.work with
          page := some (p.attach (Chapter.bugFixes (subjectOf a s) j.work.issues))
          titles := j.work.titles ++ [Chapter.bugFixesTitle] } := by
  obtain ⟨detail, i, hact, rfl⟩ := Step.perform_ok h
  rw [Step.act, on_bugFixes] at hact
  split at hact
  · cases hact
  · rename_i s hs
    split at hact
    · cases hact
    · rename_i p hp
      cases hact
      exact ⟨s, p, hs, hp, rfl⟩

theorem issues_work (h : (Step.issues.perform a).on j = (.ok u, k)) :
    ∃ s p, j.work.summary = some s ∧ j.work.page = some p ∧
      k.work =
        { j.work with
          page := some (p.attach (builtIssues a s j.work.issues).chapter)
          titles := j.work.titles ++ [Chapter.issuesTitle]
          incidents := j.work.incidents ++ (builtIssues a s j.work.issues).incidents
          missing := j.work.missing ++ (builtIssues a s j.work.issues).missing } := by
  obtain ⟨detail, i, hact, rfl⟩ := Step.perform_ok h
  rw [Step.act, on_issues] at hact
  split at hact
  · cases hact
  · rename_i s hs
    split at hact
    · cases hact
    · rename_i p hp
      cases hact
      exact ⟨s, p, hs, hp, rfl⟩

/-- A check that goes well changes nothing. -/
theorem check_work (h : (Step.check.perform a).on j = (.ok u, k)) : k.work = j.work := by
  obtain ⟨detail, i, hact, rfl⟩ := Step.perform_ok h
  rw [Step.act, on_check] at hact
  split at hact
  · cases hact
  · split at hact
    · cases hact
    · split at hact
      · cases hact
        rfl
      · cases hact

theorem substitute_work (h : (Step.substitute.perform a).on j = (.ok u, k)) :
    ∃ s p, j.work.summary = some s ∧ j.work.page = some p ∧
      k.work = { j.work with page := some (p.fill (s.values a.settings.product)) } := by
  obtain ⟨detail, i, hact, rfl⟩ := Step.perform_ok h
  rw [Step.act, on_substitute] at hact
  split at hact
  · cases hact
  · rename_i s hs
    split at hact
    · cases hact
    · rename_i p hp
      cases hact
      exact ⟨s, p, hs, hp, rfl⟩

theorem serialize_work (h : (Step.serialize.perform a).on j = (.ok u, k)) :
    ∃ p, j.work.page = some p ∧ k.work = { j.work with output := p.text } := by
  obtain ⟨detail, i, hact, rfl⟩ := Step.perform_ok h
  rw [Step.act, on_serialize] at hact
  split at hact
  · cases hact
  · rename_i p hp
    cases hact
    exact ⟨p, hp, rfl⟩

/-- Writing changes the disk alone. -/
theorem write_work (h : (Step.write.perform a).on j = (.ok u, k)) :
    j.work.disk.write a.outputPath (Text.Utf8.encode j.work.output) = (.ok (), k.disk) ∧
      k.work = { j.work with disk := k.disk } := by
  obtain ⟨detail, i, hact, rfl⟩ := Step.perform_ok h
  rw [Step.act, on_write] at hact
  split at hact
  · cases hact
  · rename_i u' disk hwrite
    cases hact
    exact ⟨hwrite, rfl⟩

end

end Job

/-! ## All steps together -/

/-- What a run makes its page out of. -/
structure Material where
  summary : Summary
  list : BugList
  warnings : List String
  overview : Page.Section
  newFeatures : Page.Section
  verification : Page.Section

namespace Material

/-- The material is what the files of an assignment say. -/
structure From (a : Assignment) (disk : Disk) (m : Material) : Prop where
  summary : ∃ bytes, disk.read a.summaryPath = .ok bytes ∧
    Summary.ofBytes a.summaryPath bytes = .ok m.summary
  list : ∃ bytes, disk.read a.bugListPath = .ok bytes ∧
    BugList.ofBytes a.bugListPath a.settings.naming bytes = .ok m.list
  previous : BugList.checkPrevious m.list.previous m.summary.previousReleaseId = .ok m.warnings
  overview : Chapter.overview m.summary = .ok m.overview
  newFeatures : Chapter.newFeatures m.summary = .ok m.newFeatures
  verification : Chapter.verification m.summary = .ok m.verification

variable (a : Assignment) (m : Material)

def subject : Chapter.Subject :=
  subjectOf a m.summary

def issuesChapter : Chapter.IssuesChapter :=
  builtIssues a m.summary m.list.issues

/-- The chapters in their order. -/
def chapters : List Page.Section :=
  [m.overview, m.newFeatures, Chapter.bugFixes (m.subject a) m.list.issues,
    (m.issuesChapter a).chapter, Chapter.environment m.summary a.settings.product, m.verification]

/-- The page before its variables are filled in. -/
def page : Page :=
  (m.chapters a).foldl Page.attach (.new pageTitle introduction)

def filledPage : Page :=
  (m.page a).fill (m.summary.values a.settings.product)

/-- The chapters of a material have the titles that a page should have. -/
theorem From.titles {a : Assignment} {disk : Disk} {m : Material} (h : m.From a disk) :
    (m.chapters a).map (·.title) = Chapter.titles := by
  unfold chapters Chapter.titles
  simp only [List.map_cons, List.map_nil]
  rw [Chapter.title_of_ofFragment h.overview, Chapter.title_of_ofFragment h.newFeatures,
    Chapter.title_of_ofFragment h.verification]
  rfl

/-- What a job works on when all chapters are attached. -/
def composed (disk : Disk) : Work where
  summary := some m.summary
  issues := m.list.issues
  page := some (m.page a)
  titles := Chapter.titles
  output := ""
  warnings := m.warnings
  incidents := (m.issuesChapter a).incidents
  missing := (m.issuesChapter a).missing
  disk := disk

end Material

namespace Job

open Material

/-- The steps that attach the chapters. -/
def composing : List Step :=
  [.loadSummary, .beginOutput, .overview, .newFeatures, .loadIssues, .bugFixes, .issues,
    .environment, .verification]

/-- **The chapters that have been composed are those of a material.** -/
theorem composed_work {a : Assignment} {disk : Disk} {k : Job} {u : Unit}
    (h : (performAll a composing).on (.new disk) = (.ok u, k)) :
    ∃ m : Material, m.From a disk ∧ k.work = m.composed a disk := by
  obtain ⟨j₁, h₁, h⟩ := performAll_cons_ok h
  obtain ⟨j₂, h₂, h⟩ := performAll_cons_ok h
  obtain ⟨j₃, h₃, h⟩ := performAll_cons_ok h
  obtain ⟨j₄, h₄, h⟩ := performAll_cons_ok h
  obtain ⟨j₅, h₅, h⟩ := performAll_cons_ok h
  obtain ⟨j₆, h₆, h⟩ := performAll_cons_ok h
  obtain ⟨j₇, h₇, h⟩ := performAll_cons_ok h
  obtain ⟨j₈, h₈, h⟩ := performAll_cons_ok h
  obtain ⟨j₉, h₉, h⟩ := performAll_cons_ok h
  cases h
  obtain ⟨bytes, s, hbytes, hsummary, w₁⟩ := loadSummary_work h₁
  have w₂ := beginOutput_work h₂
  rw [w₁] at w₂
  obtain ⟨_, overview, _, hs, hoverview, hp, w₃⟩ := chapter_work rfl h₃
  rw [w₂] at hs hp w₃
  cases hs
  cases hp
  obtain ⟨_, newFeatures, _, hs, hnewFeatures, hp, w₄⟩ := chapter_work rfl h₄
  rw [w₃] at hs hp w₄
  cases hs
  cases hp
  obtain ⟨bytes', list, _, warnings, hbytes', hlist, hs, hprevious, w₅⟩ := loadIssues_work h₅
  rw [w₄] at hbytes' hs w₅
  cases hs
  obtain ⟨_, _, hs, hp, w₆⟩ := bugFixes_work h₆
  rw [w₅] at hs hp w₆
  cases hs
  cases hp
  obtain ⟨_, _, hs, hp, w₇⟩ := issues_work h₇
  rw [w₆] at hs hp w₇
  cases hs
  cases hp
  obtain ⟨_, _, _, hs, henvironment, hp, w₈⟩ := chapter_work rfl h₈
  rw [w₇] at hs hp w₈
  cases hs
  cases hp
  cases henvironment
  obtain ⟨_, verification, _, hs, hverification, hp, w₉⟩ := chapter_work rfl h₉
  rw [w₈] at hs hp w₉
  cases hs
  cases hp
  refine ⟨⟨s, list, warnings, overview, newFeatures, verification⟩, ?_, ?_⟩
  · exact ⟨⟨bytes, hbytes, hsummary⟩, ⟨bytes', hbytes', hlist⟩, hprevious, hoverview, hnewFeatures,
      hverification⟩
  · rw [w₉]
    simp only [Chapter.title_of_ofFragment hoverview, Chapter.title_of_ofFragment hnewFeatures,
      Chapter.title_of_ofFragment hverification]
    rfl

/-- What a job works on when variables have been filled in. -/
theorem filled_work {a : Assignment} {disk : Disk} {k : Job} {u : Unit}
    (h : (performAll a (composing ++ [.check, .substitute])).on (.new disk) = (.ok u, k)) :
    ∃ m : Material, m.From a disk ∧
      k.work = { m.composed a disk with page := some (m.filledPage a) } := by
  obtain ⟨i, hcomposing, hrest⟩ := performAll_append_ok h
  obtain ⟨m, hm, w⟩ := composed_work hcomposing
  obtain ⟨j₁, h₁, hrest⟩ := performAll_cons_ok hrest
  obtain ⟨j₂, h₂, hrest⟩ := performAll_cons_ok hrest
  cases hrest
  have w₁ := check_work h₁
  rw [w] at w₁
  obtain ⟨_, _, hs, hp, w₂⟩ := substitute_work h₂
  rw [w₁] at hs hp w₂
  cases hs
  cases hp
  exact ⟨m, hm, w₂⟩

/-- What a run that delivers has worked on: its page is made of what its files say, and is what has
been written. -/
theorem delivered_work {a : Assignment} {disk : Disk} {k : Job} {r : Result}
    (h : run a (.new disk) = (.ok r, k)) :
    ∃ m : Material, m.From a disk ∧ r = k.result a ∧
      k.work =
        { m.composed a k.disk with
          page := some (m.filledPage a)
          output := (m.filledPage a).text } ∧
      disk.write a.outputPath (Text.Utf8.encode (m.filledPage a).text) = (.ok (), k.disk) := by
  obtain ⟨last, hsteps, rfl, rfl⟩ := run_ok h
  rw [show plan = (composing ++ [.check, .substitute]) ++ [.serialize, .write] from rfl] at hsteps
  obtain ⟨i, hfilled, hrest⟩ := performAll_append_ok hsteps
  obtain ⟨m, hm, w₂⟩ := filled_work hfilled
  obtain ⟨j₃, h₃, hrest⟩ := performAll_cons_ok hrest
  obtain ⟨j₄, h₄, hrest⟩ := performAll_cons_ok hrest
  cases hrest
  obtain ⟨_, hp, w₃⟩ := serialize_work h₃
  rw [w₂] at hp w₃
  cases hp
  obtain ⟨hwrite, w₄⟩ := write_work h₄
  rw [w₃] at hwrite w₄
  exact ⟨m, hm, rfl, w₄, hwrite⟩

end Job

end Pamphlet
