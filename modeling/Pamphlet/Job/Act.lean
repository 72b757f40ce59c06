import Pamphlet.Job.Basic

/-!
# Actions

What the steps of a job do to it. The result of an action is a detail for the record of its step.
-/

namespace Pamphlet.Act

open Pamphlet.Release Pamphlet.Page

/-! ## Small actions -/

def lift {α : Type} (e : Except Fault α) : Act α :=
  ExceptT.mk (pure e)

def say (lines : List LogLine) : Act Unit :=
  modify fun j => { j with log := j.log ++ lines }

def record (step status detail : String) : Act Unit :=
  modify fun j => { j with timings := j.timings ++ [⟨step, 0, status, detail⟩] }

/-- The summary, of which a field is asked for. -/
def needSummary (field : String) : Act Summary := do
  match (← get).summary with
  | some s => return s
  | none => throw (.premature (.field field))

/-- The page; without one, this is what a step misses. -/
def needPage (lack : Lack) : Act Page := do
  match (← get).page with
  | some p => return p
  | none => throw (.premature lack)

def attach (s : Page.Section) : Act Unit := do
  let p ← needPage .parent
  modify fun j => { j with page := some (p.attach s), titles := j.titles ++ [s.title] }

/-! ## Files and chapters -/

/-- The fault of a summary that cannot be read. A path that no operating system has been asked about
is no fault of the summary. -/
def readingFault (path : Disk.Path) (problem : Disk.FileProblem) : Fault :=
  if problem.trouble = .null then .file problem else .unreadableSummary path problem

def loadSummary (a : Assignment) : Act String := do
  match (← get).disk.read a.summaryPath with
  | .error problem => throw (readingFault a.summaryPath problem)
  | .ok bytes =>
    let s ← lift (Summary.ofBytes a.summaryPath bytes)
    modify fun j => { j with summary := some s }
    return ""

def pageTitle : String :=
  "Release Notes for \x7b\x7b productName \x7d\x7d \x7b\x7b releaseID \x7d\x7d"

def introduction : String :=
  "These notes describe the difference between \x7b\x7b productName \x7d\x7d release " ++
    "\x7b\x7b releaseID \x7d\x7d and the preceding release \x7b\x7b previousReleaseID \x7d\x7d."

def beginOutput : Act String := do
  modify fun j => { j with page := some (.new pageTitle introduction) }
  return ""

/-- Builds a chapter from the summary, of which a field is asked for first, and attaches it. -/
def addChapter (field : String) (build : Summary → Except Fault Section) : Act String := do
  let s ← needSummary field
  attach (← lift (build s))
  return ""

def loadIssues (a : Assignment) : Act String := do
  match (← get).disk.read a.bugListPath with
  | .error problem => throw (.file problem)
  | .ok bytes =>
    let list ← lift (BugList.ofBytes a.bugListPath a.settings.naming bytes)
    let s ← needSummary "previous_release_id"
    let warnings ← lift (BugList.checkPrevious list.previous s.previousReleaseId)
    say (warnings.map fun w => ⟨.warning, "  " ++ w⟩)
    modify fun j => { j with issues := list.issues, warnings := j.warnings ++ warnings }
    return s!"{list.issues.length} issues"

def subjectOf (a : Assignment) (s : Summary) : Chapter.Subject :=
  ⟨s.releaseId, s.previousReleaseId, a.settings.naming.lead, a.settings.product⟩

def bugFixes (a : Assignment) : Act String := do
  let s ← needSummary "release_id"
  attach (Chapter.bugFixes (subjectOf a s) (← get).issues)
  return ""

def incidentLine (i : Incident) : String :=
  "  " ++ i.message ++ " — " ++ i.cause

/-- Fetches the notes of all issues. -/
def fetchNotes (a : Assignment) : Act (List Outcome) := do
  let f := a.source.fetchAll a.settings.concurrency a.picks (← get).issues
  modify fun j => { j with asked := j.asked ++ f.asked }
  say (f.incidents.map fun i => ⟨.warning, incidentLine i⟩)
  return f.outcomes

def issues (a : Assignment) : Act String := do
  let outcomes ← fetchNotes a
  let s ← needSummary "release_id"
  let built := Chapter.issues (subjectOf a s) (← get).issues outcomes
  attach built.chapter
  modify fun j =>
    { j with incidents := j.incidents ++ built.incidents, missing := j.missing ++ built.missing }
  return s!"{built.chapter.subsections.length} notes, {built.missing.length} missing"

/-- Ends in a failure of the program itself. -/
def breakOff (a : Assignment) (problem : PageProblem) : Act Unit := do
  let _ ← lift a.threads.dump
  throw (.brokenPage problem)

/-- The page must be what attaching the chapters in their order makes it. The titles attached are
looked at first; there need be no page for that. -/
def check (a : Assignment) : Act String := do
  let titles := (← get).titles
  if titles ≠ Chapter.titles then
    breakOff a (.order Chapter.titles titles)
  let p ← needPage (.field "findall")
  if let some problem := p.problem? Chapter.titles then
    breakOff a problem
  return ""

def substitute (a : Assignment) : Act String := do
  let s ← needSummary "release_id"
  let p ← needPage (.field "iter")
  let values := s.values a.settings.product
  let tokens := p.tokens
  modify fun j => { j with page := some (p.fill values) }
  say ((Substitution.unknownNames values tokens).map fun name =>
    ⟨.warning, "  " ++ Substitution.warning name⟩)
  return s!"{Substitution.countKnown values tokens} replacements"

def serialize : Act String := do
  let p ← needPage (.field "iter")
  modify fun j => { j with output := p.text }
  return s!"{p.text.length} chars"

def write (a : Assignment) : Act String := do
  let j ← get
  let (result, disk) := j.disk.write a.outputPath (Text.Utf8.encode j.output)
  set { j with disk }
  match result with
  | .error problem => throw (.file problem)
  | .ok _ => return a.outputPath.text

def missingTitle : String :=
  "The following issues still need release notes or the release notes provided are unreadable:"

/-- The lines that say which issues still need a note and what went wrong. -/
def reportLines (j : Job) : List LogLine :=
  (if j.missing.isEmpty then []
    else
      ⟨.warning, missingTitle⟩ :: j.missing.map fun i => ⟨.warning, s!"\t{i.key}\t{i.title}"⟩) ++
    j.incidents.map fun i => ⟨.error, i.format⟩

def report : Act String := do
  say (reportLines (← get))
  return ""

end Pamphlet.Act
