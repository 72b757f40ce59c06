import Pamphlet.Job.Act

/-!
# Steps

The steps of a job. `Step.act` is what a step does to the job; `Step.perform` also brings the job to
the step's stage and records the step, or records that it failed if it is a step that reads a file.
-/

namespace Pamphlet

inductive Step
  | loadSummary
  | beginOutput
  | overview
  | newFeatures
  | loadIssues
  | bugFixes
  | issues
  | environment
  | verification
  | check
  | substitute
  | serialize
  | write
  | report
  deriving DecidableEq, Repr

namespace Step

def name : Step → String
  | .loadSummary => "load_summary"
  | .beginOutput => "begin_output"
  | .overview => "overview"
  | .newFeatures => "new_features"
  | .loadIssues => "load_issues"
  | .bugFixes => "bug_fixes"
  | .issues => "issues"
  | .environment => "environment"
  | .verification => "release_verification"
  | .check => "check"
  | .substitute => "substitute"
  | .serialize => "serialize"
  | .write => "write"
  | .report => "report"

def all : List Step :=
  [.loadSummary, .beginOutput, .overview, .newFeatures, .loadIssues, .bugFixes, .issues,
    .environment, .verification, .check, .substitute, .serialize, .write, .report]

/-- The stage that a step brings a job to. -/
def stage? : Step → Option Stage
  | .loadSummary => some .summaryLoaded
  | .beginOutput => some .shellCreated
  | .overview => some .overviewBuilt
  | .newFeatures => some .newFeaturesBuilt
  | .loadIssues => some .issuesLoaded
  | .bugFixes => some .bugFixesBuilt
  | .issues => some .issuesBuilt
  | .environment => some .environmentBuilt
  | .verification => some .verificationBuilt
  | .check => none
  | .substitute => some .substituted
  | .serialize => some .serialized
  | .write => none
  | .report => none

def isRecorded (s : Step) : Bool :=
  s ≠ .check && s ≠ .report

/-- Steps whose faults are recorded. -/
def recordsFault (s : Step) : Bool :=
  s = .loadSummary || s = .loadIssues

/-- What a step does; its result is a detail for the record. -/
def act (a : Assignment) : Step → Act String
  | .loadSummary => Act.loadSummary a
  | .beginOutput => Act.beginOutput
  | .overview => Act.addChapter "fragment" Page.Chapter.overview
  | .newFeatures => Act.addChapter "fragment" Page.Chapter.newFeatures
  | .loadIssues => Act.loadIssues a
  | .bugFixes => Act.bugFixes a
  | .issues => Act.issues a
  | .environment =>
    Act.addChapter "release_id" fun s => .ok (Page.Chapter.environment s a.settings.product)
  | .verification => Act.addChapter "fragment" Page.Chapter.verification
  | .check => Act.check a
  | .substitute => Act.substitute a
  | .serialize => Act.serialize
  | .write => Act.write a
  | .report => Act.report

/-- Notes that a step is done. -/
def finish (s : Step) (detail : String) : Act Unit := do
  if let some stage := s.stage? then
    modify fun j => { j with stage }
  if s.isRecorded then Act.record s.name "ok" detail

/-- Notes that a step has failed. -/
def giveUp (s : Step) (f : Fault) : Act Unit := do
  if s.recordsFault then Act.record s.name "failed" f.text
  throw f

/-- A step as part of a job. -/
def perform (a : Assignment) (s : Step) : Act Unit :=
  tryCatch (s.act a >>= s.finish) s.giveUp

end Step

end Pamphlet
