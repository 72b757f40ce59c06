import Pamphlet.Digest.Sha256
import Pamphlet.Job.Result
import Pamphlet.Job.Step

/-!
# Runs

A job from its first step to its last. Every fault ends the run as a `GenerationError`; a run
without a fault delivers the page and tells its result.
-/

namespace Pamphlet

open Pamphlet.Text

/-- A run that has failed, by its cause. -/
structure GenerationError where
  cause : Fault

/-- The entry of a failed run in the catalog; it has the code of its cause if that has one. -/
def GenerationError.entry (e : GenerationError) : CatalogError :=
  .generation e.cause.text ((e.cause.catalog?.map (·.code)).getD CatalogError.generationCode)

namespace Job

/-- The steps of a run. The report comes after them. -/
def plan : List Step :=
  [.loadSummary, .beginOutput, .overview, .newFeatures, .loadIssues, .bugFixes, .issues,
    .environment, .verification, .check, .substitute, .serialize, .write]

/-- Performs steps in order up to the first fault. -/
def performAll (a : Assignment) : List Step → Act Unit
  | [] => pure ()
  | s :: rest => do
    s.perform a
    performAll a rest

def isBroken : Fault → Bool
  | .brokenPage _ => true
  | _ => false

/-- What is said of a fault that ends a run. -/
def failureLines (a : Assignment) (f : Fault) : List LogLine :=
  ⟨.error, s!"[{a.name}] Pipeline failed"⟩ ::
    match isBroken f, a.threads.dump with
    | true, .ok dump => [⟨.error, dump⟩]
    | _, _ => []

def result (a : Assignment) (j : Job) : Result where
  job := a.name
  output := a.outputPath.text
  digest := Digest.Sha256.hex (Utf8.encode j.output)
  sections := j.titles
  issueCount := j.issues.length
  missing := j.missing.map (·.key)
  timings := j.timings
  warnings := j.warnings
  incidents := j.incidents

/-- A job that has come to its end. -/
def deliver (j : Job) : Job :=
  let j := { j with stage := .delivered }
  { j with log := j.log ++ Act.reportLines j }

def fail (a : Assignment) (f : Fault) (j : Job) : Job :=
  { j with stage := .failed, log := j.log ++ failureLines a f }

/-- Runs a job by a plan. -/
def runBy (plan : List Step) (a : Assignment) (j : Job) : Except GenerationError Result × Job :=
  match (performAll a plan).run.run j with
  | (.ok _, j) => (.ok (j.deliver.result a), j.deliver)
  | (.error f, j) => (.error ⟨f⟩, j.fail a f)

def run (a : Assignment) (j : Job) : Except GenerationError Result × Job :=
  runBy plan a j

end Job

end Pamphlet
