/-!
# Stages

How far a job has come. A job that goes well passes through all stages but the last one.
-/

namespace Pamphlet

inductive Stage
  | received
  | summaryLoaded
  | shellCreated
  | overviewBuilt
  | newFeaturesBuilt
  | issuesLoaded
  | bugFixesBuilt
  | issuesBuilt
  | environmentBuilt
  | verificationBuilt
  | substituted
  | serialized
  | delivered
  | failed
  deriving DecidableEq, Repr

def Stage.name : Stage → String
  | .received => "RECEIVED"
  | .summaryLoaded => "SUMMARY_LOADED"
  | .shellCreated => "SHELL_CREATED"
  | .overviewBuilt => "OVERVIEW_BUILT"
  | .newFeaturesBuilt => "NEW_FEATURES_BUILT"
  | .issuesLoaded => "ISSUES_LOADED"
  | .bugFixesBuilt => "BUG_FIXES_BUILT"
  | .issuesBuilt => "ISSUES_BUILT"
  | .environmentBuilt => "ENVIRONMENT_BUILT"
  | .verificationBuilt => "VERIFICATION_BUILT"
  | .substituted => "SUBSTITUTED"
  | .serialized => "SERIALIZED"
  | .delivered => "DELIVERED"
  | .failed => "FAILED"

end Pamphlet
