import Pamphlet.Record.Intake

/-!
# Timings

What is recorded of each step of a job: how it ended, how long it took, and a detail.
-/

namespace Pamphlet

open Pamphlet.Record

structure Timing where
  step : String
  milliseconds : Int
  status : String := "ok"
  detail : String := ""
  deriving DecidableEq, Repr

namespace Timing

def kind : String :=
  "StepTiming"

def ofFields (fields : Fields) : Intake Timing :=
  Timing.mk <$> .required fields "step" .text
    <*> .required fields "duration_ms" .whole
    <*> .optional fields "status" "ok" .text
    <*> .optional fields "detail" "" .text

def fields (t : Timing) : Fields :=
  [("step", .text t.step), ("duration_ms", .number t.milliseconds 0), ("status", .text t.status),
    ("detail", .text t.detail)]

end Timing

end Pamphlet
