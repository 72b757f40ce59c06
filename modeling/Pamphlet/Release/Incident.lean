import Pamphlet.Fault
import Pamphlet.Record.Intake

/-!
# Incidents

A failure that a run recovers from: what was being done, and what went wrong.
-/

namespace Pamphlet.Release

open Pamphlet.Record

structure Incident where
  message : String
  cause : String := ""
  deriving DecidableEq, Repr

namespace Incident

def ofFault (message : String) (f : Fault) : Incident :=
  ⟨message, f.name ++ ": " ++ f.text⟩

/-- The message, and the cause on a line of its own. -/
def format (i : Incident) : String :=
  if i.cause = "" then i.message else i.message ++ "\n\t" ++ i.cause

def kind : String :=
  "ErrorEntry"

def ofFields (fields : Fields) : Intake Incident :=
  Incident.mk <$> .required fields "message" .text <*> .optional fields "cause" "" .text

def fields (i : Incident) : Fields :=
  [("message", .text i.message), ("cause", .text i.cause)]

end Incident

end Pamphlet.Release
