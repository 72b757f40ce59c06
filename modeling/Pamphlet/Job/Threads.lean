import Pamphlet.Fault

/-!
# Thread dumps

A failure of the program itself is reported with the stacks of all threads that run, if they can be
had.
-/

namespace Pamphlet

/-- A thread; one that is not on the list of threads has no name. -/
structure Thread where
  id : Int
  name : Option String
  daemon : Bool
  stack : List String := []
  deriving DecidableEq, Repr

namespace Thread

def title (t : Thread) : String :=
  match t.name with
  | some name =>
    s!"Thread name={name} id={t.id} daemon=" ++ if t.daemon then "True" else "False"
  | none => s!"Thread id={t.id}"

def lines (t : Thread) : List String :=
  t.title :: t.stack ++ [""]

def border : String :=
  "---------------"

def dumpTitle : String :=
  "Stack traces for all live threads:"

def dump (threads : List Thread) : String :=
  "\n".intercalate (border :: dumpTitle :: threads.flatMap lines ++ [border])

end Thread

/-- What asking for the threads gives. -/
inductive Probe
  | absent
  | refused (name text : String)
  | threads (ts : List Thread)

namespace Probe

def noDump : String :=
  "(Skipping thread dump because it is not supported on this platform)"

/-- Failures that mean no more than that there is no dump. -/
def refusals : List String :=
  ["RuntimeError", "PermissionError"]

def dump : Probe → Except Fault String
  | .absent => .ok noDump
  | .refused name text =>
    if refusals.contains name then .ok noDump else .error (.foreign name text)
  | .threads ts => .ok (Thread.dump ts)

end Probe

end Pamphlet
