import Pamphlet.Disk.Path
import Pamphlet.Text.Quoted

/-!
# What goes wrong with files

A `FileProblem` is a trouble with a path, with the two paths of a renaming, or with a file that is
already open and has no path to name. Troubles have the numbers and texts that operating systems
give them, all but one: a path with a null character is turned down before an operating system is
asked (`Trouble.null`), so that is no answer of a disk (`Refusal`).
-/

namespace Pamphlet.Disk

open Pamphlet.Text

inductive Trouble
  /-- A path has a null character. -/
  | null
  | missing
  | busy
  | taken
  | notFolder
  | isFolder
  /-- Anything else that an operating system may answer: no rights, no room, a name too long. -/
  | refused (number : Nat) (name text : String)
  deriving DecidableEq, Repr

/-- What an operating system may answer. -/
abbrev Refusal :=
  { trouble : Trouble // trouble ≠ .null }

namespace Trouble

/-- The kind of failure that a trouble is reported as. -/
def name : Trouble → String
  | .null => "ValueError"
  | .missing => "FileNotFoundError"
  | .busy => "OSError"
  | .taken => "FileExistsError"
  | .notFolder => "NotADirectoryError"
  | .isFolder => "IsADirectoryError"
  | .refused _ name _ => name

/-- The number of a trouble, if it has one. -/
def number? : Trouble → Option Nat
  | .null => none
  | .missing => some 2
  | .busy => some 16
  | .taken => some 17
  | .notFolder => some 20
  | .isFolder => some 21
  | .refused number _ _ => some number

def text : Trouble → String
  | .null => "embedded null byte"
  | .missing => "No such file or directory"
  | .busy => "Device or resource busy"
  | .taken => "File exists"
  | .notFolder => "Not a directory"
  | .isFolder => "Is a directory"
  | .refused _ _ text => text

end Trouble

/-- A trouble with `path`, or with renaming `path` to `target`. -/
structure FileProblem where
  trouble : Trouble
  path : Option Path
  target : Option Path := none
  deriving DecidableEq, Repr

/-- Only a trouble with a number is told with its paths. -/
def FileProblem.text (p : FileProblem) : String :=
  match p.trouble.number? with
  | none => p.trouble.text
  | some number =>
    let about := p.path.elim "" fun q => ": " ++ quoted q.text
    let onto := p.target.elim "" fun t => " -> " ++ quoted t.text
    s!"[Errno {number}] {p.trouble.text}{about}{onto}"

end Pamphlet.Disk
