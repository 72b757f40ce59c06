/-!
# Paths

A path is a list of names under an anchor: nothing for a path that starts at the current folder, one
or two slashes for one that starts at the top. Reading drops empty names and single dots and keeps
double dots, since what they mean depends on the folders. Any text is a path, also one with a null
character (`Path.hasNull`), though no operating system can be asked about that one.
-/

namespace Pamphlet.Disk

structure Path where
  anchor : String := ""
  names : List String
  deriving DecidableEq, Repr

namespace Path

def isName (name : String) : Bool :=
  name ≠ "" ∧ name ≠ "."

def anchorOf (cs : List Char) : String :=
  match (cs.takeWhile (· = '/')).length with
  | 0 => ""
  | 2 => "//"
  | _ => "/"

def read (s : String) : Path where
  anchor := anchorOf s.toList
  names := (s.splitOn "/").filter isName

def text (p : Path) : String :=
  if p.anchor = "" ∧ p.names.isEmpty then "." else p.anchor ++ "/".intercalate p.names

/-- The path without its last name; one that has none is its own parent. -/
def parent (p : Path) : Path :=
  { p with names := p.names.dropLast }

def lastName (p : Path) : String :=
  p.names.getLast?.getD ""

def child (p : Path) (name : String) : Path :=
  { p with names := p.names ++ [name] }

def hasNull (p : Path) : Bool :=
  p.names.any (·.toList.contains '\x00')

theorem parent_child (p : Path) (name : String) : (p.child name).parent = p := by
  simp [child, parent]

end Path

end Pamphlet.Disk
