import Pamphlet.Markup.Element

/-!
# Places in trees

An element below a root is found by a path of child numbers. A `Draft` holds trees under
construction and names for elements in them; an element keeps its name while its tree grows and when
its tree becomes part of another one.
-/

namespace Pamphlet.Markup

namespace Element

def descendant? : List Nat → Element → Option Element
  | [], e => some e
  | i :: path, e => e.children[i]?.bind (descendant? path)

def changeAt (f : Element → Element) : List Nat → Element → Element
  | [], e => f e
  | i :: path, e => { e with children := e.children.modify i (changeAt f path) }

/-- What is changed at a path is found there changed. -/
theorem descendant?_changeAt (f : Element → Element) (path : List Nat) (e : Element) :
    (e.changeAt f path).descendant? path = (e.descendant? path).map f := by
  induction path generalizing e with
  | nil => rfl
  | cons i path ih =>
    simp only [changeAt, descendant?, List.getElem?_modify, if_pos]
    cases e.children[i]? with
    | none => rfl
    | some child => exact ih child

end Element

/-- Where an element is: the number of its tree and the path in it. -/
structure Place where
  tree : Nat
  path : List Nat
  deriving DecidableEq, Repr

structure Draft where
  trees : List Element := []
  names : List (String × Place) := []

namespace Place

/-- The place of a child. -/
def child (p : Place) (n : Nat) : Place :=
  { p with path := p.path ++ [n] }

/-- Whether an element is another one or holds it. -/
def Above (p q : Place) : Prop :=
  p.tree = q.tree ∧ p.path <+: q.path

end Place

namespace Draft

def place? (d : Draft) (name : String) : Option Place :=
  d.names.lookup name

def element? (d : Draft) (p : Place) : Option Element :=
  d.trees[p.tree]?.bind (·.descendant? p.path)

def get? (d : Draft) (name : String) : Option Element :=
  (d.place? name).bind d.element?

def bind (d : Draft) (name : String) (p : Place) : Draft :=
  { d with names := (name, p) :: d.names.filter fun n => n.1 ≠ name }

/-- Adds a tree and names its root. -/
def add (d : Draft) (name : String) (e : Element) : Draft :=
  { d with trees := d.trees ++ [e] }.bind name ⟨d.trees.length, []⟩

def change (d : Draft) (p : Place) (f : Element → Element) : Draft :=
  { d with trees := d.trees.modify p.tree (·.changeAt f p.path) }

/-- Where the next child of an element will be. -/
def nextChild (d : Draft) (p : Place) : Place :=
  p.child ((d.element? p).elim 0 fun e => e.children.length)

/-- Makes an element the last child of another one. A whole tree takes its names along. -/
def move (d : Draft) (parent child : Place) : Draft :=
  match d.element? child with
  | none => d
  | some e =>
    let target := d.nextChild parent
    let d := d.change parent (·.append e)
    if child.path.isEmpty then
      { d with
        names := d.names.map fun (name, p) =>
          (name, if p.tree = child.tree then ⟨target.tree, target.path ++ p.path⟩ else p) }
    else d

end Draft

end Pamphlet.Markup
