/-!
# Elements

A tree of markup. What an element holds is, in document order, a sequence of text runs and child
elements; a run that stands before every child is the element's `text`, and a run that follows a
child is that child's `tail`. Absent and empty text are different values, though they read alike.

`Element.content` is the view of that sequence. `Element.appendText` and `Element.appendContent` add
at its end, wherever the run has to be stored.
-/

namespace Pamphlet.Markup

/-- What a node of a tree is; a comment's `text` is its content, and an instruction's is its target
and data. -/
inductive Label
  | tag (name : String)
  | comment
  | instruction
  deriving DecidableEq, Repr

/-- Attributes in the order in which they were first set. -/
abbrev Attributes := List (String × String)

namespace Attributes

def get? (attributes : Attributes) (name : String) : Option String :=
  attributes.lookup name

/-- Gives an attribute a value, in its old place if it has one. -/
def set : Attributes → String → String → Attributes
  | [], name, value => [(name, value)]
  | (name', value') :: rest, name, value =>
    if name' = name then (name, value) :: rest else (name', value') :: set rest name value

def erase (attributes : Attributes) (name : String) : Attributes :=
  attributes.filter fun a => a.1 ≠ name

end Attributes

structure Element where
  label : Label
  attributes : Attributes := []
  text : Option String := none
  children : List Element := []
  tail : Option String := none

instance : Inhabited Element := ⟨{ label := .comment }⟩

/-- A piece of an element's content. -/
inductive Item
  | run (text : String)
  | node (element : Element)

namespace Element

def named (tag : String) : Element :=
  { label := .tag tag }

def ofText (tag text : String) : Element :=
  { label := .tag tag, text := some text }

def tag? (e : Element) : Option String :=
  match e.label with
  | .tag name => some name
  | _ => none

def hasTag (e : Element) (name : String) : Bool :=
  e.label = .tag name

def withAttribute (e : Element) (name value : String) : Element :=
  { e with attributes := e.attributes.set name value }

/-- The element without the text that follows it. -/
def alone (e : Element) : Element :=
  { e with tail := none }

/-! ## Content -/

/-- A run, unless there is nothing in it. -/
def runOf : Option String → List Item
  | none => []
  | some s => if s = "" then [] else [.run s]

/-- Text runs and child elements in document order; no run is empty. -/
def content (e : Element) : List Item :=
  runOf e.text ++ e.children.flatMap fun child => .node child.alone :: runOf child.tail

/-- Applies a function to the last element of a list. -/
def onLast (f : Element → Element) : List Element → List Element
  | [] => []
  | [e] => [f e]
  | e :: d :: rest => e :: onLast f (d :: rest)

def addTail (s : String) (e : Element) : Element :=
  { e with tail := some (e.tail.getD "" ++ s) }

/-- Adds text after whatever the element holds. -/
def appendText (e : Element) (s : String) : Element :=
  if s = "" then e
  else if e.children.isEmpty then { e with text := some (e.text.getD "" ++ s) }
  else { e with children := onLast (addTail s) e.children }

def appendText? (e : Element) : Option String → Element
  | none => e
  | some s => e.appendText s

def append (e child : Element) : Element :=
  { e with children := e.children ++ [child] }

/-- Adds the content of another element after whatever the element holds. -/
def appendContent (e source : Element) : Element :=
  let e := e.appendText? source.text
  { e with children := e.children ++ source.children }

/-- The text and the children that hold a sequence of runs and elements. -/
def assemble : List Item → Option String × List Element
  | [] => (none, [])
  | .run s :: rest =>
    let (text, children) := assemble rest
    (some (s ++ text.getD ""), children)
  | .node e :: rest =>
    let (text, children) := assemble rest
    (none, { e with tail := text } :: children)

/-- An element with given content. -/
def ofItems (label : Label) (attributes : Attributes) (items : List Item) : Element :=
  let (text, children) := assemble items
  { label, attributes, text, children }

/-! ## Walking -/

mutual

/-- The character data inside the element, in document order. -/
def characters : Element → String
  | ⟨_, _, text, children, _⟩ => text.getD "" ++ charactersOf children

/-- The character data of a list of siblings, with what follows each. -/
def charactersOf : List Element → String
  | [] => ""
  | e :: rest => e.characters ++ e.tail.getD "" ++ charactersOf rest

end

mutual

/-- The element and all elements below it, parents before children. -/
def descendants : Element → List Element
  | e@⟨_, _, _, children, _⟩ => e :: descendantsOf children

def descendantsOf : List Element → List Element
  | [] => []
  | e :: rest => e.descendants ++ descendantsOf rest

end

mutual

/-- Changes the element and all elements below it; `f` sees an element whose children are already
changed. -/
def mapAll (f : Element → Element) : Element → Element
  | ⟨label, attributes, text, children, tail⟩ =>
    f ⟨label, attributes, text, mapAllOf f children, tail⟩

def mapAllOf (f : Element → Element) : List Element → List Element
  | [] => []
  | e :: rest => mapAll f e :: mapAllOf f rest

end

def childrenNamed (e : Element) (name : String) : List Element :=
  e.children.filter (·.hasTag name)

/-- The elements two levels down whose tag and parent's tag are as given. -/
def grandchildrenNamed (e : Element) (parent name : String) : List Element :=
  (e.childrenNamed parent).flatMap (·.childrenNamed name)

end Element

end Pamphlet.Markup
