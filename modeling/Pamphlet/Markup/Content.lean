import Pamphlet.Markup.Dtd
import Pamphlet.Markup.Namespace

/-!
# Content

From lexemes to a tree, in two steps. `contentEvents` puts the texts of entities where references
name them and completes tags by what the document type says; what is left are events, and a breach
is an event like any other, met in document order. `build` then nests the events into elements.

The text of an entity has to be balanced (`balanced`), so an element never begins in one text and
ends in another. A breach inside an entity's text stands where the reference in the document
stands.
-/

namespace Pamphlet.Markup

open Scanner

/-- A tag with its values, before prefixes are expanded. -/
structure Tag where
  name : String
  attributes : Attributes
  bindings : Scope

inductive Event
  | start (tag : Tag) (left : List Char)
  | finish (name : String) (left after : List Char)
  | data (text : List Char)
  | comment (text : String)
  | instruction (target : String) (data : List Char)
  | breach (b : Breach)

/-! ## Tags -/

/-- Adds an attribute that is set to a tag, or the binding that it stands for. -/
def Tag.add (tag : Tag) (name value : String) : Except Problem Tag :=
  match boundPrefix? name with
  | none => return { tag with attributes := tag.attributes ++ [(name, value)] }
  | some label =>
    match bindingProblem? label value with
    | some problem => throw problem
    | none => return { tag with bindings := (label, value) :: tag.bindings }

/-- Adds the attributes that are written in a tag, each of them once. -/
def Tag.addWritten (d : Dtd) (opened : List String) (start : List Char) (seen : List String)
    (tag : Tag) : List RawAttribute → Except Breach Tag
  | [] => return tag
  | a :: rest => do
    if seen.contains a.name then throw ⟨.duplicateAttribute, a.left⟩
    let value ← (d.attributeValue opened (d.keepsBlanks tag.name a.name) a.value).mapError
      (·.breach start)
    let tag ← (tag.add a.name value).mapError (⟨·, start⟩)
    tag.addWritten d opened start (a.name :: seen) rest

/-- Adds the defaults of attributes that are not written. -/
def Tag.addDefaults (start : List Char) (seen : List String) (tag : Tag) :
    List AttributeRule → Except Breach Tag
  | [] => return tag
  | rule :: rest =>
    match rule.default with
    | none => tag.addDefaults start seen rest
    | some value =>
      if seen.contains rule.name then tag.addDefaults start seen rest
      else do
        let tag ← (tag.add rule.name value).mapError (⟨·, start⟩)
        tag.addDefaults start (rule.name :: seen) rest

def Tag.complete (d : Dtd) (opened : List String) (start : List Char) (name : String)
    (attributes : List RawAttribute) : Except Breach Tag := do
  let tag ← Tag.addWritten d opened start [] ⟨name, [], []⟩ attributes
  tag.addDefaults start (attributes.map (·.name)) (d.rulesOf name)

/-! ## Entities -/

/-- Where a place is reported: in an entity's text, at the reference to it. -/
def anchored (anchor : Option (List Char)) (left : List Char) : List Char :=
  anchor.getD left

/-- The events of lexemes. `expand` gives those of an entity that is referred to at a place. Line
ends are joined in the document itself; in the text of an entity they have been. -/
def eventsOf (d : Dtd) (opened : List String) (anchor : Option (List Char))
    (expand : String → List Char → List Event) : List Lexeme → List Event
  | [] => []
  | .broken b :: _ => [.breach { b with left := anchored anchor b.left }]
  | .token t start after :: rest =>
    let place := anchored anchor start
    match t with
    | .opening name attributes empty =>
      match Tag.complete d opened start name attributes with
      | .error b => [.breach { b with left := anchored anchor b.left }]
      | .ok tag =>
        .start tag place ::
          if empty then .finish name place after :: eventsOf d opened anchor expand rest
          else eventsOf d opened anchor expand rest
    | .closing name left =>
      .finish name (anchored anchor left) after :: eventsOf d opened anchor expand rest
    | .data text =>
      .data (if anchor.isSome then text else normalizeLines text) ::
        eventsOf d opened anchor expand rest
    | .reference (.number (some c)) => .data [c] :: eventsOf d opened anchor expand rest
    | .reference (.number none) => [.breach ⟨.badCharacterNumber, place⟩]
    | .reference (.entity name) =>
      match predefined? name with
      | some c => .data [c] :: eventsOf d opened anchor expand rest
      | none => expand name place ++ eventsOf d opened anchor expand rest
    | .comment text => .comment text :: eventsOf d opened anchor expand rest
    | .instruction target data =>
      .instruction target data :: eventsOf d opened anchor expand rest
    | .declaration => [.breach ⟨.misplacedDeclaration, place⟩]

/-- The events of an entity's text, which has to close the elements that it opens and no others;
`depth` elements are open. -/
def balanced (place : List Char) (depth : Nat) : List Event → List Event
  | [] => if depth = 0 then [] else [.breach ⟨.asynchronousEntity, place⟩]
  | .start tag left :: rest => .start tag left :: balanced place (depth + 1) rest
  | .finish name left after :: rest =>
    if depth = 0 then [.breach ⟨.asynchronousEntity, place⟩]
    else .finish name left after :: balanced place (depth - 1) rest
  | event :: rest => event :: balanced place depth rest

/-- The events that an entity stands for. `opened` are the entities whose text is being read, and
`depth` bounds how many more can be opened. -/
def entityEvents (d : Dtd) (depth : Nat) (opened : List String) (name : String)
    (place : List Char) : List Event :=
  match depth with
  | 0 => [.breach ⟨.recursiveEntity, place⟩]
  | depth + 1 =>
    match d.entities.lookup name with
    | none =>
      [.breach ⟨if d.knowsAll then .undefinedEntity else .skippedEntity name, place⟩]
    | some entity =>
      if opened.contains name then [.breach ⟨.recursiveEntity, place⟩]
      else
        match entity with
        | .unparsed => [.breach ⟨.binaryEntity, place⟩]
        | .external => [.breach ⟨.skippedEntity name, place⟩]
        | .internal text =>
          let opened := name :: opened
          balanced place 0
            (eventsOf d opened (some place) (entityEvents d depth opened) (tokens text))

/-- The events of a document's content, from the root's angle on. -/
def contentEvents (d : Dtd) (content : List Char) : List Event :=
  eventsOf d [] none (entityEvents d d.depth []) (tokens content)

/-! ## Trees -/

/-- An element that is open: its items so far, the latest first, and what is bound inside it. -/
structure Frame where
  name : String
  fullName : String
  attributes : Attributes
  scope : Scope
  items : List Item

def Frame.push (f : Frame) (item : Item) : Frame :=
  { f with items := item :: f.items }

def Frame.close (f : Frame) : Element :=
  .ofItems (.tag f.fullName) f.attributes f.items.reverse

/-- The frame of a tag that stands where `scope` is bound. -/
def Frame.open (scope : Scope) (tag : Tag) (left : List Char) : Except Breach Frame := do
  let scope := tag.bindings ++ scope
  let (fullName, attributes) ← (scope.expand tag.name tag.attributes).mapError (⟨·, left⟩)
  return ⟨tag.name, fullName, attributes, scope, []⟩

def instructionText (target : String) (data : List Char) : String :=
  if data.isEmpty then target else target ++ " " ++ String.ofList data

/-- Nests events into the root and gives the text after it. The open elements are `f` and, from the
inside out, `outer`. Comments and instructions are nodes if `notes` are kept; otherwise the text on
both sides of them is one run. `ending` is where a text without the root's last tag ends. -/
def nest (notes : Bool) (ending : List Char) (f : Frame) (outer : List Frame) :
    List Event → Except Breach (Element × List Char)
  | [] => throw ⟨.noElement, ending⟩
  | .breach b :: _ => throw b
  | .data text :: rest =>
    if text.isEmpty then nest notes ending f outer rest
    else nest notes ending (f.push (.run (String.ofList text))) outer rest
  | .comment text :: rest =>
    if notes then
      nest notes ending (f.push (.node { label := .comment, text := some text })) outer rest
    else nest notes ending f outer rest
  | .instruction target data :: rest =>
    if notes then
      let node : Element := { label := .instruction, text := some (instructionText target data) }
      nest notes ending (f.push (.node node)) outer rest
    else nest notes ending f outer rest
  | .start tag left :: rest => do
    let inner ← Frame.open f.scope tag left
    nest notes ending inner (f :: outer) rest
  | .finish name left after :: rest =>
    if name ≠ f.name then throw ⟨.mismatchedTag, left⟩
    else
      match outer with
      | [] => return (f.close, after)
      | parent :: outer => nest notes ending (parent.push (.node f.close)) outer rest

/-- The root of a sequence of events and the text after it. -/
def build (notes : Bool) (ending : List Char) : List Event → Except Breach (Element × List Char)
  | .start tag left :: rest => do
    let root ← Frame.open .initial tag left
    nest notes ending root [] rest
  | .breach b :: _ => throw b
  | _ => throw ⟨.noElement, ending⟩

end Pamphlet.Markup
