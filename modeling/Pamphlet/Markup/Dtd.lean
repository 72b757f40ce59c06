import Pamphlet.Markup.Token

/-!
# Document types

What the declarations of a document say about its content: the texts of entities, and for the
attributes of an element their defaults and whether their blanks are kept. A `Dtd` is built up
declaration by declaration (`Markup.Prolog`); the first declaration of a name counts.

Values of attributes are normalised here as well, since a default is normalised where it is
declared: `Dtd.attributeValue` puts entities in and `squeeze` collapses the blanks of a value that
is not plain character data.
-/

namespace Pamphlet.Markup

open Scanner

inductive Entity
  /-- A text in the document. -/
  | internal (text : List Char)
  /-- A text elsewhere, which is not read. -/
  | external
  /-- Data elsewhere that is no markup. -/
  | unparsed
  deriving DecidableEq, Repr

/-- A declared attribute. -/
structure AttributeRule where
  name : String
  plain : Bool
  default : Option String
  deriving DecidableEq, Repr

structure Dtd where
  entities : List (String × Entity) := []
  rules : List (String × AttributeRule) := []
  /-- Something was declared outside the text, so an unknown entity may be declared there. -/
  partlyElsewhere : Bool := false
  standalone : Bool := false
  /-- Declarations still count. -/
  counting : Bool := true
  deriving Repr

namespace Dtd

/-- Whether a declaration of an entity would be the one that counts. -/
def isOpen (d : Dtd) (name : String) : Bool :=
  d.counting && (predefined? name).isNone && (d.entities.lookup name).isNone

def declare (d : Dtd) (name : String) (entity : Entity) : Dtd :=
  { d with entities := d.entities ++ [(name, entity)] }

/-- An entity elsewhere turns out to be no markup. -/
def markUnparsed (d : Dtd) (name : String) : Dtd :=
  { d with entities := d.entities.map fun (n, e) => if n = name then (n, .unparsed) else (n, e) }

def rulesOf (d : Dtd) (element : String) : List AttributeRule :=
  (d.rules.filter (·.1 = element)).map (·.2)

/-- A rule with a default counts only if it is the attribute's first. -/
def addRule (d : Dtd) (element : String) (rule : AttributeRule) : Dtd :=
  if !d.counting || (rule.default.isSome && (d.rulesOf element).any (·.name = rule.name)) then d
  else { d with rules := d.rules ++ [(element, rule)] }

/-- Whether all blanks of an attribute's value are kept. -/
def keepsBlanks (d : Dtd) (element name : String) : Bool :=
  match (d.rulesOf element).find? (·.name = name) with
  | some rule => rule.plain
  | none => true

/-- Whether an entity that is not declared is an error. -/
def knowsAll (d : Dtd) : Bool :=
  !d.partlyElsewhere || d.standalone

/-! ## Values of attributes -/

/-- The pieces of a text that is to be an attribute's value: a literal without its quotes, or the
text of an entity. `after` is what follows the text; a reference begun is kept with the text from
its ampersand on. -/
def pieces (after : List Char) (begun : Option (Partial × List Char)) : List Char → List Piece
  | [] =>
    match begun with
    | none => []
    | some (_, ampersand) => [.bad (ampersand ++ after)]
  | c :: cs =>
    match begun with
    | none =>
      if c = '&' then pieces after (some (.start, c :: cs)) cs
      else if c = '<' then [.bad (c :: cs ++ after)]
      else if c = '\r' && cs.head? == some '\n' then .halfLineEnd :: pieces after none cs
      else if isSpace c then .blank :: pieces after none cs
      else .char c :: pieces after none cs
    | some (p, ampersand) =>
      match p.next c with
      | none => [.bad (c :: cs ++ after)]
      | some (.inl more) => pieces after (some (more, ampersand)) cs
      | some (.inr r) => .reference r (ampersand ++ after) :: pieces after none cs

/-- Why a value is none. The place is known only for what stands in the document itself; the rest is
reported where the tag or the literal begins. -/
structure ValueBreach where
  problem : Problem
  left : Option (List Char)

def ValueBreach.breach (v : ValueBreach) (start : List Char) : Breach :=
  ⟨v.problem, v.left.getD start⟩

/-- An entity that cannot be put in; `direct` if the entity itself is at fault and not its text. -/
structure EntityBreach where
  problem : Problem
  direct : Bool

/-- The characters of a value; `expand` gives those of an entity. Where `lineEnds` are joined, a
carriage return and a line feed are one blank. -/
def fillPieces (lineEnds : Bool) (expand : String → Except EntityBreach (List Char)) :
    List Piece → Except ValueBreach (List Char)
  | [] => return []
  | .char c :: rest => return c :: (← fillPieces lineEnds expand rest)
  | .blank :: rest => return ' ' :: (← fillPieces lineEnds expand rest)
  | .halfLineEnd :: rest => do
    let cs ← fillPieces lineEnds expand rest
    return if lineEnds then cs else ' ' :: cs
  | .bad left :: _ => throw ⟨.invalidToken, some left⟩
  | .reference (.number (some c)) _ :: rest => return c :: (← fillPieces lineEnds expand rest)
  | .reference (.number none) left :: _ => throw ⟨.badCharacterNumber, some left⟩
  | .reference (.entity name) left :: rest =>
    match predefined? name with
    | some c => return c :: (← fillPieces lineEnds expand rest)
    | none =>
      match expand name with
      | .error e => throw ⟨e.problem, if e.direct then some left else none⟩
      | .ok cs => return cs ++ (← fillPieces lineEnds expand rest)

/-- The characters that an entity stands for in a value. `opened` are the entities whose text is
being read; `depth` bounds how many more can be opened. -/
def entityChars (d : Dtd) (depth : Nat) (opened : List String) (name : String) :
    Except EntityBreach (List Char) :=
  match depth with
  | 0 => throw ⟨.recursiveEntity, false⟩
  | depth + 1 =>
    match d.entities.lookup name with
    | none => if d.knowsAll then throw ⟨.undefinedEntity, false⟩ else return []
    | some entity =>
      if opened.contains name then throw ⟨.recursiveEntity, false⟩
      else
        match entity with
        | .unparsed => throw ⟨.binaryEntity, true⟩
        | .external => throw ⟨.externalEntityInAttribute, true⟩
        | .internal text =>
          match fillPieces false (entityChars d depth (name :: opened)) (pieces [] none text) with
          | .ok cs => return cs
          | .error v => throw ⟨v.problem, false⟩

/-- Drops the spaces at both ends and all but one of every run; `pending` says that a space has been
read after a character that was kept. -/
def squeezeFrom (kept pending : Bool) : List Char → List Char
  | [] => []
  | c :: cs =>
    if c = ' ' then squeezeFrom kept kept cs
    else if pending then ' ' :: c :: squeezeFrom true false cs
    else c :: squeezeFrom true false cs

def squeeze (cs : List Char) : List Char :=
  squeezeFrom false false cs

/-- How deep entities can be opened inside each other. -/
def depth (d : Dtd) : Nat :=
  d.entities.length + 1

/-- The value of an attribute from its pieces. Line ends are joined in the document itself; in the
text of an entity they have been. -/
def attributeValue (d : Dtd) (opened : List String) (plain : Bool) (ps : List Piece) :
    Except ValueBreach String := do
  let cs ← fillPieces opened.isEmpty (d.entityChars d.depth opened) ps
  return String.ofList (if plain then cs else squeeze cs)

/-! ## Texts of entities -/

/-- What a percent sign in an entity's text means: a reference that may not stand there, or no token
at all. `inName` says that the characters read are a name. -/
def percentBreach (after percent : List Char) (inName : Bool) : List Char → Breach
  | [] => ⟨.invalidToken, percent ++ after⟩
  | c :: cs =>
    if inName && c = ';' then ⟨.parameterEntity, percent ++ after⟩
    else if (if inName then isNameChar c else isNameStart c) then
      percentBreach after percent true cs
    else ⟨.invalidToken, c :: cs ++ after⟩

/-- The text that a literal declares: character references are resolved and references to entities
are kept for later. A reference begun is kept with the text from its ampersand on and with its
characters so far, the last one first. -/
def entityText (after : List Char) (begun : Option (Partial × List Char × List Char)) :
    List Char → Except Breach (List Char)
  | [] =>
    match begun with
    | none => return []
    | some (_, ampersand, _) => throw ⟨.invalidToken, ampersand ++ after⟩
  | c :: cs =>
    match begun with
    | none =>
      if c = '&' then entityText after (some (.start, c :: cs, [c])) cs
      else if c = '%' then throw (percentBreach after (c :: cs) false cs)
      else if c = '\r' then
        if cs.head? = some '\n' then entityText after none cs
        else return '\n' :: (← entityText after none cs)
      else return c :: (← entityText after none cs)
    | some (p, ampersand, read) =>
      match p.next c with
      | none => throw ⟨.invalidToken, c :: cs ++ after⟩
      | some (.inl more) => entityText after (some (more, ampersand, c :: read)) cs
      | some (.inr (.number (some n))) => return n :: (← entityText after none cs)
      | some (.inr (.number none)) => throw ⟨.badCharacterNumber, ampersand ++ after⟩
      | some (.inr (.entity _)) => return (c :: read).reverse ++ (← entityText after none cs)

end Dtd

end Pamphlet.Markup
