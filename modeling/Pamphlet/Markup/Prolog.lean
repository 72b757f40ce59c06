import Pamphlet.Markup.Dtd
import Pamphlet.Markup.Mark

/-!
# The prolog

The grammar of what stands before the root: at most one document type declaration, with entity,
attribute, element and format declarations inside. A `State` is what the grammar expects next, and
`State.next` takes one mark; blanks may stand between any two marks. The first mark that is not
expected is the error of the whole document (`unexpected`).
-/

namespace Pamphlet.Markup

open Scanner

/-- The entity that a declaration is about. A general one counts unless it has been declared
before; a parameter entity is never put in, so its text is only checked. -/
inductive Target
  | general (name : String) (counts : Bool)
  | parameter

/-- What the grammar expects. -/
inductive State
  | misc (typeAllowed : Bool)
  | typeName
  | typeBody
  | typePublic
  | typeSystem
  | typeEnd
  | subset
  | afterSubset
  | close
  | entity
  | parameterEntity
  | entityBody (t : Target)
  | entityPublic (t : Target)
  | entitySystem (t : Target)
  | entityEnd (t : Target)
  | entityFormat (t : Target)
  | format
  | formatBody
  | formatPublic
  | formatSystem
  | formatEnd
  | rules
  | rulesBody (element : String)
  | ruleType (element name : String)
  | ruleChoice (element name : String) (formats : Bool)
  | ruleChoiceEnd (element name : String) (formats : Bool)
  | ruleFormats (element name : String)
  | ruleDefault (element name : String) (plain : Bool)
  | ruleFixed (element name : String) (plain : Bool)
  | model
  | modelBody
  | groupFirst
  | mixed
  | mixedName
  | mixedMore
  /-- Inside groups, each with the sign that joins its members once one is seen. -/
  | group (joins : List (Option Char))
  | groupMore (joins : List (Option Char))

def Target.declare (t : Target) (d : Dtd) (entity : Entity) : Dtd :=
  match t with
  | .general name true => d.declare name entity
  | _ => d

/-- The entity is no markup after all. -/
def Target.markUnparsed (t : Target) (d : Dtd) : Dtd :=
  match t with
  | .general name true => d.markUnparsed name
  | _ => d

namespace State

/-- Characters of public identifiers. -/
def isPublicIdChar (c : Char) : Bool :=
  c.isAlphanum || " \r\n-'()+,./:=?;!*#@$_%".toList.contains c

/-- The check of a public identifier, which is quoted in a document that goes on with `after`. -/
def checkPublicId (after : List Char) : List Char → Except Breach Unit
  | [] => return ()
  | c :: cs =>
    if isPublicIdChar c then checkPublicId after cs
    else throw ⟨.badPublicId, c :: cs ++ after⟩

def unexpected (m : Mark) (start : List Char) : Breach :=
  match m with
  | .parameter => ⟨.parameterEntity, start⟩
  | .declaration => ⟨.misplacedDeclaration, start⟩
  | _ => ⟨.badSyntax, start⟩

/-- The declaration that a keyword opens. -/
def ofKeyword? (keyword : String) : Option State :=
  if keyword = "ENTITY" then some .entity
  else if keyword = "ATTLIST" then some .rules
  else if keyword = "ELEMENT" then some .model
  else if keyword = "NOTATION" then some .format
  else none

/-- Types of attributes other than plain character data and enumerations. -/
def tokenTypes : List String :=
  ["ID", "IDREF", "IDREFS", "ENTITY", "ENTITIES", "NMTOKEN", "NMTOKENS"]

/-- Where an address begins: after a word that announces a system or a public identifier. -/
def address? (word : String) (atSystem atPublic : State) : Option State :=
  if word = "SYSTEM" then some atSystem
  else if word = "PUBLIC" then some atPublic
  else none

/-- Declares the text of an entity, which is checked in any case. -/
def declareText (d : Dtd) (t : Target) (text after : List Char) : Except Breach Dtd := do
  if !d.counting then return d
  let text ← Dtd.entityText after none text
  return t.declare d (.internal text)

/-- Gives an attribute its rule with the default that a literal writes. -/
def declareDefault (d : Dtd) (element name : String) (plain : Bool)
    (start text after : List Char) : Except Breach Dtd := do
  if !d.counting then return d
  match d.attributeValue [] plain (Dtd.pieces after none text) with
  | .error v => throw (v.breach start)
  | .ok value => return d.addRule element ⟨name, plain, some value⟩

/-- After a member of the innermost group: the sign that joins it to the next one. -/
def joined (joins : List (Option Char)) (sign : Char) : Option State :=
  match joins with
  | [] => none
  | join :: outer =>
    if join = none ∨ join = some sign then some (.group (some sign :: outer)) else none

/-- After a parenthesis that closes the innermost group. -/
def closed : List (Option Char) → State
  | _ :: outer => if outer.isEmpty then .close else .groupMore outer
  | [] => .close

/-- The state after a mark that only moves the grammar on, if it is expected. -/
def moved? : State → Mark → Option State
  | s, .space => some s
  | .misc b, .instruction => some (.misc b)
  | .misc b, .comment => some (.misc b)
  | .misc true, .opening keyword => if keyword = "DOCTYPE" then some .typeName else none
  | .typeName, .name _ => some .typeBody
  | .typeName, .prefixed _ => some .typeBody
  | .typeBody, .openBracket => some .subset
  | .typeBody, .closing => some (.misc false)
  | .typeBody, .name word => address? word .typeSystem .typePublic
  | .typeEnd, .openBracket => some .subset
  | .typeEnd, .closing => some (.misc false)
  | .subset, .opening keyword => ofKeyword? keyword
  | .subset, .instruction => some .subset
  | .subset, .comment => some .subset
  | .subset, .closeBracket => some .afterSubset
  | .afterSubset, .closing => some (.misc false)
  | .close, .closing => some .subset
  | .entity, .percent => some .parameterEntity
  | .parameterEntity, .name _ => some (.entityBody .parameter)
  | .entityBody t, .name word => address? word (.entitySystem t) (.entityPublic t)
  | .entityEnd _, .closing => some .subset
  | .entityEnd (.general name counts), .name word =>
    if word = "NDATA" then some (.entityFormat (.general name counts)) else none
  | .format, .name _ => some .formatBody
  | .formatBody, .name word => address? word .formatSystem .formatPublic
  | .formatSystem, .literal .. => some .close
  | .formatEnd, .literal .. => some .close
  | .formatEnd, .closing => some .subset
  | .rules, .name element => some (.rulesBody element)
  | .rules, .prefixed element => some (.rulesBody element)
  | .rulesBody _, .closing => some .subset
  | .rulesBody element, .name name => some (.ruleType element name)
  | .rulesBody element, .prefixed name => some (.ruleType element name)
  | .ruleType element name, .name word =>
    if word = "CDATA" then some (.ruleDefault element name true)
    else if word = "NOTATION" then some (.ruleFormats element name)
    else if tokenTypes.contains word then some (.ruleDefault element name false)
    else none
  | .ruleType element name, .openParen => some (.ruleChoice element name false)
  | .ruleFormats element name, .openParen => some (.ruleChoice element name true)
  | .ruleChoice element name formats, .name _ => some (.ruleChoiceEnd element name formats)
  | .ruleChoice element name false, .prefixed _ => some (.ruleChoiceEnd element name false)
  | .ruleChoice element name false, .nameToken _ => some (.ruleChoiceEnd element name false)
  | .ruleChoiceEnd element name _, .closeParen none => some (.ruleDefault element name false)
  | .ruleChoiceEnd element name formats, .bar => some (.ruleChoice element name formats)
  | .ruleDefault element name plain, .hashName word =>
    if word = "FIXED" then some (.ruleFixed element name plain) else none
  | .model, .name _ => some .modelBody
  | .model, .prefixed _ => some .modelBody
  | .modelBody, .name word => if word = "EMPTY" ∨ word = "ANY" then some .close else none
  | .modelBody, .openParen => some .groupFirst
  | .groupFirst, .hashName word => if word = "PCDATA" then some .mixed else none
  | .groupFirst, .openParen => some (.group [none, none])
  | .groupFirst, .name _ => some (.groupMore [none])
  | .groupFirst, .prefixed _ => some (.groupMore [none])
  | .groupFirst, .repeated => some (.groupMore [none])
  | .mixed, .closeParen none => some .close
  | .mixed, .closeParen (some '*') => some .close
  | .mixed, .bar => some .mixedName
  | .mixedName, .name _ => some .mixedMore
  | .mixedName, .prefixed _ => some .mixedMore
  | .mixedMore, .closeParen (some '*') => some .close
  | .mixedMore, .bar => some .mixedName
  | .group joins, .openParen => some (.group (none :: joins))
  | .group joins, .name _ => some (.groupMore joins)
  | .group joins, .prefixed _ => some (.groupMore joins)
  | .group joins, .repeated => some (.groupMore joins)
  | .groupMore joins, .closeParen _ => some (closed joins)
  | .groupMore joins, .comma => joined joins ','
  | .groupMore joins, .bar => joined joins '|'
  | _, _ => none

/-- The state after a mark, and what is declared with it. -/
def next (d : Dtd) (s : State) (m : Mark) (start : List Char) : Except Breach (Dtd × State) :=
  match s, m with
  | .typePublic, .literal text after => do
    checkPublicId after text
    return (d, .typeSystem)
  | .typeSystem, .literal .. => return ({ d with partlyElsewhere := true }, .typeEnd)
  | .subset, .parameter =>
    return ({ d with partlyElsewhere := true, counting := d.standalone }, .subset)
  | .entity, .name name => return (d, .entityBody (.general name (d.isOpen name)))
  | .entityBody t, .literal text after => return (← declareText d t text after, .close)
  | .entityPublic t, .literal text after => do
    checkPublicId after text
    return (d, .entitySystem t)
  | .entitySystem t, .literal .. => return (t.declare d .external, .entityEnd t)
  | .entityFormat t, .name _ => return (t.markUnparsed d, .close)
  | .formatPublic, .literal text after => do
    checkPublicId after text
    return (d, .formatEnd)
  | .ruleDefault element name plain, .literal text after =>
    return (← declareDefault d element name plain start text after, .rulesBody element)
  | .ruleFixed element name plain, .literal text after =>
    return (← declareDefault d element name plain start text after, .rulesBody element)
  | .ruleDefault element name plain, .hashName word =>
    if word = "IMPLIED" ∨ word = "REQUIRED" then
      return (d.addRule element ⟨name, plain, none⟩, .rulesBody element)
    else
      match s.moved? m with
      | some s => return (d, s)
      | none => throw (unexpected m start)
  | s, m =>
    match s.moved? m with
    | some s => return (d, s)
    | none => throw (unexpected m start)

end State

/-- Reads the marks up to the root: what is declared, and the text from the root's angle on. -/
def readProlog (d : Dtd) (s : State) : List MarkLexeme → Except Breach (Dtd × List Char)
  | [] => throw ⟨.noElement, []⟩
  | .broken b :: _ => throw b
  | .mark .root start _ :: rest =>
    match s with
    | .misc _ => return (d, start)
    | s => do
      let (d, s) ← s.next d .root start
      readProlog d s rest
  | .mark m start _ :: rest => do
    let (d, s) ← s.next d m start
    readProlog d s rest

end Pamphlet.Markup
