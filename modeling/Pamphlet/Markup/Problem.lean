/-!
# What is wrong with a document

A `Problem` is a reason why a text is no document. A `Breach` is a problem at a place in the text
being read, the place given by what is left of the text there; `Breach.position` counts lines and
columns up to it.
-/

namespace Pamphlet.Markup

inductive Problem
  | noElement
  | badSyntax
  | invalidToken
  | unclosedToken
  | partialCharacter
  | mismatchedTag
  | duplicateAttribute
  | junkAfterRoot
  | parameterEntity
  | undefinedEntity
  | skippedEntity (name : String)
  | recursiveEntity
  | asynchronousEntity
  | badCharacterNumber
  | binaryEntity
  | externalEntityInAttribute
  | misplacedDeclaration
  | unknownEncoding
  | incorrectEncoding
  | unclosedCdata
  | badDeclaration
  | unboundPrefix
  | undeclaredPrefix
  | reservedXml
  | reservedXmlns
  | reservedNamespace
  | badPublicId
  deriving DecidableEq, Repr

/-- At most `budget` bytes of a text, by whole characters; a character that does not fit whole is
replaced. -/
def clip (budget : Nat) : List Char → List Char
  | [] => []
  | c :: cs =>
    if c.utf8Size ≤ budget then c :: clip (budget - c.utf8Size) cs
    else if budget = 0 then [] else ['\uFFFD']

def Problem.text : Problem → String
  | .noElement => "no element found"
  | .badSyntax => "syntax error"
  | .invalidToken => "not well-formed (invalid token)"
  | .unclosedToken => "unclosed token"
  | .partialCharacter => "partial character"
  | .mismatchedTag => "mismatched tag"
  | .duplicateAttribute => "duplicate attribute"
  | .junkAfterRoot => "junk after document element"
  | .parameterEntity => "illegal parameter entity reference"
  | .undefinedEntity => "undefined entity"
  | .skippedEntity name =>
    "undefined entity " ++ String.ofList (clip 100 ('&' :: name.toList ++ [';']))
  | .recursiveEntity => "recursive entity reference"
  | .asynchronousEntity => "asynchronous entity"
  | .badCharacterNumber => "reference to invalid character number"
  | .binaryEntity => "reference to binary entity"
  | .externalEntityInAttribute => "reference to external entity in attribute"
  | .misplacedDeclaration => "XML or text declaration not at start of entity"
  | .unknownEncoding => "unknown encoding"
  | .incorrectEncoding => "encoding specified in XML declaration is incorrect"
  | .unclosedCdata => "unclosed CDATA section"
  | .badDeclaration => "XML declaration not well-formed"
  | .unboundPrefix => "unbound prefix"
  | .undeclaredPrefix => "must not undeclare prefix"
  | .reservedXml =>
    "reserved prefix (xml) must not be undeclared or bound to another namespace name"
  | .reservedXmlns => "reserved prefix (xmlns) must not be declared or undeclared"
  | .reservedNamespace => "prefix must not be bound to one of the reserved namespace names"
  | .badPublicId => "illegal character(s) in public id"

/-- A problem, with what is left of the text where it stands. -/
structure Breach where
  problem : Problem
  left : List Char

/-- A line, counted from one, and a column in it, counted from zero. -/
structure Position where
  line : Nat
  column : Nat
  deriving DecidableEq, Repr

/-- Where a text ends that starts at a position. A line feed, a carriage return and the pair of them
each end one line. -/
def Position.after (p : Position) : List Char → Position
  | [] => p
  | '\r' :: '\n' :: cs => Position.after ⟨p.line + 1, 0⟩ cs
  | c :: cs =>
    if c = '\n' ∨ c = '\r' then Position.after ⟨p.line + 1, 0⟩ cs
    else Position.after ⟨p.line, p.column + 1⟩ cs

def Breach.position (b : Breach) (whole : List Char) : Position :=
  Position.after ⟨1, 0⟩ (whole.take (whole.length - b.left.length))

/-- A problem at a position in a whole document. -/
structure Complaint where
  problem : Problem
  position : Position
  deriving DecidableEq, Repr

def Complaint.text (c : Complaint) : String :=
  s!"{c.problem.text}: line {c.position.line}, column {c.position.column}"

end Pamphlet.Markup
