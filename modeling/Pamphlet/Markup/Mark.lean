import Pamphlet.Markup.Scan

/-!
# Marks of the prolog

What stands before the root: the tokens of which the document type declaration and the declarations
inside it are built. A text is read into marks up to the angle that opens the root, where content
begins; `Mark.scan` reads one.
-/

namespace Pamphlet.Markup

open Scanner

inductive Mark
  | space
  | declaration
  | instruction
  | comment
  /-- The angle, mark and keyword that open a declaration. -/
  | opening (keyword : String)
  | closing
  | name (text : String)
  /-- A name with one colon inside. -/
  | prefixed (text : String)
  /-- Characters of names that form none. -/
  | nameToken (text : String)
  /-- A name and the sign that says how often it may occur. -/
  | repeated
  | hashName (text : String)
  /-- A quoted text without its quotes, and the text left from its closing quote on. -/
  | literal (text after : List Char)
  | parameter
  | percent
  | openBracket
  | closeBracket
  | openSection
  | closeSection
  | openParen
  | closeParen (sign : Option Char)
  | bar
  | comma
  /-- The angle that opens the root, which is not taken. -/
  | root

/-- What the characters of a name read so far form. -/
inductive NameShape
  | plain
  | prefixed
  | token
  deriving DecidableEq

def NameShape.mark : NameShape → List Char → Mark
  | .plain, cs => .name (String.ofList cs)
  | .prefixed, cs => .prefixed (String.ofList cs)
  | .token, cs => .nameToken (String.ofList cs)

def endsName (c : Char) : Bool :=
  isSpace c || ['>', ')', ',', '|', '[', '%'].contains c

def isSign (c : Char) : Bool :=
  c == '?' || c == '*' || c == '+'

/-- The shape that a colon leads to, by the character after it. -/
def NameShape.afterColon : NameShape → Option Char → Except Stop NameShape
  | .plain, none => .error .short
  | .plain, some c =>
    if isNameChar c then .ok .prefixed
    else if c = truncated then .error .cut
    else .ok .token
  | _, _ => .ok .token

namespace Mark

/-- The rest of a name; `read` holds its characters, the last one first. -/
def nameFrom (shape : NameShape) (read : List Char) : Scanner Mark
  | [] => .ok (shape.mark read.reverse, [])
  | c :: cs =>
    if isNameChar c then nameFrom shape (c :: read) cs
    else if endsName c then .ok (shape.mark read.reverse, c :: cs)
    else if c = ':' then
      match shape.afterColon cs.head? with
      | .error stop => .error stop
      | .ok shape => nameFrom shape (c :: read) cs
    else if isSign c && shape ≠ .token then .ok (.repeated, cs)
    else .error (stopAt c cs)

/-- The keyword of a declaration, up to a blank or a percent sign with a name after it. -/
def keywordFrom (read : List Char) : Scanner Mark
  | [] => .error .short
  | c :: cs =>
    if c.isAlpha ∨ c = '_' then keywordFrom (c :: read) cs
    else if isSpace c then .ok (.opening (String.ofList read.reverse), c :: cs)
    else if c = '%' then
      match cs with
      | [] => .error .short
      | d :: _ =>
        if isSpace d ∨ d = '%' then .error (.invalid (c :: cs))
        else .ok (.opening (String.ofList read.reverse), c :: cs)
    else .error (.invalid (c :: cs))

/-- A quoted text after its first quote. -/
def literalFrom (quote : Char) (read : List Char) : Scanner Mark
  | [] => .error .short
  | c :: cs =>
    if c = quote then
      match cs with
      | [] => .ok (.literal read.reverse (c :: cs), cs)
      | d :: _ =>
        if isSpace d ∨ ['>', '%', '['].contains d then .ok (.literal read.reverse (c :: cs), cs)
        else .error (.invalid cs)
    else if isXmlChar c then literalFrom quote (c :: read) cs
    else .error (stopAt c cs)

def hashNameFrom (read : List Char) : Scanner Mark
  | [] => .ok (.hashName (String.ofList read.reverse), [])
  | c :: cs =>
    if isNameChar c then hashNameFrom (c :: read) cs
    else if isSpace c ∨ [')', '>', '%', '|'].contains c then
      .ok (.hashName (String.ofList read.reverse), c :: cs)
    else .error (stopAt c cs)

/-- The name of a parameter entity, up to and with its semicolon. -/
def parameterFrom : Scanner Mark
  | [] => .error .short
  | c :: cs =>
    if isNameChar c then parameterFrom cs
    else if c = ';' then .ok (.parameter, cs)
    else .error (stopAt c cs)

def percentFrom : Scanner Mark
  | [] => .error .short
  | c :: cs =>
    if isNameStart c then parameterFrom cs
    else if isSpace c ∨ c = '%' then .ok (.percent, c :: cs)
    else .error (stopAt c cs)

def closeParenFrom : Scanner Mark
  | [] => .ok (.closeParen none, [])
  | c :: cs =>
    if isSign c then .ok (.closeParen (some c), cs)
    else if isSpace c ∨ ['>', ',', '|', ')'].contains c then .ok (.closeParen none, c :: cs)
    else .error (.invalid (c :: cs))

def hashFrom : Scanner Mark := do
  let c ← nameStart
  hashNameFrom [c]

def declarationFrom : Scanner Mark
  | [] => .error .short
  | '-' :: cs => (do let _ ← Scanner.comment; return .comment : Scanner Mark) cs
  | '[' :: cs => .ok (.openSection, cs)
  | c :: cs =>
    if c.isAlpha ∨ c = '_' then keywordFrom [c] cs else .error (.invalid (c :: cs))

def instructionFrom : Scanner Mark := do
  let (target, _) ← Scanner.instruction
  return if target = "xml" then .declaration else .instruction

/-- The mark at the front of a text that is not empty. -/
def front : Scanner Mark
  | [] => .error .short
  | '<' :: [] => .error .short
  | '<' :: '!' :: cs => declarationFrom cs
  | '<' :: '?' :: cs => instructionFrom cs
  | '<' :: c :: cs =>
    if c.isAlpha ∨ c = '_' ∨ 128 ≤ c.toNat then .ok (.root, '<' :: c :: cs)
    else .error (.invalid (c :: cs))
  | ']' :: ']' :: [] => .error .short
  | ']' :: ']' :: '>' :: cs => .ok (.closeSection, cs)
  | ']' :: cs => .ok (.closeBracket, cs)
  | '"' :: cs => literalFrom '"' [] cs
  | '\'' :: cs => literalFrom '\'' [] cs
  | '%' :: cs => percentFrom cs
  | ',' :: cs => .ok (.comma, cs)
  | '[' :: cs => .ok (.openBracket, cs)
  | '(' :: cs => .ok (.openParen, cs)
  | ')' :: cs => closeParenFrom cs
  | '|' :: cs => .ok (.bar, cs)
  | '>' :: cs => .ok (.closing, cs)
  | '#' :: cs => hashFrom cs
  | c :: cs =>
    if isSpace c then .ok (.space, cs.dropWhile isSpace)
    else if isNameStart c then nameFrom .plain [c] cs
    else if isNameChar c ∨ c = ':' then nameFrom .token [c] cs
    else .error (stopAt c cs)

def scan (s : List Char) : Except Breach (Mark × List Char) :=
  match front s with
  | .ok result => .ok result
  | .error stop => .error (stop.breach s)

end Mark

/-- A mark with the text left where it starts and where it ends, or the breach that ends the
prolog. -/
inductive MarkLexeme
  | mark (m : Mark) (start after : List Char)
  | broken (b : Breach)

/-- The marks of a text up to its root; `count` bounds their number. -/
def marksUpTo (count : Nat) (s : List Char) : List MarkLexeme :=
  match count, s with
  | 0, _ => []
  | _, [] => []
  | count + 1, s =>
    match Mark.scan s with
    | .error b => [.broken b]
    | .ok (.root, rest) => [.mark .root s rest]
    | .ok (m, rest) => .mark m s rest :: marksUpTo count rest

/-- The marks of a text. A text has no more of them than characters. -/
def marks (s : List Char) : List MarkLexeme :=
  marksUpTo s.length s

end Pamphlet.Markup
