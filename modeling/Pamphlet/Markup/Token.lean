import Pamphlet.Markup.Scan

/-!
# Tokens of content

What stands between the root's first tag and its last: tags, character data, references, comments,
instructions and sections of raw text. `tokens` reads a text into lexemes; every lexeme remembers
the text left where it starts and where it ends, and a text that stops being content ends in a
`broken` lexeme.
-/

namespace Pamphlet.Markup

open Scanner

/-- A piece of an attribute's value as it is written; `bad` stands where a value stops being one. A
carriage return before a line feed is a piece of its own, since it counts in the text of an entity
only. A reference remembers where its ampersand stands. -/
inductive Piece
  | char (c : Char)
  | blank
  | halfLineEnd
  | reference (r : Reference) (left : List Char)
  | bad (left : List Char)

/-- An attribute as it is written; `left` is where its name stands. -/
structure RawAttribute where
  name : String
  value : List Piece
  left : List Char

inductive Token
  | opening (name : String) (attributes : List RawAttribute) (empty : Bool)
  | closing (name : String) (left : List Char)
  | data (text : List Char)
  | reference (r : Reference)
  | comment (text : String)
  | instruction (target : String) (data : List Char)
  | declaration

inductive Lexeme
  | token (t : Token) (start after : List Char)
  | broken (b : Breach)

/-! ## Tags -/

/-- Where in a tag the scan is. A value is collected from its last piece to its first. -/
inductive TagState
  /-- After a blank: an attribute or the end of the tag. -/
  | gap
  | inName (read : List Char) (colonSeen : Bool) (left : List Char)
  | afterColon (read : List Char) (left : List Char)
  | afterName (name : String) (left : List Char)
  | beforeValue (name : String) (left : List Char)
  | inValue (name : String) (left : List Char) (quote : Char) (pieces : List Piece)
  | inReference (name : String) (left : List Char) (quote : Char) (pieces : List Piece)
      (ampersand : List Char) (p : Partial)
  | afterValue
  | slash

def nameOf (read : List Char) : String :=
  String.ofList read.reverse

/-- What a tag becomes with one more character. -/
inductive TagStep
  | go (state : TagState)
  | attribute (a : RawAttribute)
  | finish (empty : Bool)
  | stop (s : Stop)

namespace TagState

/-- A character where an attribute or the end of a tag is expected. -/
def atGap (c : Char) (cs : List Char) : TagStep :=
  if isSpace c then .go .gap
  else if c = '>' then .finish false
  else if c = '/' then .go .slash
  else if isNameStart c then .go (.inName [c] false (c :: cs))
  else .stop (stopAt c cs)

/-- A character of an attribute's value. -/
def atValue (name : String) (left : List Char) (quote : Char) (pieces : List Piece)
    (c : Char) (cs : List Char) : TagStep :=
  if c = quote then .attribute ⟨name, pieces.reverse, left⟩
  else if c = '&' then .go (.inReference name left quote pieces (c :: cs) .start)
  else if c = '<' then .stop (.invalid (c :: cs))
  else if c = '\r' && cs.head? == some '\n' then
    .go (.inValue name left quote (.halfLineEnd :: pieces))
  else if isSpace c then .go (.inValue name left quote (.blank :: pieces))
  else if isXmlChar c then .go (.inValue name left quote (.char c :: pieces))
  else .stop (stopAt c cs)

def next (state : TagState) (c : Char) (cs : List Char) : TagStep :=
  match state with
  | .gap => atGap c cs
  | .inName read colonSeen left =>
    if isNameChar c then .go (.inName (c :: read) colonSeen left)
    else if c = ':' then
      if colonSeen then .stop (.invalid (c :: cs)) else .go (.afterColon (c :: read) left)
    else if isSpace c then .go (.afterName (nameOf read) left)
    else if c = '=' then .go (.beforeValue (nameOf read) left)
    else .stop (stopAt c cs)
  | .afterColon read left =>
    if isNameStart c then .go (.inName (c :: read) true left) else .stop (stopAt c cs)
  | .afterName name left =>
    if isSpace c then .go (.afterName name left)
    else if c = '=' then .go (.beforeValue name left)
    else .stop (.invalid (c :: cs))
  | .beforeValue name left =>
    if isSpace c then .go (.beforeValue name left)
    else if c = '"' ∨ c = '\'' then .go (.inValue name left c [])
    else .stop (.invalid (c :: cs))
  | .inValue name left quote pieces => atValue name left quote pieces c cs
  | .inReference name left quote pieces ampersand p =>
    match p.next c with
    | none => .stop (p.stopAt c cs)
    | some (.inl more) => .go (.inReference name left quote pieces ampersand more)
    | some (.inr r) => .go (.inValue name left quote (.reference r ampersand :: pieces))
  | .afterValue =>
    if isSpace c then .go .gap
    else if c = '>' then .finish false
    else if c = '/' then .go .slash
    else .stop (.invalid (c :: cs))
  | .slash => if c = '>' then .finish true else .stop (.invalid (c :: cs))

end TagState

/-- The attributes of a tag and whether it closes itself. -/
def tagRest (state : TagState) : Scanner (List RawAttribute × Bool)
  | [] => .error .short
  | c :: cs =>
    match state.next c cs with
    | .go state => tagRest state cs
    | .attribute a => do
      let ((attributes, empty), rest) ← tagRest .afterValue cs
      return ((a :: attributes, empty), rest)
    | .finish empty => .ok (([], empty), cs)
    | .stop s => .error s

/-- A tag that opens an element, after its angle. -/
def openingTag : Scanner Token := do
  let name ← qualifiedName
  let (attributes, empty) ← tagRest .afterValue
  return .opening name attributes empty

/-- The name in a tag that closes an element; colons are not looked at, since the name has to be
that of the opening tag. -/
def closingName : Scanner (List Char)
  | [] => .error .short
  | c :: cs =>
    if isNameChar c ∨ c = ':' then do
      let (name, rest) ← closingName cs
      return (c :: name, rest)
    else if c = truncated then .error .cut
    else .ok ([], c :: cs)

def closingEnd : Scanner Unit
  | [] => .error .short
  | c :: cs =>
    if c = '>' then .ok ((), cs)
    else if isSpace c then closingEnd cs
    else .error (.invalid (c :: cs))

/-- A tag that closes an element, after its angle and slash. -/
def closingTag : Scanner Token := do
  let left ← get
  let c ← nameStart
  let name ← closingName
  closingEnd
  return .closing (String.ofList (c :: name)) left

/-! ## Character data -/

/-- Character data up to the next markup or the end. Two brackets and an angle may not stand in
it. -/
def dataRun : List Char → Except Breach (List Char × List Char)
  | [] => .ok ([], [])
  | ']' :: ']' :: '>' :: cs => .error ⟨.invalidToken, '>' :: cs⟩
  | c :: cs =>
    if c = '<' ∨ c = '&' then .ok ([], c :: cs)
    else if isXmlChar c then do
      let (text, rest) ← dataRun cs
      return (c :: text, rest)
    else .error ((stopAt c cs).breach (c :: cs))

/-- The last characters of an unclosed section that could have begun something. -/
def unclosedTail (cs : List Char) : Bool :=
  cs = [']'] ∨ cs = [']', ']'] ∨ cs = ['\r'] ∨ cs = []

/-- The text of a section of raw text, up to and with its end. -/
def cdataText : List Char → Except Breach (List Char × List Char)
  | [] => .error ⟨.unclosedCdata, []⟩
  | ']' :: ']' :: '>' :: cs => .ok ([], cs)
  | c :: cs =>
    if unclosedTail (c :: cs) then .error ⟨.unclosedCdata, c :: cs⟩
    else if isXmlChar c then do
      let (text, rest) ← cdataText cs
      return (c :: text, rest)
    else .error ((stopAt c cs).breach (c :: cs))

/-- The characters that open a section of raw text after the angle, the mark and the bracket. -/
def cdataOpening : List Char :=
  ['C', 'D', 'A', 'T', 'A', '[']

/-- The rest of a text after given characters. -/
def expect : List Char → Scanner Unit
  | [], cs => .ok ((), cs)
  | _ :: _, [] => .error .short
  | e :: es, c :: cs => if c = e then expect es cs else .error (.invalid (c :: cs))

/-- Bytes of a text, up to the number that decides whether a section of raw text can open. -/
def bytesUpTo (limit : Nat) : List Char → Nat
  | [] => 0
  | c :: cs => if limit = 0 then 0 else c.utf8Size + bytesUpTo (limit - 1) cs

/-- A section of raw text after its angle, mark and bracket. The opening is not looked at before
there are as many bytes as it has. -/
def cdata (start cs : List Char) : Except Breach (Token × List Char) :=
  if bytesUpTo 6 cs < 6 then .error (Stop.short.breach start)
  else
    match expect cdataOpening cs with
    | .error stop => .error (stop.breach start)
    | .ok (_, cs) => do
      let (text, rest) ← cdataText cs
      return (.data text, rest)

/-! ## All tokens -/

def dropSpaces (cs : List Char) : List Char :=
  cs.dropWhile isSpace

def instructionToken : Scanner Token := do
  let (target, text) ← instruction
  if target = "xml" then return .declaration
  else return .instruction target (normalizeLines (dropSpaces text))

/-- Runs a scanner on what follows the front of a token. -/
def scanned (start : List Char) (scanner : Scanner Token) (cs : List Char) :
    Except Breach (Token × List Char) :=
  match scanner cs with
  | .ok result => .ok result
  | .error stop => .error (stop.breach start)

/-- The token at the front of a text that is not empty. -/
def token (s : List Char) : Except Breach (Token × List Char) :=
  match s with
  | '<' :: '/' :: cs => scanned s closingTag cs
  | '<' :: '!' :: '-' :: cs => scanned s (Token.comment <$> comment) cs
  | '<' :: '!' :: '[' :: cs => cdata s cs
  | '<' :: '!' :: cs => scanned s (do let _ ← one fun _ => false; return .data []) cs
  | '<' :: '?' :: cs => scanned s instructionToken cs
  | '<' :: cs => scanned s openingTag cs
  | '&' :: cs => scanned s (Token.reference <$> reference .start) cs
  | cs => do
    let (text, rest) ← dataRun cs
    return (.data text, rest)

/-- The lexemes of a text; `count` bounds their number. -/
def tokensUpTo (count : Nat) (s : List Char) : List Lexeme :=
  match count, s with
  | 0, _ => []
  | _, [] => []
  | count + 1, s =>
    match token s with
    | .error b => [.broken b]
    | .ok (t, rest) => .token t s rest :: tokensUpTo count rest

/-- The lexemes of a text. A text has no more of them than characters. -/
def tokens (s : List Char) : List Lexeme :=
  tokensUpTo s.length s

end Pamphlet.Markup
