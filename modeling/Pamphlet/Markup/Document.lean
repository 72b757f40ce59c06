import Pamphlet.Markup.Content
import Pamphlet.Markup.Declaration
import Pamphlet.Markup.Encoding
import Pamphlet.Markup.Prolog

/-!
# Documents

Reading a document: its characters, its prolog, its root element and what may follow that. A text
is read as it stands, whatever encoding it declares; bytes are read in the encoding that they show
and, from the declaration on, in the one that they declare.
-/

namespace Pamphlet.Markup

open Pamphlet.Text

inductive Source
  | text (s : String)
  | bytes (bs : List UInt8)

/-- Why a document cannot be read: it is not well-formed, or its encoding is none of those with one
byte for a character. -/
inductive Failure
  | complaint (c : Complaint)
  | unknownLabel (label : String)
  | notTextLabel (label : String)
  | multiByteLabel
  | brokenLabel (coding : BrokenCoding) (label : String)
  deriving DecidableEq, Repr

/-- A document whose declaration has been read: all its characters, those after the declaration, and
whether bytes are left over at its end. -/
structure Opened where
  whole : List Char
  rest : List Char
  standalone : Bool
  leftover : Bool

def Opened.complain (o : Opened) (b : Breach) : Failure :=
  .complaint ⟨b.problem, b.position o.whole⟩

def Source.toBytes : Source → List UInt8
  | .text s => Utf8.encode s
  | .bytes bs => bs

/-- The mark at the front of a text in UTF-16 or UTF-8. -/
def byteOrderMark : Char := '\uFEFF'

/-- The declaration at the front of a text: what stands between its target and its end, and the text
after it. -/
def declaration? (s : List Char) : Option (List Char × List Char) :=
  match s with
  | '<' :: '?' :: cs =>
    match Scanner.instruction cs with
    | .ok ((target, body), rest) => if target = "xml" then some (body, rest) else none
    | .error _ => none
  | _ => none

/-- Reads on in a declared encoding after `read` bytes. Places are counted as if the whole document
were in it. -/
def Opened.inEncoding (o : Opened) (e : Encoding) (bytes : List UInt8) (read : Nat) : Opened :=
  let left := bytes.drop read
  { o with whole := e.decode bytes, rest := e.decode left, leftover := e.splitsUnit left }

/-- The number of bytes of a declaration of `length` characters and of the mark before it. -/
def Encoding.bytesRead (e : Encoding) (marked : Bool) (length : Nat) : Nat :=
  length * e.unit + if marked then (if e = .utf8 then 3 else 2) else 0

/-- Reads the declaration, if there is one. -/
def Source.opened (source : Source) : Except Failure Opened := do
  let bytes := source.toBytes
  if tooShortToTell bytes then throw (.complaint ⟨.unclosedToken, ⟨1, 0⟩⟩)
  let shown := sniff bytes
  let whole := shown.decode bytes
  let marked := whole.head? = some byteOrderMark
  let s := if marked then whole.drop 1 else whole
  let o : Opened := ⟨whole, s, false, shown.splitsUnit bytes⟩
  match declaration? s with
  | none => return o
  | some (body, rest) =>
    let place (left : List Char) : List Char := left ++ '?' :: '>' :: rest
    match Declaration.read body with
    | .error left => throw (o.complain ⟨.badDeclaration, place left⟩)
    | .ok declaration =>
      let o := { o with rest, standalone := declaration.standalone }
      match source, declaration.encoding with
      | .text _, _ => return o
      | .bytes _, none => return o
      | .bytes _, some (label, left) =>
        match Declared.ofLabel shown label with
        | .encoding e =>
          return o.inEncoding e bytes (shown.bytesRead marked (s.length - rest.length))
        | .incorrect => throw (o.complain ⟨.incorrectEncoding, place left⟩)
        | .incompatible => throw (o.complain ⟨.unknownEncoding, place left⟩)
        | .multiByte => throw .multiByteLabel
        | .notText => throw (.notTextLabel label)
        | .broken coding => throw (.brokenLabel coding label)
        | .unknown => throw (.unknownLabel label)

/-- What may stand after the root. -/
def readEpilog : List MarkLexeme → Except Breach Unit
  | [] => return ()
  | .broken b :: _ => throw b
  | .mark m start _ :: rest =>
    match m with
    | .space => readEpilog rest
    | .comment => readEpilog rest
    | .instruction => readEpilog rest
    | _ => throw ⟨.junkAfterRoot, start⟩

/-- Where a text ends: a carriage return that could have been half of a line end is not passed. -/
def ending (s : List Char) : List Char :=
  if s.getLast? = some '\r' then ['\r'] else []

/-- The root of an opened document. A byte left over at the end is a token that never closes. -/
def Opened.root (notes : Bool) (o : Opened) : Except Breach Element := do
  let (dtd, content) ← readProlog { standalone := o.standalone } (.misc true) (marks o.rest)
  let (root, after) ← build notes (ending content) (contentEvents dtd content)
  readEpilog (marks after)
  if o.leftover then throw ⟨.unclosedToken, []⟩
  return root

/-- The end of a text that ends inside a unit is not seen. -/
def Opened.adjust (o : Opened) (b : Breach) : Breach :=
  if o.leftover && b.problem = .noElement && b.left.isEmpty then ⟨.unclosedToken, []⟩ else b

/-- Reads a document. Comments and instructions inside its root are kept if `notes` are wanted. -/
def parse (source : Source) (notes : Bool) : Except Failure Element := do
  let o ← source.opened
  match o.root notes with
  | .ok root => return root
  | .error b => throw (o.complain (o.adjust b))

end Pamphlet.Markup
