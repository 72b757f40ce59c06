import Pamphlet.Markup.CodePage
import Pamphlet.Markup.Name
import Pamphlet.Text.Utf8

/-!
# Encodings of documents

How the bytes of a document are read as characters. The first bytes tell UTF-8 from UTF-16
(`sniff`); a declaration at the start may then name another encoding (`Encoding.ofLabel`). Bytes
that encode no character become one of the two characters that no document may hold.
-/

namespace Pamphlet.Markup

open Pamphlet.Text

inductive Encoding
  | utf8
  | utf16 (bigEndian : Bool)
  | latin
  | page (upper : List Char)
  /-- ASCII without the tilde. -/
  | untilded
  deriving DecidableEq, Repr

namespace Encoding

/-- Bytes of a character of the declaration. -/
def unit : Encoding → Nat
  | .utf16 _ => 2
  | _ => 1

/-- Two code points in a document's bytes are no characters. -/
def sound (c : Char) : Char :=
  if c = truncated then malformed else c

/-- The bytes that a first byte announces, itself included. -/
def announced (b : UInt8) : Nat :=
  let n := b.toNat
  if 0xC0 ≤ n ∧ n < 0xE0 then 2
  else if 0xE0 ≤ n ∧ n < 0xF0 then 3
  else if 0xF0 ≤ n ∧ n < 0xF5 then 4
  else 1

/-- Nothing after the first fault is read, since no document is well-formed beyond it. -/
def decodeUtf8 (bytes : List UInt8) : List Char :=
  match Utf8.decode bytes with
  | (cs, none) => cs.map sound
  | (cs, some fault) =>
    let needed := (fault.bytes.head?.map announced).getD 1
    cs.map sound ++ [if bytes.length - fault.offset < needed then truncated else malformed]

def decodeUtf16 (bigEndian : Bool) : List UInt8 → List Char
  | a :: b :: rest =>
    let n := if bigEndian then a.toNat * 256 + b.toNat else b.toNat * 256 + a.toNat
    if 0xD800 ≤ n ∧ n < 0xDC00 then
      match rest with
      | c :: d :: rest =>
        let m := if bigEndian then c.toNat * 256 + d.toNat else d.toNat * 256 + c.toNat
        Char.ofNat (0x10000 + (n - 0xD800) * 1024 + m % 1024) :: decodeUtf16 bigEndian rest
      | _ => [truncated]
    else if 0xDC00 ≤ n ∧ n < 0xE000 then malformed :: decodeUtf16 bigEndian rest
    else sound (Char.ofNat n) :: decodeUtf16 bigEndian rest
  | _ => []

def decodePage (upper : List Char) (b : UInt8) : Char :=
  if b.toNat < 128 then Char.ofNat b.toNat
  else
    match upper[b.toNat - 128]? with
    | some c => if c = '\uFFFD' then malformed else c
    | none => malformed

def decode (e : Encoding) (bytes : List UInt8) : List Char :=
  match e with
  | .utf8 => decodeUtf8 bytes
  | .utf16 bigEndian => decodeUtf16 bigEndian bytes
  | .latin => bytes.map fun b => Char.ofNat b.toNat
  | .page upper => bytes.map (decodePage upper)
  | .untilded => bytes.map fun b => if b = 0x7E then malformed else decodePage [] b

/-- Whether the bytes end inside a unit. -/
def splitsUnit (e : Encoding) (bytes : List UInt8) : Bool :=
  bytes.length % e.unit ≠ 0

end Encoding

/-- Bytes that show no encoding and could go on to show one. -/
def tooShortToTell (bytes : List UInt8) : Bool :=
  [[0x00], [0xEF], [0xFE], [0xFF], [0xEF, 0xBB]].contains bytes

/-- The encoding that the first bytes of a document show. -/
def sniff : List UInt8 → Encoding
  | 0xFE :: 0xFF :: _ => .utf16 true
  | 0xFF :: 0xFE :: _ => .utf16 false
  | 0x00 :: _ :: _ => .utf16 true
  | _ :: 0x00 :: _ => .utf16 false
  | _ => .utf8

/-- What a declared label asks for. -/
inductive Declared
  | encoding (e : Encoding)
  | incorrect
  | incompatible
  | multiByte
  | notText
  | broken (coding : BrokenCoding)
  | unknown
  deriving DecidableEq, Repr

/-- The encoding that a label declares in a document whose first bytes show another one. -/
def Declared.ofLabel (shown : Encoding) (label : String) : Declared :=
  let name := label.toUpper
  let wide := shown.unit = 2
  if name = "UTF-16" ∧ wide then .encoding shown
  else if name = "UTF-16" ∨ name = "UTF-16BE" ∨ name = "UTF-16LE" then
    if wide ∧ shown = .utf16 (name = "UTF-16BE") then .encoding shown else .incorrect
  else if name = "UTF-8" then if wide then .incorrect else .encoding .utf8
  else if name = "ISO-8859-1" then if wide then .incorrect else .encoding .latin
  else if name = "US-ASCII" then if wide then .incorrect else .encoding (.page [])
  else
    match meaning? label with
    | none => .unknown
    | some .latin => .encoding .latin
    | some (.page upper) => .encoding (.page upper.toList)
    | some .untilded => .encoding .untilded
    | some .incompatible => .incompatible
    | some .multiByte => .multiByte
    | some .notText => .notText
    | some (.broken coding) => .broken coding

end Pamphlet.Markup
