import Pamphlet.Text.Quoted

/-!
# UTF-8

Texts as bytes. `Utf8.decode` reads a byte list with an automaton whose state is the sequence begun
and not yet complete; it gives the characters read before the first fault, and the fault. A fault
names the bytes at its head that belong to no character, by their offset and their number.
-/

namespace Pamphlet.Text.Utf8

inductive Reason
  | badStart
  | badContinuation
  | cutShort
  deriving DecidableEq, Repr

/-- Bytes that encode no character: `bytes` begins at `offset`. -/
structure Fault where
  reason : Reason
  offset : Nat
  bytes : List UInt8
  deriving DecidableEq, Repr

def Reason.text : Reason → String
  | .badStart => "invalid start byte"
  | .badContinuation => "invalid continuation byte"
  | .cutShort => "unexpected end of data"

/-- Names the byte if it is one, and the first and the last offset if they are several. -/
def Fault.text (f : Fault) : String :=
  let place :=
    match f.bytes with
    | [b] => s!"byte 0x{String.ofList (hexDigits 2 b.toNat)} in position {f.offset}"
    | bs => s!"bytes in position {f.offset}-{f.offset + bs.length - 1}"
  s!"'utf-8' codec can't decode {place}: {f.reason.text}"

/-- A sequence that has begun: the bytes read (the last one first), how many are to come, the bits
they carry, and the range of the next byte. -/
structure Pending where
  read : List UInt8
  missing : Nat
  bits : Nat
  low : Nat
  high : Nat

/-- What a first byte begins. The ranges of the second byte leave out overlong forms, surrogates and
code points above U+10FFFF. -/
def start? (b : UInt8) : Option Pending :=
  let n := b.toNat
  if n < 0x80 then some ⟨[b], 0, n, 0, 0⟩
  else if n < 0xC2 then none
  else if n < 0xE0 then some ⟨[b], 1, n - 0xC0, 0x80, 0xBF⟩
  else if n = 0xE0 then some ⟨[b], 2, 0, 0xA0, 0xBF⟩
  else if n = 0xED then some ⟨[b], 2, 0xD, 0x80, 0x9F⟩
  else if n < 0xF0 then some ⟨[b], 2, n - 0xE0, 0x80, 0xBF⟩
  else if n = 0xF0 then some ⟨[b], 3, 0, 0x90, 0xBF⟩
  else if n < 0xF4 then some ⟨[b], 3, n - 0xF0, 0x80, 0xBF⟩
  else if n = 0xF4 then some ⟨[b], 3, 4, 0x80, 0x8F⟩
  else none

/-- The sequence after one more byte, if the byte may follow. -/
def Pending.next? (p : Pending) (b : UInt8) : Option Pending :=
  let n := b.toNat
  if p.low ≤ n ∧ n ≤ p.high then
    some ⟨b :: p.read, p.missing - 1, p.bits * 64 + (n - 0x80), 0x80, 0xBF⟩
  else none

/-- The characters of a text, and the first fault if there is one. `offset` is where the sequence
`begun` starts or, if none has begun, where the next byte stands. -/
def decodeFrom (offset : Nat) : Option Pending → List UInt8 → List Char × Option Fault
  | none, [] => ([], none)
  | some begun, [] => ([], some ⟨.cutShort, offset, begun.read.reverse⟩)
  | none, b :: bs =>
    match start? b with
    | none => ([], some ⟨.badStart, offset, [b]⟩)
    | some begun =>
      if begun.missing = 0 then
        let (cs, fault) := decodeFrom (offset + 1) none bs
        (Char.ofNat begun.bits :: cs, fault)
      else decodeFrom offset (some begun) bs
  | some begun, b :: bs =>
    match begun.next? b with
    | none => ([], some ⟨.badContinuation, offset, begun.read.reverse⟩)
    | some more =>
      if more.missing = 0 then
        let (cs, fault) := decodeFrom (offset + more.read.length) none bs
        (Char.ofNat more.bits :: cs, fault)
      else decodeFrom offset (some more) bs

def decode (bytes : List UInt8) : List Char × Option Fault :=
  decodeFrom 0 none bytes

def encodeChar (c : Char) : List UInt8 :=
  let n := c.toNat
  if n < 0x80 then [n.toUInt8]
  else if n < 0x800 then [(0xC0 + n / 64).toUInt8, (0x80 + n % 64).toUInt8]
  else if n < 0x10000 then
    [(0xE0 + n / 4096).toUInt8, (0x80 + n / 64 % 64).toUInt8, (0x80 + n % 64).toUInt8]
  else
    [(0xF0 + n / 262144).toUInt8, (0x80 + n / 4096 % 64).toUInt8, (0x80 + n / 64 % 64).toUInt8,
      (0x80 + n % 64).toUInt8]

def encode (s : String) : List UInt8 :=
  s.toList.flatMap encodeChar

end Pamphlet.Text.Utf8
