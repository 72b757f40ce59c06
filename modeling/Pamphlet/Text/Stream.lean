import Pamphlet.Text.Utf8

/-!
# Streams of text

A file that is read as text is decoded piece by piece. A character that a piece breaks off is
decoded with the piece after it, and at the end of the file what is left of one is decoded by
itself. So a fault comes up with the piece that shows it: the characters of the pieces before have
been read by then, and the offset of the fault is counted from the first byte that was decoded with
this piece.
-/

namespace Pamphlet.Text.Utf8

/-- The number of bytes that are read at a time. -/
def pieceLength : Nat := 8192

/-- Where the piece begins that shows a fault of some bytes. A first byte shows by itself that it is
bad; a sequence is broken by the byte after it, or by the end. -/
def Fault.piece (f : Fault) (bytes : List UInt8) : Nat :=
  match f.reason with
  | .badStart => f.offset / pieceLength * pieceLength
  | .badContinuation => (f.offset + f.bytes.length) / pieceLength * pieceLength
  | .cutShort => bytes.length

/-- The characters of a stream, and the first fault if there is one. -/
def decodeStream (bytes : List UInt8) : List Char × Option Fault :=
  match decode bytes with
  | (cs, none) => (cs, none)
  | (_, some fault) =>
    let piece := fault.piece bytes
    let (before, brokenOff) := decode (bytes.take piece)
    let first := brokenOff.elim piece (·.offset)
    (before, some { fault with offset := fault.offset - first })

/-- Where there is no fault the pieces do not show. -/
theorem decodeStream_eq_none_iff {bytes : List UInt8} {cs : List Char} :
    decodeStream bytes = (cs, none) ↔ decode bytes = (cs, none) := by
  unfold decodeStream
  rcases decode bytes with ⟨cs', _ | fault⟩
  · rfl
  · simp

end Pamphlet.Text.Utf8
