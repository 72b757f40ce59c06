import Pamphlet.Number.Binary
import Pamphlet.Text.Blank
import Pamphlet.Text.Digit

/-!
# Numbers as texts

How settings write numbers. Digits may be of any script, single underscores may stand between
digits, and blanks may stand around a number, the four separators U+001C to U+001F apart.
`Number.whole?` reads a whole number and `Number.binary?` a number in double precision;
`Binary.text` writes the latter so that it reads back.
-/

namespace Pamphlet.Number

open Pamphlet.Text

/-- Blanks that may stand around a number. -/
def isPadding (c : Char) : Bool :=
  isBlank c && !(28 ≤ c.toNat && c.toNat ≤ 31)

/-- A character as the grammar of numbers sees it: digits of all scripts are alike. -/
def plain (c : Char) : Char :=
  match decimalValue? c with
  | some d => Nat.digitChar d
  | none => if c.toNat < 128 then c else if isBlank c then ' ' else '?'

/-- The text of a number without what stands around it. -/
def unpadded (s : String) : List Char :=
  ((s.toList.map plain).dropWhile isPadding).reverse.dropWhile isPadding |>.reverse

/-- Removes the underscores, each of which must have a digit on both sides. -/
def dropUnderscores (previous : Char) : List Char → Option (List Char)
  | [] => if previous = '_' then none else some []
  | c :: cs =>
    if c = '_' then
      if previous.isDigit then dropUnderscores c cs else none
    else if previous = '_' && !c.isDigit then none
    else (c :: ·) <$> dropUnderscores c cs

def signed : List Char → Bool × List Char
  | '-' :: cs => (true, cs)
  | '+' :: cs => (false, cs)
  | cs => (false, cs)

def digitsValue (ds : List Char) : Nat :=
  ds.foldl (fun n d => n * 10 + (d.toNat - 48)) 0

/-- A whole number. -/
def whole? (s : String) : Option Int := do
  let (negative, cs) := signed (unpadded s)
  let ds ← dropUnderscores ' ' cs
  if ds.isEmpty || !ds.all Char.isDigit then none
  else
    let n : Int := digitsValue ds
    return if negative then -n else n

/-- The exponent part of a number, which may be absent. -/
def exponent? : List Char → Option Int
  | [] => some 0
  | c :: cs =>
    if c = 'e' ∨ c = 'E' then
      let (negative, ds) := signed cs
      if ds.isEmpty || !ds.all Char.isDigit then none
      else
        let n : Int := digitsValue ds
        some (if negative then -n else n)
    else none

/-- Digits with a point among or around them and an exponent after them. -/
def decimal? (negative : Bool) (cs : List Char) : Option Binary := do
  let whole := cs.takeWhile Char.isDigit
  let rest := cs.dropWhile Char.isDigit
  let (fraction, rest) := match rest with
    | '.' :: rest => (rest.takeWhile Char.isDigit, rest.dropWhile Char.isDigit)
    | rest => ([], rest)
  if whole.isEmpty && fraction.isEmpty then none
  else
    let power ← exponent? rest
    return .ofDecimal negative (digitsValue (whole ++ fraction)) (power - fraction.length)

/-- A number in double precision: digits, an infinity, or no number. -/
def binary? (s : String) : Option Binary := do
  let cs ← dropUnderscores ' ' (unpadded s)
  let (negative, cs) := signed cs
  let word := String.ofList (cs.map Char.toLower)
  if word = "inf" ∨ word = "infinity" then return .infinite negative
  else if word = "nan" then return .notNumber
  else decimal? negative cs

/-! ## Writing -/

/-- Exponents with two digits at least. -/
def exponentText (n : Int) : String :=
  let digits := toString n.natAbs
  (if n < 0 then "e-" else "e+") ++ (if digits.length < 2 then "0" ++ digits else digits)

/-- Trailing zeros carry no information. -/
def dropZeros (ds : List Char) : List Char :=
  (ds.reverse.dropWhile (· == '0')).reverse

/-- Digits with the point after the first `point` of them, or with an exponent where the point is
far away: more than sixteen places after the first digit or more than three places before it. -/
def placed (ds : List Char) (point : Int) : String :=
  if 0 < point ∧ point ≤ 16 then
    let n := point.toNat
    let front := ds.take n ++ List.replicate (n - ds.length) '0'
    let back := ds.drop n
    String.ofList front ++ "." ++ (if back.isEmpty then "0" else String.ofList back)
  else if -4 < point ∧ point ≤ 0 then
    "0." ++ String.ofList (List.replicate (-point).toNat '0' ++ ds)
  else
    let back := ds.drop 1
    String.ofList (ds.take 1) ++ (if back.isEmpty then "" else "." ++ String.ofList back) ++
      exponentText (point - 1)

/-- The shortest text that reads back as the number. -/
def Binary.text : Binary → String
  | .notNumber => "nan"
  | .infinite negative => if negative then "-inf" else "inf"
  | .finite negative mantissa exponent =>
    let sign := if negative then "-" else ""
    if mantissa = 0 then sign ++ "0.0"
    else
      let (n, power) := shortest mantissa exponent
      let ds := Nat.toDigits 10 n
      sign ++ placed (dropZeros ds) (ds.length + power)

end Pamphlet.Number
