/-!
# Numbers in double precision

A number that double precision can hold: `mantissa * 2 ^ exponent` with a mantissa below `2 ^ 53`
and an exponent from -1074 to 971, an infinity, or no number. All arithmetic is on natural numbers.

`Binary.nearest` rounds a fraction to the closest such number, a half to the even mantissa.
`Binary.shortest` goes back: of the decimal fractions that round to the number it takes one with the
fewest digits and, of those, the nearest.
-/

namespace Pamphlet.Number

def tenPower (n : Nat) : Nat := Nat.pow 10 n

inductive Binary
  | finite (negative : Bool) (mantissa : Nat) (exponent : Int)
  | infinite (negative : Bool)
  | notNumber
  deriving DecidableEq, Repr

namespace Binary

/-- The whole number closest to a quotient, a half to the even one. -/
def roundDiv (num den : Nat) : Nat :=
  let q := num / den
  let r := num % den
  if 2 * r > den ∨ (2 * r = den ∧ q % 2 = 1) then q + 1 else q

def minExponent : Int := -1074

def maxExponent : Int := 971

/-- The fraction `num / (den * 2 ^ exponent)` as a pair of natural numbers. -/
def scaled (num den : Nat) (exponent : Int) : Nat × Nat :=
  if exponent < 0 then (num <<< (-exponent).toNat, den) else (num, den <<< exponent.toNat)

/-- The exponent at which the fraction has 53 binary digits before the point, or the least one. -/
def exponentOf (num den : Nat) : Int :=
  let low : Int := (Nat.log2 num : Int) - Nat.log2 den - 53
  let (n, d) := scaled num den low
  max (if n / d < 1 <<< 53 then low else low + 1) minExponent

/-- The number closest to a positive fraction. -/
def nearest (negative : Bool) (num den : Nat) : Binary :=
  if num = 0 then .finite negative 0 minExponent
  else
    let exponent := exponentOf num den
    let (n, d) := scaled num den exponent
    let mantissa := roundDiv n d
    let (mantissa, exponent) :=
      if mantissa = 1 <<< 53 then (1 <<< 52, exponent + 1) else (mantissa, exponent)
    if exponent > maxExponent then .infinite negative
    else .finite negative mantissa exponent

/-- The number closest to `digits * 10 ^ power`. A power that takes a number with so many digits out
of range is not computed. -/
def ofDecimal (negative : Bool) (digits : Nat) (power : Int) : Binary :=
  let size : Int := (Nat.log2 digits : Int) + 1
  if digits = 0 ∨ power < -400 - size then .finite negative 0 minExponent
  else if power > 400 then .infinite negative
  else if power < 0 then nearest negative digits (tenPower (-power).toNat)
  else nearest negative (digits * tenPower power.toNat) 1

/-- Zero, and what is less. No number is neither. -/
def isAtMostZero : Binary → Bool
  | .finite negative mantissa _ => negative || mantissa == 0
  | .infinite negative => negative
  | .notNumber => false

/-! ## Shortest decimal fractions -/

/-- The positive fractions that round to a number, as numerators over one denominator. -/
structure Interval where
  low : Nat
  value : Nat
  high : Nat
  den : Nat
  closed : Bool

/-- Halfway to the neighbours on both sides; below a power of two the neighbour is half as far. -/
def interval (mantissa : Nat) (exponent : Int) : Interval :=
  let below := if mantissa = 1 <<< 52 ∧ exponent > minExponent then 1 else 2
  let (unit, den) := scaled 1 1 (2 - exponent)
  { low := (4 * mantissa - below) * unit, value := 4 * mantissa * unit,
    high := (4 * mantissa + 2) * unit, den, closed := mantissa % 2 = 0 }

/-- Whether `n * 10 ^ power` lies in the interval. -/
def Interval.contains (i : Interval) (n : Nat) (power : Int) : Bool :=
  let (num, den) :=
    if power < 0 then (n * i.den, tenPower (-power).toNat)
    else (n * tenPower power.toNat * i.den, 1)
  if i.closed then i.low * den ≤ num && num ≤ i.high * den
  else i.low * den < num && num < i.high * den

/-- The quotient of the value by `10 ^ power`, with a remainder and a divisor. -/
def Interval.quotient (i : Interval) (power : Int) : Nat × Nat × Nat :=
  let (num, den) :=
    if power < 0 then (i.value * tenPower (-power).toNat, i.den)
    else (i.value, i.den * tenPower power.toNat)
  (num / den, num % den, den)

/-- The multiple of `10 ^ power` in the interval that is closest to the value. -/
def Interval.pick? (i : Interval) (power : Int) : Option Nat :=
  let (q, r, den) := i.quotient power
  match i.contains q power, i.contains (q + 1) power with
  | true, true => some (if 2 * r > den ∨ (2 * r = den ∧ q % 2 = 1) then q + 1 else q)
  | true, false => some q
  | false, true => some (q + 1)
  | false, false => none

/-- One more than the power of ten of the value's first digit. -/
def Interval.magnitude (i : Interval) : Int :=
  let rec up (fuel : Nat) (power : Int) : Int :=
    match fuel with
    | 0 => power
    | fuel + 1 => if (i.quotient power).1 = 0 then power else up fuel (power + 1)
  up 640 (-325)

/-- The first grid, from coarse to fine, that has a multiple in the interval. -/
def Interval.search (i : Interval) (count : Nat) (power : Int) : Nat × Int :=
  match count with
  | 0 => ((i.quotient power).1, power)
  | count + 1 =>
    match i.pick? power with
    | some n => (n, power)
    | none => i.search count (power - 1)

/-- The decimal digits of the shortest fraction, and the power of ten of the last one. -/
def shortest (mantissa : Nat) (exponent : Int) : Nat × Int :=
  let i := interval mantissa exponent
  i.search 17 (i.magnitude - 1)

end Binary

end Pamphlet.Number
