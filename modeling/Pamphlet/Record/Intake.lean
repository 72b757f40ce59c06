import Pamphlet.Number.Text
import Pamphlet.Record.Datum
import Pamphlet.Record.Violation

/-!
# Reading records

A reader turns a datum into a value or lists every rule that the datum breaks. Readers are combined
side by side, so the violations of all fields are reported together, in the order of the fields
(`Intake.seq_error`).
-/

namespace Pamphlet.Record

open Pamphlet.Number

/-- A value read from data, or the violations found. -/
def Intake (α : Type) := Except (List Violation) α

namespace Intake

variable {α β : Type}

def fail (rule : Rule) : Intake α :=
  .error [⟨rule, []⟩]

def map (f : α → β) : Intake α → Intake β
  | .ok a => .ok (f a)
  | .error vs => .error vs

/-- Applies one reading to another; what is wrong with either is wrong with the result. -/
def seq (f : Intake (α → β)) (a : Intake α) : Intake β :=
  match f, a with
  | .ok f, .ok a => .ok (f a)
  | .ok _, .error vs => .error vs
  | .error vs, .ok _ => .error vs
  | .error vs, .error ws => .error (vs ++ ws)

instance : Applicative Intake where
  pure := .ok
  seq f a := seq f (a ())

theorem seq_error (vs ws : List Violation) :
    seq (.error vs : Intake (α → β)) (.error ws) = .error (vs ++ ws) := rfl

/-- A reading of what stands under a key in a larger datum. -/
def under (key : Key) : Intake α → Intake α
  | .ok a => .ok a
  | .error vs => .error (vs.map fun v => { v with place := key :: v.place })

/-- A reading of all items of a list. -/
def all (read : Datum → Intake α) (index : Nat) : List Datum → Intake (List α)
  | [] => pure []
  | item :: rest => List.cons <$> under (.item index) (read item) <*> all read (index + 1) rest

/-! ## Readers -/

def text : Datum → Intake String
  | .text s => pure s
  | _ => fail .text

/-- A text whose length has bounds. -/
def textWithin (least : Nat) (most : Option Nat) : Datum → Intake String
  | .text s =>
    if s.length < least then fail (.notShorter least)
    else
      match most with
      | none => pure s
      | some most => if most < s.length then fail (.notLonger most) else pure s
  | _ => fail .text

/-- A text, or nothing. -/
def text? : Datum → Intake (Option String)
  | .null => pure none
  | d => some <$> text d

/-- A text that is one of several, which stand for values. -/
def choice (options : List (String × α)) (d : Datum) : Intake α :=
  let refuse := fail (.choice (options.map (·.1)))
  match d with
  | .text s => (options.lookup s).elim refuse pure
  | _ => refuse

def listOf (read : Datum → Intake α) : Datum → Intake (List α)
  | .list items => all read 0 items
  | _ => fail .list

/-- A whole number in ASCII digits; zeros may follow a point. -/
def wholeText? (s : String) : Option Int := do
  let cs := (s.toList.dropWhile isPadding).reverse.dropWhile isPadding |>.reverse
  let (negative, cs) := signed cs
  let front := cs.takeWhile (· ≠ '.')
  let ds ← dropUnderscores ' ' front
  if ds.isEmpty || !ds.all Char.isDigit || !(cs.drop (front.length + 1)).all (· == '0') then none
  else
    let n : Int := digitsValue ds
    return if negative then -n else n

/-- A whole number; texts and flags may stand for one. -/
def whole : Datum → Intake Int
  | .number digits places =>
    let unit : Int := tenPower places
    if digits % unit = 0 then pure (digits / unit) else fail .noFraction
  | .flag value => pure (if value then 1 else 0)
  | .text s => (wholeText? s).elim (fail .wholeText) pure
  | _ => fail .whole

/-! ## Fields -/

def required (fields : Fields) (name : String) (read : Datum → Intake α) : Intake α :=
  under (.field name) ((fields.get? name).elim (fail .present) read)

/-- A field that has a value of its own if the record does not name it. -/
def optional (fields : Fields) (name : String) (default : α) (read : Datum → Intake α) :
    Intake α :=
  under (.field name) ((fields.get? name).elim (pure default) read)

/-- A record of a kind, or what is read as one. -/
def recordOf (kind : String) (read : Fields → Intake α) : Datum → Intake α
  | .record fields => read fields
  | _ => fail (.record kind)

end Intake

end Pamphlet.Record
