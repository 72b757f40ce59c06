/-!
# Violations

A record that is read from data may break several of its rules at once. Each `Violation` names the
rule and the place of the datum that breaks it, as the fields and list items that lead there.
-/

namespace Pamphlet.Record

/-- What a record asks of a datum. -/
inductive Rule
  | present
  | text
  | notShorter (length : Nat)
  | notLonger (length : Nat)
  | whole
  | wholeText
  | wholeSize
  | noFraction
  | list
  | record (kind : String)
  | choice (options : List String)
  | unchanged
  deriving DecidableEq, Repr

/-- One step into a datum. -/
inductive Key
  | field (name : String)
  | item (index : Nat)
  deriving DecidableEq, Repr

structure Violation where
  rule : Rule
  place : List Key
  deriving DecidableEq, Repr

def Rule.name : Rule → String
  | .present => "missing"
  | .text => "string_type"
  | .notShorter _ => "string_too_short"
  | .notLonger _ => "string_too_long"
  | .whole => "int_type"
  | .wholeText => "int_parsing"
  | .wholeSize => "int_parsing_size"
  | .noFraction => "int_from_float"
  | .list => "list_type"
  | .record _ => "model_type"
  | .choice _ => "enum"
  | .unchanged => "frozen_instance"

def plural (n : Nat) (noun : String) : String :=
  toString n ++ " " ++ noun ++ if n = 1 then "" else "s"

/-- Quoted alternatives, the last two joined by a word. -/
def alternatives (options : List String) : String :=
  match options.reverse.map fun o => "'" ++ o ++ "'" with
  | [] => ""
  | [only] => only
  | last :: before => ", ".intercalate before.reverse ++ " or " ++ last

def Rule.message : Rule → String
  | .present => "Field required"
  | .text => "Input should be a valid string"
  | .notShorter n => "String should have at least " ++ plural n "character"
  | .notLonger n => "String should have at most " ++ plural n "character"
  | .whole => "Input should be a valid integer"
  | .wholeText => "Input should be a valid integer, unable to parse string as an integer"
  | .wholeSize => "Unable to parse input string as an integer, exceeded maximum size"
  | .noFraction => "Input should be a valid integer, got a number with a fractional part"
  | .list => "Input should be a valid list"
  | .record kind => "Input should be a valid dictionary or instance of " ++ kind
  | .choice options => "Input should be " ++ alternatives options
  | .unchanged => "Instance is frozen"

end Pamphlet.Record
