import Pamphlet.Text.Quoted

/-!
# What is wrong with a template

The reasons why a template cannot be filled, the kind of failure that each is reported as, and its
message. A name that has no value is reported quoted and without a sentence.
-/

namespace Pamphlet.Text.Template

/-- Why a template cannot be filled. -/
inductive Problem
  | singleOpen
  | singleClose
  | openInName
  | unfinishedConversion
  | colonAfterConversion
  | unmatchedOpen
  | unclosedField
  | tooDeep
  | tooManyDigits
  | unknownName (name : String)
  | noPosition (index : Nat)
  | emptyAccessor
  | unclosedIndex
  | badAccessor
  | noAttribute (name : String)
  | indexRange
  | indexKind
  | unknownConversion (c : Char)
  | badLayout (layout : String)
  | unknownFormat (c : Char)
  | bothSeparators
  | separator (mark format : Char)
  | missingPrecision
  | spaceSign
  | sign
  | negativeZero
  | alternateForm
  | paddedAlignment
  deriving DecidableEq, Repr

/-- A character in a message, or its number if it is not a visible one in ASCII. -/
def shown (c : Char) : List Char :=
  if 32 < c.toNat ∧ c.toNat < 127 then [c]
  else '\\' :: 'x' :: Nat.toDigits 16 c.toNat

/-- A format in quotes; the delete character counts as visible there. -/
def shownFormat (c : Char) : String :=
  String.ofList ('\'' :: (if c.toNat = 127 then [c] else shown c) ++ ['\''])

namespace Problem

/-- The kind of failure that a problem is reported as. -/
def name : Problem → String
  | .unknownName _ => "KeyError"
  | .noPosition _ => "IndexError"
  | .indexRange => "IndexError"
  | .noAttribute _ => "AttributeError"
  | .indexKind => "TypeError"
  | _ => "ValueError"

def text : Problem → String
  | .singleOpen => "Single '\x7b' encountered in format string"
  | .singleClose => "Single '\x7d' encountered in format string"
  | .openInName => "unexpected '\x7b' in field name"
  | .unfinishedConversion => "end of string while looking for conversion specifier"
  | .colonAfterConversion => "expected ':' after conversion specifier"
  | .unmatchedOpen => "unmatched '\x7b' in format spec"
  | .unclosedField => "expected '\x7d' before end of string"
  | .tooDeep => "Max string recursion exceeded"
  | .tooManyDigits => "Too many decimal digits in format string"
  | .unknownName name => quoted name
  | .noPosition i => s!"Replacement index {i} out of range for positional args tuple"
  | .emptyAccessor => "Empty attribute in format string"
  | .unclosedIndex => "Missing ']' in format string"
  | .badAccessor => "Only '.' or '[' may follow ']' in format field specifier"
  | .noAttribute name => "'str' object has no attribute '" ++ name ++ "'"
  | .indexRange => "string index out of range"
  | .indexKind => "string indices must be integers, not 'str'"
  | .unknownConversion c => "Unknown conversion specifier " ++ String.ofList (shown c)
  | .badLayout layout => "Invalid format specifier '" ++ layout ++ "' for object of type 'str'"
  | .unknownFormat c => "Unknown format code " ++ shownFormat c ++ " for object of type 'str'"
  | .bothSeparators => "Cannot specify both ',' and '_'."
  | .separator mark format =>
    "Cannot specify '" ++ mark.toString ++ "' with " ++ shownFormat format ++ "."
  | .missingPrecision => "Format specifier missing precision"
  | .spaceSign => "Space not allowed in string format specifier"
  | .sign => "Sign not allowed in string format specifier"
  | .negativeZero => "Negative zero coercion (z) not allowed in string format specifier"
  | .alternateForm => "Alternate form (#) not allowed in string format specifier"
  | .paddedAlignment => "'=' alignment not allowed in string format specifier"

end Problem

end Pamphlet.Text.Template
