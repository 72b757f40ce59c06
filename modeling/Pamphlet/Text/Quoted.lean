import Pamphlet.Text.Printable

/-!
# Quoted texts

A text as it stands in a message: between quotes, with the quote, the backslash and whatever cannot
be printed escaped. The single quote is the usual one; a text that holds single quotes and no double
quote takes the double one, so most apostrophes need no escape.
-/

namespace Pamphlet.Text

/-- The last `width` hexadecimal digits of `n`, in lower case. -/
def hexDigits (width : Nat) (n : Nat) : List Char :=
  match width with
  | 0 => []
  | width + 1 => hexDigits width (n / 16) ++ [Nat.digitChar (n % 16)]

/-- An escape by code point: two, four or eight hexadecimal digits, the fewest that hold it. -/
def codeEscape (c : Char) : List Char :=
  let n := c.toNat
  if n < 0x100 then '\\' :: 'x' :: hexDigits 2 n
  else if n < 0x10000 then '\\' :: 'u' :: hexDigits 4 n
  else '\\' :: 'U' :: hexDigits 8 n

def quotedChar (quote c : Char) : List Char :=
  if c = quote ∨ c = '\\' then ['\\', c]
  else if c = '\n' then ['\\', 'n']
  else if c = '\r' then ['\\', 'r']
  else if c = '\t' then ['\\', 't']
  else if isPrintable c then [c]
  else codeEscape c

def quoteFor (cs : List Char) : Char :=
  if cs.contains '\'' && !cs.contains '"' then '"' else '\''

def quotedChars (cs : List Char) : List Char :=
  let quote := quoteFor cs
  quote :: cs.flatMap (quotedChar quote) ++ [quote]

def quoted (s : String) : String :=
  String.ofList (quotedChars s.toList)

/-- A quoted text in ASCII alone: what is not ASCII is escaped by code point. -/
def quotedAscii (s : String) : String :=
  String.ofList <| (quotedChars s.toList).flatMap fun c =>
    if c.toNat < 128 then [c] else codeEscape c

/-- A list of quoted texts between brackets. -/
def quotedList (texts : List String) : String :=
  "[" ++ ", ".intercalate (texts.map quoted) ++ "]"

end Pamphlet.Text
