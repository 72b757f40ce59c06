/-!
# Escapes

How character data and attribute values are written in markup. Which characters are escaped depends
on the place: angles and the ampersand everywhere in text, the quote in values, and in strict
markup also the line ends and tabs of values, which a reader would turn into spaces.
-/

namespace Pamphlet.Markup

/-- The text with every character replaced by what it is written as. -/
def escapeWith (written : Char → List Char) (s : String) : String :=
  String.ofList (s.toList.flatMap written)

def textChar (c : Char) : List Char :=
  if c = '&' then "&amp;".toList
  else if c = '<' then "&lt;".toList
  else if c = '>' then "&gt;".toList
  else [c]

/-- A character of a value between double quotes. -/
def valueChar (c : Char) : List Char :=
  if c = '"' then "&quot;".toList
  else if c = '\r' then "&#13;".toList
  else if c = '\n' then "&#10;".toList
  else if c = '\t' then "&#09;".toList
  else textChar c

/-- A character of a value on a page: the opening angle and blanks stand for themselves. -/
def pageValueChar (c : Char) : List Char :=
  if c = '&' then "&amp;".toList
  else if c = '>' then "&gt;".toList
  else if c = '"' then "&quot;".toList
  else [c]

def escapeText (s : String) : String :=
  escapeWith textChar s

def escapeValue (s : String) : String :=
  escapeWith valueChar s

def escapePageValue (s : String) : String :=
  escapeWith pageValueChar s

end Pamphlet.Markup
