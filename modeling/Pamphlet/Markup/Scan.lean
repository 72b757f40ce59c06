import Pamphlet.Markup.Name
import Pamphlet.Markup.Problem

/-!
# Scanning

What the readers of tokens share: how a scan stops without a token, and names, references, comments
and instructions, which look the same wherever they stand.

A scan that meets a character that may not stand there is `invalid` at that character. A scan that
meets the end of the text is `short`, and one that meets a character cut off by the end is `cut`;
both are reported where the token begins (`Stop.breach`).
-/

namespace Pamphlet.Markup

inductive Stop
  | invalid (left : List Char)
  | short
  | cut

def Stop.breach (start : List Char) : Stop → Breach
  | .invalid left => ⟨.invalidToken, left⟩
  | .short => ⟨.unclosedToken, start⟩
  | .cut => ⟨.partialCharacter, start⟩

/-- A reader of the front of a text. -/
abbrev Scanner (α : Type) := StateT (List Char) (Except Stop) α

namespace Scanner

/-- What a character means that no rule accepts where a name may stand. -/
def stopAt (c : Char) (cs : List Char) : Stop :=
  if c = truncated then .cut else .invalid (c :: cs)

/-- One character of a class. -/
def one (p : Char → Bool) : Scanner Char
  | [] => .error .short
  | c :: cs => if p c then .ok (c, cs) else .error (.invalid (c :: cs))

def nameStart : Scanner Char
  | [] => .error .short
  | c :: cs => if isNameStart c then .ok (c, cs) else .error (stopAt c cs)

/-- The characters of a name, and at least one character after it. -/
def nameRest : Scanner (List Char)
  | [] => .error .short
  | c :: cs =>
    if isNameChar c then do
      let (name, rest) ← nameRest cs
      return (c :: name, rest)
    else if c = truncated then .error .cut
    else .ok ([], c :: cs)

/-- A name without a colon. -/
def name : Scanner String := do
  let c ← nameStart
  return String.ofList (c :: (← nameRest))

/-- The characters of a name that may hold one colon, with a name after it. -/
def qualifiedRest (colonSeen : Bool) : Scanner (List Char)
  | [] => .error .short
  | ':' :: c :: cs =>
    if colonSeen then .error (.invalid (':' :: c :: cs))
    else if isNameStart c then do
      let (name, rest) ← qualifiedRest true cs
      return (':' :: c :: name, rest)
    else .error (stopAt c cs)
  | c :: cs =>
    if isNameChar c then do
      let (name, rest) ← qualifiedRest colonSeen cs
      return (c :: name, rest)
    else if c = truncated then .error .cut
    else if c = ':' then .error (if colonSeen then .invalid [c] else .short)
    else .ok ([], c :: cs)

def qualifiedName : Scanner String := do
  let c ← nameStart
  return String.ofList (c :: (← qualifiedRest false))

/-! ## Comments and instructions -/

/-- The text of a comment, up to and with the two dashes and the angle that end it. -/
def commentText : Scanner (List Char)
  | [] => .error .short
  | '-' :: '-' :: [] => .error .short
  | '-' :: '-' :: c :: cs =>
    if c = '>' then .ok ([], cs) else .error (.invalid (c :: cs))
  | c :: cs =>
    if isXmlChar c then do
      let (text, rest) ← commentText cs
      return (c :: text, rest)
    else .error (stopAt c cs)

/-- A comment after its angle, mark and first dash. -/
def comment : Scanner String := do
  let _ ← one (· == '-')
  return String.ofList (normalizeLines (← commentText))

/-- The data of an instruction, up to and with its end. -/
def instructionText : Scanner (List Char)
  | [] => .error .short
  | '?' :: '>' :: cs => .ok ([], cs)
  | c :: cs =>
    if isXmlChar c then do
      let (text, rest) ← instructionText cs
      return (c :: text, rest)
    else .error (stopAt c cs)

/-- Whether a target spells the name of the declaration in letters of any case. -/
def isReserved (target : String) : Bool :=
  target.toLower = "xml"

/-- An instruction after its angle and mark: the target and the raw text after it. The name of the
declaration is a target only as it is spelled there. -/
def instruction : Scanner (String × List Char) := do
  let target ← name
  let after ← get
  match after with
  | [] => throw .short
  | c :: cs =>
    if isReserved target && target ≠ "xml" then throw (.invalid after)
    else if isSpace c then return (target, c :: (← do set cs; instructionText))
    else if c = '?' then do
      set cs
      let _ ← one (· == '>')
      return (target, [])
    else throw (.invalid after)

/-! ## References -/

/-- What a reference in a text names. -/
inductive Reference
  | number (c : Option Char)
  | entity (name : String)
  deriving DecidableEq, Repr

/-- The part of a reference that has been read, the last character first. -/
inductive Partial
  | start
  | entity (name : List Char)
  | hash
  | decimal (n : Nat)
  | hex
  | hexadecimal (n : Nat)

/-- Numbers above the last code point are all the same. -/
def grow (n base digit : Nat) : Nat :=
  min (n * base + digit) 0x110000

def hexValue? (c : Char) : Option Nat :=
  if c.isDigit then some (c.toNat - 48)
  else if 'a' ≤ c ∧ c ≤ 'f' then some (c.toNat - 87)
  else if 'A' ≤ c ∧ c ≤ 'F' then some (c.toNat - 55)
  else none

/-- A reference after one more character: still partial, or complete; `none` if the character may
not stand there. -/
def Partial.next (p : Partial) (c : Char) : Option (Partial ⊕ Reference) :=
  match p with
  | .start =>
    if c = '#' then some (.inl .hash)
    else if isNameStart c then some (.inl (.entity [c]))
    else none
  | .entity name =>
    if c = ';' then some (.inr (.entity (String.ofList name.reverse)))
    else if isNameChar c then some (.inl (.entity (c :: name)))
    else none
  | .hash =>
    if c = 'x' then some (.inl .hex)
    else if c.isDigit then some (.inl (.decimal (c.toNat - 48)))
    else none
  | .decimal n =>
    if c = ';' then some (.inr (.number (charOfNumber? n)))
    else if c.isDigit then some (.inl (.decimal (grow n 10 (c.toNat - 48))))
    else none
  | .hex => (hexValue? c).map fun d => .inl (.hexadecimal d)
  | .hexadecimal n =>
    if c = ';' then some (.inr (.number (charOfNumber? n)))
    else (hexValue? c).map fun d => .inl (.hexadecimal (grow n 16 d))

/-- A name may go on after what has been read. -/
def Partial.inName : Partial → Bool
  | .start => true
  | .entity _ => true
  | _ => false

def Partial.stopAt (p : Partial) (c : Char) (cs : List Char) : Stop :=
  if p.inName then Scanner.stopAt c cs else .invalid (c :: cs)

/-- A reference after its ampersand. -/
def reference (p : Partial) : Scanner Reference
  | [] => .error .short
  | c :: cs =>
    match p.next c with
    | none => .error (p.stopAt c cs)
    | some (.inl more) => reference more cs
    | some (.inr r) => .ok (r, cs)

/-- The characters that have names of their own. -/
def predefined? (name : String) : Option Char :=
  if name = "lt" then some '<'
  else if name = "gt" then some '>'
  else if name = "amp" then some '&'
  else if name = "quot" then some '"'
  else if name = "apos" then some '\''
  else none

end Scanner

end Pamphlet.Markup
