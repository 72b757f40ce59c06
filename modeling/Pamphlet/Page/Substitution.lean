import Pamphlet.Markup.Element
import Pamphlet.Text.Blank
import Pamphlet.Text.Word

/-!
# Variables

A token is a name between double braces; blanks may stand around the name. `pieces` splits a text
into tokens and the characters between them, from left to right, and `fill` puts the values of known
names in the place of their tokens. Values are not looked at again.

A tree is filled text by text: texts, tails and attribute values.
-/

namespace Pamphlet.Page.Substitution

open Pamphlet.Text Pamphlet.Markup

abbrev Values := List (String × String)

/-- A token as it is written, with its name. -/
structure Token where
  name : List Char
  written : List Char
  deriving DecidableEq, Repr

def beginsName (c : Char) : Bool :=
  c.isAlpha || c == '_'

def continuesName (c : Char) : Bool :=
  isWordChar c || c == '.'

/-- The token at the front of a text, and the text after it. -/
def token? : List Char → Option (Token × List Char)
  | '{' :: '{' :: cs =>
    let inner := cs.dropWhile isBlank
    let name := inner.takeWhile continuesName
    let after := inner.dropWhile continuesName
    match after.dropWhile isBlank with
    | '}' :: '}' :: rest =>
      if name.head?.any beginsName then
        let written :=
          ['{', '{'] ++ cs.takeWhile isBlank ++ name ++ after.takeWhile isBlank ++ ['}', '}']
        some (⟨name, written⟩, rest)
      else none
    | _ => none
  | _ => none

/-- A token that is read takes up characters, so reading goes on with fewer. -/
theorem token?_length {cs rest : List Char} {t : Token} (h : token? cs = some (t, rest)) :
    rest.length < cs.length := by
  unfold token? at h
  split at h
  · rename_i cs
    simp only at h
    split at h
    · rename_i after hafter
      split at h
      · simp only [Option.some.injEq, Prod.mk.injEq] at h
        obtain ⟨-, rfl⟩ := h
        have h₁ := (List.dropWhile_sublist isBlank (l := cs)).length_le
        have h₂ := (List.dropWhile_sublist continuesName (l := cs.dropWhile isBlank)).length_le
        have h₃ := (List.dropWhile_sublist isBlank
          (l := (cs.dropWhile isBlank).dropWhile continuesName)).length_le
        rw [hafter] at h₃
        simp only [List.length_cons] at h₃ ⊢
        omega
      · simp at h
    · simp at h
  · simp at h

inductive Piece
  | char (c : Char)
  | token (t : Token)
  deriving DecidableEq, Repr

/-- The tokens of a text and the characters between them. -/
def pieces (cs : List Char) : List Piece :=
  match _ : token? cs with
  | some (t, rest) => .token t :: pieces rest
  | none =>
    match cs with
    | [] => []
    | c :: cs => .char c :: pieces cs
termination_by cs.length
decreasing_by
  · exact token?_length (by assumption)
  · simp

def Piece.written : Piece → List Char
  | .char c => [c]
  | .token t => t.written

def Token.value? (values : Values) (t : Token) : Option String :=
  values.lookup (String.ofList t.name)

/-- A piece with its value in its place, if it has one. -/
def Piece.filled (values : Values) : Piece → List Char
  | .char c => [c]
  | .token t => ((t.value? values).map String.toList).getD t.written

def fill (values : Values) (s : String) : String :=
  String.ofList ((pieces s.toList).flatMap (Piece.filled values))

def tokens (s : String) : List Token :=
  (pieces s.toList).filterMap fun
    | .token t => some t
    | .char _ => none

/-! ## Trees -/

/-- The texts of an element and around it. -/
def textsHere (e : Element) : List String :=
  e.text.toList ++ e.tail.toList ++ e.attributes.map (·.2)

def fillHere (values : Values) (e : Element) : Element :=
  { e with
    text := e.text.map (fill values)
    tail := e.tail.map (fill values)
    attributes := e.attributes.map fun a => (a.1, fill values a.2) }

def fillTree (values : Values) (e : Element) : Element :=
  e.mapAll (fillHere values)

def treeTokens (e : Element) : List Token :=
  e.descendants.flatMap fun d => (textsHere d).flatMap tokens

/-- The number of tokens with a value. -/
def countKnown (values : Values) (ts : List Token) : Nat :=
  ts.countP fun t => (t.value? values).isSome

/-- The names without a value, in order and each of them once. -/
def unknownNames (values : Values) (ts : List Token) : List String :=
  let names := (ts.filter fun t => (t.value? values).isNone).map fun t => String.ofList t.name
  names.eraseDups.mergeSort fun a b => !decide (b < a)

def warning (name : String) : String :=
  "Unknown variable \x7b\x7b " ++ name ++ " \x7d\x7d left unreplaced"

end Pamphlet.Page.Substitution
