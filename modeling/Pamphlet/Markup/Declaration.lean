import Pamphlet.Markup.Name

/-!
# The declaration of a document

A document may begin with a declaration of its version, its encoding and whether it stands alone,
in this order; only the version is required. What is declared stands in pairs of a name and a quoted
value. `Declaration.read` takes the text between the target and the end of the declaration, and
fails at what is left of it where it is not well-formed.
-/

namespace Pamphlet.Markup

structure Declaration where
  /-- The declared encoding and what is left where its label stands. -/
  encoding : Option (String × List Char)
  standalone : Bool

namespace Declaration

/-- A name with a value, each with what is left where it stands. -/
structure Pair where
  name : List Char
  atName : List Char
  value : List Char
  atValue : List Char

def isValueChar (c : Char) : Bool :=
  c.isAlphanum || c == '.' || c == '-' || c == '_'

/-- A character of a pair's name. -/
def isPairName (c : Char) : Bool :=
  c ≠ '=' && !isSpace c && c.toNat < 128

/-- The value after the sign of equality. -/
def readValue (name atName cs : List Char) : Except (List Char) (Pair × List Char) :=
  match cs.dropWhile isSpace with
  | [] => throw []
  | quote :: inner =>
    if quote ≠ '"' ∧ quote ≠ '\'' then throw (quote :: inner)
    else
      let value := inner.takeWhile isValueChar
      match inner.drop value.length with
      | [] => throw []
      | c :: rest =>
        if c = quote then return (⟨name, atName, value, inner⟩, rest) else throw (c :: rest)

/-- The next pair and the text after it; nothing if only blanks are left. -/
def readPair (cs : List Char) : Except (List Char) (Option Pair × List Char) :=
  match cs with
  | [] => return (none, [])
  | c :: _ =>
    if !isSpace c then throw cs
    else
      let s := cs.dropWhile isSpace
      if s.isEmpty then return (none, cs)
      else
        let name := s.takeWhile isPairName
        let after := s.drop name.length
        let sign := after.dropWhile isSpace
        match sign with
        | '=' :: rest =>
          if name.isEmpty then throw sign
          else do
            let (pair, rest) ← readValue name s rest
            return (some pair, rest)
        | _ => throw sign

def Pair.isNamed (p : Pair) (name : String) : Bool :=
  String.ofList p.name = name

/-- The part after the encoding. -/
def readStandalone (encoding : Option (String × List Char)) (p : Pair) (rest : List Char) :
    Except (List Char) Declaration :=
  if !p.isNamed "standalone" then throw p.atName
  else
    let word := String.ofList p.value
    if word ≠ "yes" ∧ word ≠ "no" then throw p.atValue
    else
      let left := rest.dropWhile isSpace
      if left.isEmpty then return ⟨encoding, word = "yes"⟩ else throw left

/-- The part after the version. -/
def readEncoding (p : Pair) (rest : List Char) : Except (List Char) Declaration :=
  if p.isNamed "encoding" then
    if (p.value.head?.map Char.isAlpha).getD false then do
      let encoding := some (String.ofList p.value, p.atValue)
      match ← readPair rest with
      | (none, _) => return ⟨encoding, false⟩
      | (some p, rest) => readStandalone encoding p rest
    else throw p.atValue
  else readStandalone none p rest

def read (cs : List Char) : Except (List Char) Declaration := do
  match ← readPair cs with
  | (none, left) => throw left
  | (some p, rest) =>
    if !p.isNamed "version" then throw p.atName
    else
      match ← readPair rest with
      | (none, _) => return ⟨none, false⟩
      | (some p, rest) => readEncoding p rest

end Declaration

end Pamphlet.Markup
