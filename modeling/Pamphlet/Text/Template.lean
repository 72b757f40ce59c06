import Pamphlet.Text.Digit
import Pamphlet.Text.TemplateProblem

/-!
# Address templates

A template is a text with fields in braces; filling it puts named values in their place, and a
doubled brace stands for one brace. A field is a name, then accessors, then optionally a conversion
after `!` and a layout after `:`; the layout may hold fields itself, one level deep.

`Template.fill` reads the text from left to right and puts each field's value in as soon as the
field is read, so of two faults the first in the text is reported.
-/

namespace Pamphlet.Text.Template

/-- A field as it is written. -/
structure Field where
  name : List Char
  conversion : Option Char
  layout : List Char
  layoutHasFields : Bool
  deriving DecidableEq, Repr

/-! ## Reading fields -/

/-- The part of a field up to its end, its colon or its exclamation mark, that mark, and the rest;
brackets hide marks. -/
def readName (inBrackets : Bool) : List Char → Except Problem (List Char × Char × List Char)
  | [] => .error .unclosedField
  | c :: cs =>
    if inBrackets then do
      let (name, mark, rest) ← readName (c != ']') cs
      return (c :: name, mark, rest)
    else if c = '{' then .error .openInName
    else if c = '}' ∨ c = ':' ∨ c = '!' then return ([], c, cs)
    else do
      let (name, mark, rest) ← readName (c == '[') cs
      return (c :: name, mark, rest)

/-- The layout up to the brace that closes the field; `depth` braces are open inside. -/
def readLayout (depth : Nat) : List Char → Except Problem (List Char × List Char)
  | [] => .error .unmatchedOpen
  | c :: cs =>
    if c = '}' then
      match depth with
      | 0 => return ([], cs)
      | depth + 1 => do
        let (layout, rest) ← readLayout depth cs
        return (c :: layout, rest)
    else do
      let (layout, rest) ← readLayout (if c = '{' then depth + 1 else depth) cs
      return (c :: layout, rest)

def withLayout (name : List Char) (conversion : Option Char) (cs : List Char) :
    Except Problem (Field × List Char) := do
  let (layout, rest) ← readLayout 0 cs
  return (⟨name, conversion, layout, layout.contains '{'⟩, rest)

/-- A field after its opening brace, and the rest of the template. -/
def readField (cs : List Char) : Except Problem (Field × List Char) := do
  let (name, mark, rest) ← readName false cs
  if mark = '}' then return (⟨name, none, [], false⟩, rest)
  else if mark = ':' then withLayout name none rest
  else
    match rest with
    | [] => .error .unfinishedConversion
    | c :: [] => withLayout name (some c) []
    | c :: d :: rest =>
      if d = '}' then return (⟨name, some c, [], false⟩, rest)
      else if d = ':' then withLayout name (some c) rest
      else .error .colonAfterConversion

/-! ## Looking fields up -/

/-- The largest index and width a template may write. -/
def maxNumber : Nat := 0x7fffffffffffffff

/-- The number that the digits at the front write after `value`, and how many digits there are. -/
def readNumber (value count : Nat) : List Char → Except Problem (Nat × Nat × List Char)
  | [] => return (value, count, [])
  | c :: cs =>
    match decimalValue? c with
    | none => return (value, count, c :: cs)
    | some d =>
      if value > (maxNumber - d) / 10 then .error .tooManyDigits
      else readNumber (value * 10 + d) (count + 1) cs

/-- A name that consists of digits is a number. -/
def index? (name : List Char) : Except Problem (Option Nat) := do
  let (value, count, rest) ← readNumber 0 0 name
  return if rest.isEmpty && count ≠ 0 then some value else none

inductive Accessor
  | attribute (name : List Char)
  | item (name : List Char)
  deriving DecidableEq, Repr

/-- What is read of an accessor. -/
inductive Reading
  | start
  | attribute (name : List Char)
  | item (name : List Char)

/-- The accessors after a field's name, up to the first one that is ill-formed. -/
def accessors : Reading → List Char → List Accessor × Option Problem
  | .start, [] => ([], none)
  | .start, c :: cs =>
    if c = '.' then accessors (.attribute []) cs
    else if c = '[' then accessors (.item []) cs
    else ([], some .badAccessor)
  | .attribute name, [] =>
    if name.isEmpty then ([], some .emptyAccessor) else ([.attribute name.reverse], none)
  | .attribute name, c :: cs =>
    if c = '.' ∨ c = '[' then
      if name.isEmpty then ([], some .emptyAccessor)
      else
        let (more, problem) := accessors (if c = '.' then .attribute [] else .item []) cs
        (.attribute name.reverse :: more, problem)
    else accessors (.attribute (c :: name)) cs
  | .item _, [] => ([], some .unclosedIndex)
  | .item name, c :: cs =>
    if c = ']' then
      if name.isEmpty then ([], some .emptyAccessor)
      else
        let (more, problem) := accessors .start cs
        (.item name.reverse :: more, problem)
    else accessors (.item (c :: name)) cs

/-- One step into a value. A text has characters by number and nothing else. -/
def access (value : List Char) : Accessor → Except Problem (List Char)
  | .attribute name => .error (.noAttribute (String.ofList name))
  | .item name => do
    match ← index? name with
    | none => .error .indexKind
    | some i =>
      match value[i]? with
      | none => .error .indexRange
      | some c => return [c]

abbrev Values := List (String × String)

/-- The value that a field names. There are no positions, so a number or an empty name finds
nothing. -/
def lookUp (values : Values) (name : List Char) : Except Problem (List Char) := do
  let first := name.takeWhile fun c => c ≠ '.' ∧ c ≠ '['
  match ← index? first with
  | some i => .error (.noPosition i)
  | none =>
    if first.isEmpty then .error (.noPosition 0)
    else
      match values.lookup (String.ofList first) with
      | none => .error (.unknownName (String.ofList first))
      | some value =>
        let (steps, problem) := accessors .start (name.drop first.length)
        let found ← steps.foldlM access value.toList
        match problem with
        | some problem => .error problem
        | none => return found

def convert (value : List Char) : Option Char → Except Problem (List Char)
  | none => return value
  | some 's' => return value
  | some 'r' => return quotedChars value
  | some 'a' => return (quotedAscii (String.ofList value)).toList
  | some c => .error (.unknownConversion c)

/-! ## Layouts -/

inductive Align
  | left
  | right
  | center
  | padded
  deriving DecidableEq, Repr

def align? (c : Char) : Option Align :=
  if c = '<' then some .left
  else if c = '>' then some .right
  else if c = '^' then some .center
  else if c = '=' then some .padded
  else none

/-- A layout as it is written; only some of it is allowed for texts. -/
structure Layout where
  fill : Char
  align : Align
  sign : Option Char
  negativeZero : Bool
  alternate : Bool
  width : Option Nat
  separator : Option Char
  precision : Option Nat
  format : Char
  deriving DecidableEq, Repr

/-- The fill and alignment at the front of a layout. -/
def readAlign : List Char → Option Char × Option Align × List Char
  | c :: d :: rest =>
    match align? d with
    | some a => (some c, some a, rest)
    | none =>
      match align? c with
      | some a => (none, some a, d :: rest)
      | none => (none, none, c :: d :: rest)
  | [c] =>
    match align? c with
    | some a => (none, some a, [])
    | none => (none, none, [c])
  | [] => (none, none, [])

/-- Drops one character if it is in the class. -/
def accept (p : Char → Bool) : List Char → Option Char × List Char
  | c :: cs => if p c then (some c, cs) else (none, c :: cs)
  | [] => (none, [])

def readSeparator (cs : List Char) : Except Problem (Option Char × List Char) :=
  let (comma, cs) := accept (· == ',') cs
  let (underscore, cs) := accept (· == '_') cs
  if underscore.isSome && (comma.isSome || cs.head? == some ',') then .error .bothSeparators
  else return (comma <|> underscore, cs)

def readPrecision (cs : List Char) : Except Problem (Option Nat × List Char) := do
  match accept (· == '.') cs with
  | (none, cs) => return (none, cs)
  | (some _, cs) =>
    let (value, count, rest) ← readNumber 0 0 cs
    if count = 0 then .error .missingPrecision else return (some value, rest)

/-- Formats whose numbers may have a separator between groups of digits. -/
def separatorAllowed (mark format : Char) : Bool :=
  ['d', 'e', 'f', 'g', 'E', 'G', '%', 'F'].contains format ||
    (mark == '_' && ['b', 'o', 'x', 'X'].contains format)

def readLayoutText (text : List Char) : Except Problem Layout := do
  let (fill, align, cs) := readAlign text
  let (sign, cs) := accept (fun c => c == ' ' || c == '+' || c == '-') cs
  let (zero, cs) := accept (· == 'z') cs
  let (alternate, cs) := accept (· == '#') cs
  let (pad, cs) := if fill.isSome then (none, cs) else accept (· == '0') cs
  let (width, count, cs) ← readNumber 0 0 cs
  let (separator, cs) ← readSeparator cs
  let (precision, cs) ← readPrecision cs
  let format ←
    match cs with
    | [] => pure 's'
    | [c] => pure c
    | _ => .error (.badLayout (String.ofList text))
  if let some mark := separator then
    unless separatorAllowed mark format do
      .error (.separator mark format)
  return {
    fill := (fill <|> pad).getD ' ', align := align.getD .left, sign,
    negativeZero := zero.isSome, alternate := alternate.isSome,
    width := if count = 0 then none else some width, separator, precision, format }

/-- What a layout asks for must make sense for a text. -/
def Layout.problem? (l : Layout) : Option Problem :=
  if l.format ≠ 's' then some (.unknownFormat l.format)
  else if l.sign = some ' ' then some .spaceSign
  else if l.sign.isSome then some .sign
  else if l.negativeZero then some .negativeZero
  else if l.alternate then some .alternateForm
  else if l.align = .padded then some .paddedAlignment
  else none

/-- A text cut to the precision and filled up to the width. -/
def Layout.apply (l : Layout) (value : List Char) : List Char :=
  let kept := match l.precision with
    | some p => value.take p
    | none => value
  let missing := l.width.getD 0 - kept.length
  let before := match l.align with
    | .right => missing
    | .center => missing / 2
    | _ => 0
  List.replicate before l.fill ++ kept ++ List.replicate (missing - before) l.fill

def layOut (value layout : List Char) : Except Problem (List Char) := do
  if layout.isEmpty then return value
  let l ← readLayoutText layout
  match l.problem? with
  | some problem => .error problem
  | none => return l.apply value

/-! ## Filling -/

/-- A field's text. `nested` fills the layout of a field that holds fields. -/
def fillField (nested : List Char → Except Problem (List Char)) (values : Values) (f : Field) :
    Except Problem (List Char) := do
  let value ← lookUp values f.name
  let value ← convert value f.conversion
  let layout ← if f.layoutHasFields then nested f.layout else pure f.layout
  layOut value layout

theorem readName_length {inBrackets : Bool} {cs name rest : List Char} {mark : Char}
    (h : readName inBrackets cs = .ok (name, mark, rest)) : rest.length < cs.length := by
  induction cs generalizing inBrackets name with
  | nil => simp [readName] at h
  | cons c cs ih =>
    simp only [readName] at h
    have step : ∀ b, (readName b cs >>= fun x => pure (c :: x.1, x.2.1, x.2.2)) =
        .ok (name, mark, rest) → rest.length < (c :: cs).length := by
      intro b hb
      cases hr : readName b cs with
      | error e => rw [hr] at hb; cases hb
      | ok x =>
        obtain ⟨name', mark', rest'⟩ := x
        rw [hr] at hb
        injection hb with hb
        simp only [Prod.mk.injEq] at hb
        obtain ⟨-, rfl, rfl⟩ := hb
        have := ih hr
        simp only [List.length_cons]; omega
    split at h
    · exact step _ h
    · split at h
      · cases h
      · split at h
        · injection h with h
          simp only [Prod.mk.injEq] at h
          obtain ⟨-, -, rfl⟩ := h
          simp
        · exact step _ h

theorem readLayout_length {depth : Nat} {cs layout rest : List Char}
    (h : readLayout depth cs = .ok (layout, rest)) : rest.length < cs.length := by
  induction cs generalizing depth layout with
  | nil => simp [readLayout] at h
  | cons c cs ih =>
    have step : ∀ d, (readLayout d cs >>= fun x => pure (c :: x.1, x.2)) =
        .ok (layout, rest) → rest.length < (c :: cs).length := by
      intro d hd
      cases hr : readLayout d cs with
      | error e => rw [hr] at hd; cases hd
      | ok x =>
        obtain ⟨layout', rest'⟩ := x
        rw [hr] at hd
        injection hd with hd
        simp only [Prod.mk.injEq] at hd
        obtain ⟨-, rfl⟩ := hd
        have := ih hr
        simp only [List.length_cons]; omega
    simp only [readLayout] at h
    split at h
    · split at h
      · injection h with h
        simp only [Prod.mk.injEq] at h
        obtain ⟨-, rfl⟩ := h
        simp
      · exact step _ h
    · exact step _ h

theorem withLayout_length {name cs rest : List Char} {conversion : Option Char} {f : Field}
    (h : withLayout name conversion cs = .ok (f, rest)) : rest.length < cs.length := by
  unfold withLayout at h
  cases hr : readLayout 0 cs with
  | error e => rw [hr] at h; cases h
  | ok x =>
    obtain ⟨layout, rest'⟩ := x
    rw [hr] at h
    injection h with h
    simp only [Prod.mk.injEq] at h
    obtain ⟨-, rfl⟩ := h
    exact readLayout_length hr

theorem readField_length {cs rest : List Char} {f : Field}
    (h : readField cs = .ok (f, rest)) : rest.length < cs.length := by
  unfold readField at h
  cases hr : readName false cs with
  | error e => rw [hr] at h; cases h
  | ok x =>
    obtain ⟨name, mark, after⟩ := x
    have hn := readName_length hr
    rw [hr] at h
    simp only [bind, Except.bind] at h
    split at h
    · injection h with h
      simp only [Prod.mk.injEq] at h
      obtain ⟨-, rfl⟩ := h
      exact hn
    · split at h
      · have := withLayout_length h; omega
      · split at h
        · cases h
        · have := withLayout_length h
          simp at this
        · simp only [List.length_cons] at hn
          split at h
          · injection h with h
            simp only [Prod.mk.injEq] at h
            obtain ⟨-, rfl⟩ := h
            omega
          · split at h
            · have := withLayout_length h; omega
            · cases h

/-- The text of a template whose layouts are filled by `nested`. -/
def fillWith (nested : List Char → Except Problem (List Char)) (values : Values) :
    List Char → Except Problem (List Char)
  | [] => return []
  | '{' :: '{' :: cs => ('{' :: ·) <$> fillWith nested values cs
  | '}' :: '}' :: cs => ('}' :: ·) <$> fillWith nested values cs
  | c :: cs =>
    if c = '}' then .error .singleClose
    else if c = '{' then
      if cs.isEmpty then .error .singleOpen
      else
        match _ : readField cs with
        | .error problem => .error problem
        | .ok (f, rest) => do
          let text ← fillField nested values f
          return text ++ (← fillWith nested values rest)
    else (c :: ·) <$> fillWith nested values cs
termination_by cs => cs.length
decreasing_by
  all_goals first
    | (have h := readField_length (by assumption); simp only [List.length_cons]; omega)
    | (simp only [List.length_cons]; omega)

/-- Fills a template. The layouts inside may hold fields, the layouts of those may not. -/
def fillChars (values : Values) (template : List Char) : Except Problem (List Char) :=
  fillWith (fillWith (fun _ => .error .tooDeep) values) values template

def fill (template : String) (values : Values) : Except Problem String :=
  String.ofList <$> fillChars values template.toList

end Pamphlet.Text.Template
