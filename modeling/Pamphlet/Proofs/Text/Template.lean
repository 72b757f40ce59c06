import Mathlib.Data.List.TakeWhile
import Pamphlet.Text.Template

/-!
# Templates with nothing but names in their fields

A template is plain if its braces are those of fields that are one name and no more, and doubled
braces (`Part`). Filling a plain template cannot fail: each field becomes the value as it stands
(`fill_written`). If there is a field then the value can be found in the text (`infix_filled`), and
different values give different texts (`filled_injective`).

The name in braces that is found in a plain template is a field, unless there are doubled braces
around it (`field_mem_of_infix_written`).
-/

namespace Pamphlet.Text.Template

/-! ## Parts -/

/-- A part of a plain template. -/
inductive Part
  | text (c : Char) (h : c ≠ '{' ∧ c ≠ '}')
  | openBrace
  | closeBrace
  | field

namespace Part

/-- How a part is written in a template whose fields have this name. -/
def written (name : List Char) : Part → List Char
  | text c _ => [c]
  | openBrace => ['{', '{']
  | closeBrace => ['}', '}']
  | field => '{' :: (name ++ ['}'])

/-- What becomes of a part when fields have this value. -/
def filled (value : List Char) : Part → List Char
  | text c _ => [c]
  | openBrace => ['{']
  | closeBrace => ['}']
  | field => value

def isField : Part → Bool
  | field => true
  | _ => false

end Part

open Template.Part

/-- A text that names a value: no mark ends it, and it does not write a number. -/
structure IsName (name : List Char) : Prop where
  ne_nil : name ≠ []
  unmarked : ∀ c ∈ name, c ≠ '{' ∧ c ≠ '}' ∧ c ≠ ':' ∧ c ≠ '!' ∧ c ≠ '[' ∧ c ≠ '.'
  no_number : ∀ c ∈ name, decimalValue? c = none

/-! ## Reading a field -/

theorem readName_name {name : List Char} (h : IsName name) (rest : List Char) :
    readName false (name ++ '}' :: rest) = .ok (name, '}', rest) := by
  have hmarks := h.unmarked
  clear h
  induction name with
  | nil => rfl
  | cons c cs ih =>
    obtain ⟨hopen, hclose, hcolon, hmark, hbracket, -⟩ := hmarks c List.mem_cons_self
    have hmore : readName false (cs ++ '}' :: rest) = .ok (cs, '}', rest) :=
      ih fun d hd => hmarks d (List.mem_cons_of_mem c hd)
    have hinside : (c == '[') = false := beq_eq_false_iff_ne.2 hbracket
    rw [List.cons_append, readName, if_neg (by decide), if_neg hopen,
      if_neg (by simp only [hclose, hcolon, hmark, or_self, not_false_eq_true]), hinside, hmore]
    rfl

theorem readField_name {name : List Char} (h : IsName name) (rest : List Char) :
    readField (name ++ '}' :: rest) = .ok (⟨name, none, [], false⟩, rest) := by
  rw [readField, readName_name h]
  rfl

theorem index?_name {name : List Char} (h : IsName name) : index? name = .ok none := by
  cases name with
  | nil => exact absurd rfl h.ne_nil
  | cons c cs =>
    rw [index?, readNumber, h.no_number c List.mem_cons_self]
    rfl

theorem lookUp_name {name : List Char} {values : Values} {value : String} (h : IsName name)
    (hvalue : values.lookup (String.ofList name) = some value) :
    lookUp values name = .ok value.toList := by
  have hfirst : (name.takeWhile fun c => c ≠ '.' ∧ c ≠ '[') = name := by
    rw [List.takeWhile_eq_self_iff]
    intro c hc
    obtain ⟨-, -, -, -, hbracket, hdot⟩ := h.unmarked c hc
    exact decide_eq_true ⟨hdot, hbracket⟩
  have hsome : name.isEmpty = false := List.isEmpty_eq_false_iff.2 h.ne_nil
  simp only [lookUp, hfirst, index?_name h, hsome, hvalue, List.drop_length, accessors]
  rfl

theorem fillField_name {name : List Char} {values : Values} {value : String}
    {nested : List Char → Except Problem (List Char)} (h : IsName name)
    (hvalue : values.lookup (String.ofList name) = some value) :
    fillField nested values ⟨name, none, [], false⟩ = .ok value.toList := by
  rw [fillField, lookUp_name h hvalue]
  rfl

/-! ## Filling -/

section

variable {nested : List Char → Except Problem (List Char)} {values : Values}

theorem fillWith_text {c : Char} (h : c ≠ '{' ∧ c ≠ '}') (rest : List Char) :
    fillWith nested values (c :: rest) = (c :: ·) <$> fillWith nested values rest := by
  rw [fillWith, if_neg h.2, if_neg h.1]
  · exact fun _ hc => absurd hc h.1
  · exact fun _ hc => absurd hc h.2

/-- A field that has been written is filled with its value. -/
theorem fillWith_field {name : List Char} {value : String} (h : IsName name)
    (hvalue : values.lookup (String.ofList name) = some value) (rest : List Char) :
    fillWith nested values ('{' :: (name ++ ['}']) ++ rest) =
      (value.toList ++ ·) <$> fillWith nested values rest := by
  have hread := readField_name h rest
  have hopen : ∀ cs, name ++ '}' :: rest ≠ '{' :: cs := by
    cases name with
    | nil => exact absurd rfl h.ne_nil
    | cons c cs =>
      intro cs' he
      exact (h.unmarked c List.mem_cons_self).1 (List.cons.inj he).1
  have hsome : (name ++ '}' :: rest).isEmpty = false := by
    rw [List.isEmpty_eq_false_iff]
    exact List.append_ne_nil_of_right_ne_nil name (List.cons_ne_nil _ _)
  rw [List.cons_append, List.append_assoc, List.singleton_append, fillWith, if_neg (by decide),
    if_pos rfl, hsome, if_neg (by decide)]
  · split
    · rename_i problem he
      rw [hread] at he
      cases he
    · rename_i f rest' he
      rw [hread] at he
      cases he
      rw [fillField_name h hvalue]
      cases fillWith nested values rest <;> rfl
  · exact fun cs _ he => hopen cs he
  · rintro cs ⟨⟩

/-- Filling a plain template goes well, and gives each part what becomes of it. -/
theorem fillWith_written {name : List Char} {value : String} (h : IsName name)
    (hvalue : values.lookup (String.ofList name) = some value) (parts : List Part) :
    fillWith nested values (parts.flatMap (written name)) =
      .ok (parts.flatMap (filled value.toList)) := by
  induction parts with
  | nil =>
    rw [List.flatMap_nil, fillWith]
    rfl
  | cons part parts ih =>
    rw [List.flatMap_cons, List.flatMap_cons]
    cases part with
    | text c hc =>
      change fillWith nested values (c :: parts.flatMap (written name)) = _
      rw [fillWith_text hc, ih]
      rfl
    | openBrace =>
      change fillWith nested values ('{' :: '{' :: parts.flatMap (written name)) = _
      rw [fillWith, ih]
      rfl
    | closeBrace =>
      change fillWith nested values ('}' :: '}' :: parts.flatMap (written name)) = _
      rw [fillWith, ih]
      rfl
    | field =>
      rw [written, fillWith_field h hvalue, ih]
      rfl

end

/-- **A template of texts and fields** is filled part by part. -/
theorem fill_written {template name : String} {parts : List Part} (hname : IsName name.toList)
    (h : template.toList = parts.flatMap (written name.toList)) (value : String) :
    fill template [(name, value)] = .ok (String.ofList (parts.flatMap (filled value.toList))) := by
  have hvalue : ([(name, value)] : Values).lookup (String.ofList name.toList) = some value := by
    rw [String.ofList_toList, List.lookup_cons_self]
  rw [fill, fillChars, h, fillWith_written hname hvalue]
  rfl

/-! ## What the text tells of the value -/

theorem infix_filled {parts : List Part} (h : .field ∈ parts) (value : List Char) :
    value <:+: parts.flatMap (filled value) := by
  obtain ⟨before, after, rfl⟩ := List.append_of_mem h
  rw [List.flatMap_append, List.flatMap_cons]
  exact ⟨before.flatMap (filled value), after.flatMap (filled value), List.append_assoc _ _ _⟩

/-- Every field is as long as the value, and every other part is one character. -/
theorem length_filled (parts : List Part) (value : List Char) :
    (parts.flatMap (filled value)).length =
      parts.countP (!·.isField) + parts.countP isField * value.length := by
  induction parts with
  | nil => simp
  | cons part parts ih =>
    rw [List.flatMap_cons, List.length_append, ih]
    cases part with
    | field =>
      rw [List.countP_cons_of_neg (by decide), List.countP_cons_of_pos rfl, filled, Nat.add_mul]
      omega
    | text | openBrace | closeBrace =>
      rw [List.countP_cons_of_pos rfl, List.countP_cons_of_neg (by simp [isField]), filled,
        List.length_singleton]
      omega

theorem length_eq_of_filled_eq {parts : List Part} (h : .field ∈ parts) {value value' : List Char}
    (heq : parts.flatMap (filled value) = parts.flatMap (filled value')) :
    value.length = value'.length := by
  have hlength := congrArg List.length heq
  rw [length_filled, length_filled] at hlength
  have hcount : 0 < parts.countP isField := List.countP_pos_iff.2 ⟨.field, h, rfl⟩
  exact Nat.eq_of_mul_eq_mul_left hcount (Nat.add_left_cancel hlength)

/-- A template with a field gives different texts for different values. -/
theorem filled_injective {parts : List Part} (h : .field ∈ parts) {value value' : List Char}
    (heq : parts.flatMap (filled value) = parts.flatMap (filled value')) : value = value' := by
  have hlength := length_eq_of_filled_eq h heq
  -- up to the first field the two texts are the same
  induction parts with
  | nil => exact absurd h List.not_mem_nil
  | cons part parts ih =>
    rw [List.flatMap_cons, List.flatMap_cons] at heq
    cases part with
    | field => exact List.append_inj_left heq hlength
    | text | openBrace | closeBrace =>
      rcases List.mem_cons.1 h with hpart | h
      · cases hpart
      · exact ih h (List.append_cancel_left heq)

/-! ## Where the name can be found -/

/-- A brace that closes a name is the first of two, where no field is open. -/
theorem doubled_of_written {name : List Char} (hname : ∀ c ∈ name, c ≠ '{' ∧ c ≠ '}')
    {field : List Char} {parts : List Part} {rest : List Char}
    (h : parts.flatMap (written field) = name ++ '}' :: rest) : ∃ rest', rest = '}' :: rest' := by
  induction name generalizing parts with
  | nil =>
    match parts, h with
    | .text c hc :: _, h => exact absurd (List.cons.inj h).1 hc.2
    | .closeBrace :: _, h => exact ⟨_, (List.cons.inj h).2.symm⟩
  | cons c cs ih =>
    obtain ⟨hopen, hclose⟩ := hname c List.mem_cons_self
    match parts, h with
    | .text _ _ :: parts, h =>
      exact ih (fun d hd => hname d (List.mem_cons_of_mem c hd)) (List.cons.inj h).2
    | .openBrace :: _, h => exact absurd (List.cons.inj h).1.symm hopen
    | .closeBrace :: _, h => exact absurd (List.cons.inj h).1.symm hclose
    | .field :: _, h => exact absurd (List.cons.inj h).1.symm hopen

/-- The name in braces stands for a field, or in doubled braces. -/
theorem field_mem_of_infix_written {name : List Char} (hname : IsName name) {parts : List Part}
    (h : '{' :: (name ++ ['}']) <:+: parts.flatMap (written name)) :
    .field ∈ parts ∨ '{' :: '{' :: (name ++ ['}', '}']) <:+: parts.flatMap (written name) := by
  obtain ⟨before, after, h⟩ := h
  rw [List.append_assoc, List.cons_append, List.append_assoc, List.singleton_append] at h
  induction parts generalizing before with
  | nil => exact absurd h (by simp)
  | cons part parts ih =>
    -- the part lies before the name
    have later :
        ∀ before', before' ++ '{' :: (name ++ '}' :: after) = parts.flatMap (written name) →
        .field ∈ part :: parts ∨
          '{' :: '{' :: (name ++ ['}', '}']) <:+: (part :: parts).flatMap (written name) := by
      intro before' h'
      refine (ih before' h').imp (List.mem_cons_of_mem part) fun hinfix => ?_
      exact hinfix.trans (List.suffix_append (part.written name) _).isInfix
    cases part with
    | field => exact .inl List.mem_cons_self
    | text c hc =>
      match before, h with
      | [], h => exact absurd (List.cons.inj h).1.symm hc.1
      | _ :: before', h => exact later before' (List.cons.inj h).2
    | closeBrace =>
      match before, h with
      | _ :: _ :: before', h => exact later before' (List.cons.inj (List.cons.inj h).2).2
    | openBrace =>
      match before, h with
      | [], h =>
        -- the name would begin with a brace
        replace h := (List.cons.inj h).2
        cases name with
        | nil => exact absurd rfl hname.ne_nil
        | cons c cs => exact absurd (List.cons.inj h).1 (hname.unmarked c List.mem_cons_self).1
      | [_], h =>
        replace h : name ++ '}' :: after = parts.flatMap (written name) :=
          (List.cons.inj (List.cons.inj h).2).2
        obtain ⟨rest, rfl⟩ := doubled_of_written
          (fun c hc => ⟨(hname.unmarked c hc).1, (hname.unmarked c hc).2.1⟩) h.symm
        refine .inr ⟨[], rest, ?_⟩
        rw [List.flatMap_cons, ← h]
        simp [written]
      | _ :: _ :: before', h => exact later before' (List.cons.inj (List.cons.inj h).2).2

/-! ## Plain templates -/

/-- A template with no other braces than doubled ones and those of fields that are the name. If the
name stands in doubled braces, where it is no field, then there is a field besides. -/
structure Plain (name template : String) : Prop where
  parts : ∃ parts : List Part, template.toList = parts.flatMap (written name.toList) ∧
    ('{' :: '{' :: (name.toList ++ ['}', '}']) <:+: template.toList → .field ∈ parts)

theorem exists_text {cs : List Char} (h : ∀ c ∈ cs, c ≠ '{' ∧ c ≠ '}') (name : List Char) :
    ∃ parts : List Part, parts.flatMap (written name) = cs := by
  induction cs with
  | nil => exact ⟨[], rfl⟩
  | cons c cs ih =>
    obtain ⟨parts, hparts⟩ := ih fun d hd => h d (List.mem_cons_of_mem c hd)
    exact ⟨.text c (h c List.mem_cons_self) :: parts, congrArg (c :: ·) hparts⟩

/-- A template with one field and no other braces is plain. -/
theorem plain_of_field {name template : String} (before after : List Char)
    (htemplate : template.toList = before ++ '{' :: (name.toList ++ ['}']) ++ after)
    (hbefore : ∀ c ∈ before, c ≠ '{' ∧ c ≠ '}') (hafter : ∀ c ∈ after, c ≠ '{' ∧ c ≠ '}') :
    Plain name template := by
  obtain ⟨first, hfirst⟩ := exists_text hbefore name.toList
  obtain ⟨last, hlast⟩ := exists_text hafter name.toList
  refine ⟨first ++ .field :: last, ?_, fun _ => ?_⟩
  · rw [htemplate, List.flatMap_append, List.flatMap_cons, hfirst, hlast, written,
      List.append_assoc]
  · exact List.mem_append_right first List.mem_cons_self

/-- A template that tells what it has been filled with. -/
structure Tells (template name : String) : Prop where
  /-- Filling cannot fail, and the value can be found in the text. -/
  fill : ∀ value, ∃ text, fill template [(name, value)] = .ok text ∧ value.toList <:+: text.toList
  injective : ∀ value value' text, Template.fill template [(name, value)] = .ok text →
    Template.fill template [(name, value')] = .ok text → value = value'

theorem Plain.tells {name template : String} (h : Plain name template) (hname : IsName name.toList)
    (hfield : '{' :: (name.toList ++ ['}']) <:+: template.toList) : Tells template name := by
  obtain ⟨parts, htemplate, hunmasked⟩ := h.parts
  have hmem : .field ∈ parts := by
    rw [htemplate] at hfield hunmasked
    exact (field_mem_of_infix_written hname hfield).elim id hunmasked
  refine ⟨fun value => ⟨_, fill_written hname htemplate value, ?_⟩, ?_⟩
  · rw [String.toList_ofList]
    exact infix_filled hmem value.toList
  · intro value value' text hvalue hvalue'
    rw [fill_written hname htemplate] at hvalue hvalue'
    cases hvalue
    have heq : parts.flatMap (filled value'.toList) = parts.flatMap (filled value.toList) :=
      String.ofList_injective (Except.ok.inj hvalue')
    exact (String.toList_injective (filled_injective hmem heq)).symm

end Pamphlet.Text.Template
