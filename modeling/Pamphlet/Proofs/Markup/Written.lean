import Mathlib.Data.List.Forall2
import Pamphlet.Markup.Content
import Pamphlet.Markup.Print
import Pamphlet.Proofs.Markup.Formed

/-!
# Tokens of written markup

What the readers of tokens make of what was written: names, attributes, tags and escaped text. An
escaped value is read back character by character (`tagRest_value`); text is read in pieces, since a
reference ends the run before it, and its line ends are joined (`token_data`, `token_escaped`).
-/

namespace Pamphlet.Markup

open Scanner

/-- A character that ends a name and is no part of one. -/
structure EndsName (c : Char) : Prop where
  outside : isNameChar c = false
  no_colon : c ≠ ':'
  whole : c ≠ truncated

theorem endsName_space : EndsName ' ' :=
  ⟨by decide, by decide, by decide⟩

theorem endsName_angle : EndsName '>' :=
  ⟨by decide, by decide, by decide⟩

theorem not_colon_of_isNameChar {c : Char} (h : isNameChar c = true) : c ≠ ':' := by
  rintro rfl
  exact absurd h (by decide)

theorem ne_of_isNameStart {c d : Char} (hc : isNameStart c = true) (hd : isNameStart d = false) :
    c ≠ d := by
  rintro rfl
  rw [hd] at hc
  cases hc

theorem not_isSpace_of_isNameStart {c : Char} (h : isNameStart c = true) : isSpace c = false := by
  cases hspace : isSpace c with
  | false => rfl
  | true =>
    simp only [isSpace, Bool.or_eq_true, beq_iff_eq] at hspace
    rcases hspace with ((rfl | rfl) | rfl) | rfl <;> exact absurd h (by decide)

/-! ## Names -/

section

variable {c : Char} {cs rest : List Char}

theorem nameStart_cons (h : isNameStart c = true) : nameStart (c :: cs) = .ok (c, cs) := by
  simp only [nameStart, h, if_true]

/-- A name ends where no more of its characters come. -/
theorem qualifiedRest_name (hcs : ∀ d ∈ cs, isNameChar d = true) (hc : EndsName c) :
    qualifiedRest false (cs ++ c :: rest) = .ok (cs, c :: rest) := by
  induction cs with
  | nil =>
    rw [List.nil_append, qualifiedRest]
    · simp only [hc.outside, hc.no_colon, hc.whole, if_false, Bool.false_eq_true]
    · intro _ _ he
      exact absurd he hc.no_colon
  | cons d ds ih =>
    have hd := hcs d List.mem_cons_self
    rw [List.cons_append, qualifiedRest]
    · rw [if_pos hd, ih fun x hx => hcs x (List.mem_cons_of_mem d hx)]
      rfl
    · intro _ _ he
      exact absurd he (not_colon_of_isNameChar hd)

/-- A written name is read back. -/
theorem qualifiedName_of_isName {name : String} (h : IsName name) (hc : EndsName c) :
    qualifiedName (name.toList ++ c :: rest) = .ok (name, c :: rest) := by
  obtain ⟨d, ds, hname, hd, hds⟩ := h
  have hback : String.ofList (d :: ds) = name := by
    rw [← hname, String.ofList_toList]
  unfold qualifiedName
  rw [hname, List.cons_append]
  simp only [bind, StateT.bind, Except.bind, nameStart_cons hd, qualifiedRest_name hds hc]
  rw [← hback]
  rfl

theorem closingName_name (hcs : ∀ d ∈ cs, isNameChar d = true) :
    closingName (cs ++ '>' :: rest) = .ok (cs, '>' :: rest) := by
  induction cs with
  | nil => rfl
  | cons d ds ih =>
    have hd := hcs d List.mem_cons_self
    rw [List.cons_append, closingName, if_pos (Or.inl hd),
      ih fun x hx => hcs x (List.mem_cons_of_mem d hx)]
    rfl

end

/-! ## Values -/

/-- The pieces of a value stand for given characters, whatever is declared. -/
def Spell (ps : List Piece) (cs : List Char) : Prop :=
  ∀ lineEnds expand, Dtd.fillPieces lineEnds expand ps = .ok cs

theorem spell_nil : Spell [] [] :=
  fun _ _ => rfl

section

variable {c : Char} {cs : List Char} {ps : List Piece}

theorem Spell.char (h : Spell ps cs) : Spell (.char c :: ps) (c :: cs) := by
  intro lineEnds expand
  rw [Dtd.fillPieces, h]
  rfl

theorem Spell.blank (h : Spell ps cs) : Spell (.blank :: ps) (' ' :: cs) := by
  intro lineEnds expand
  rw [Dtd.fillPieces, h]
  rfl

theorem Spell.number (left : List Char) (h : Spell ps cs) :
    Spell (.reference (.number (some c)) left :: ps) (c :: cs) := by
  intro lineEnds expand
  rw [Dtd.fillPieces, h]
  rfl

theorem Spell.entity {name : String} (hname : predefined? name = some c) (left : List Char)
    (h : Spell ps cs) : Spell (.reference (.entity name) left :: ps) (c :: cs) := by
  intro lineEnds expand
  rw [Dtd.fillPieces]
  simp only [hname, h lineEnds expand]
  rfl

end

section

variable (name : String) (left : List Char)

/-- A character of a value is written so that one piece is read which stands for it. -/
theorem tagRest_valueChar {c : Char} (hc : isXmlChar c = true) (pieces : List Piece)
    (rest : List Char) : ∃ p, tagRest (.inValue name left '"' pieces) (valueChar c ++ rest) =
        tagRest (.inValue name left '"' (p :: pieces)) rest ∧
      ∀ ps cs, Spell ps cs → Spell (p :: ps) (c :: cs) := by
  by_cases hquote : c = '"'
  · subst hquote
    exact ⟨_, rfl, fun _ _ h => h.entity rfl _⟩
  by_cases hreturn : c = '\r'
  · subst hreturn
    exact ⟨_, rfl, fun _ _ h => h.number _⟩
  by_cases hfeed : c = '\n'
  · subst hfeed
    exact ⟨_, rfl, fun _ _ h => h.number _⟩
  by_cases htab : c = '\t'
  · subst htab
    exact ⟨_, rfl, fun _ _ h => h.number _⟩
  by_cases hamp : c = '&'
  · subst hamp
    exact ⟨_, rfl, fun _ _ h => h.entity rfl _⟩
  by_cases hopen : c = '<'
  · subst hopen
    exact ⟨_, rfl, fun _ _ h => h.entity rfl _⟩
  by_cases hclose : c = '>'
  · subst hclose
    exact ⟨_, rfl, fun _ _ h => h.entity rfl _⟩
  have hwritten : valueChar c = [c] := by
    simp only [valueChar, textChar, hquote, hreturn, hfeed, htab, hamp, hopen, hclose, if_false]
  rw [hwritten, List.singleton_append, tagRest]
  by_cases hspace : c = ' '
  · subst hspace
    exact ⟨_, rfl, fun _ _ h => h.blank⟩
  have hnospace : isSpace c = false := by
    simp [isSpace, hspace, htab, hfeed, hreturn]
  refine ⟨.char c, ?_, fun _ _ h => h.char⟩
  simp [TagState.next, TagState.atValue, hquote, hamp, hopen, hreturn, hnospace, hc]

/-- A value is read back as it was before it was escaped. -/
theorem tagRest_value {cs : List Char} (hcs : IsText cs) (pieces : List Piece) (rest : List Char) :
    ∃ ps, tagRest (.inValue name left '"' pieces) (cs.flatMap valueChar ++ rest) =
        tagRest (.inValue name left '"' (ps.reverse ++ pieces)) rest ∧ Spell ps cs := by
  induction cs generalizing pieces with
  | nil => exact ⟨[], rfl, spell_nil⟩
  | cons c cs ih =>
    obtain ⟨p, hp, hspell⟩ := tagRest_valueChar name left (hcs c List.mem_cons_self) pieces
      (cs.flatMap valueChar ++ rest)
    obtain ⟨ps, hps, hrest⟩ := ih (fun x hx => hcs x (List.mem_cons_of_mem c hx)) (p :: pieces)
    refine ⟨p :: ps, ?_, hspell ps cs hrest⟩
    rw [List.flatMap_cons, List.append_assoc, hp, hps, List.reverse_cons, List.append_assoc,
      List.singleton_append]

end

/-! ## Tags -/

/-- An attribute that is written and read back: its name binds no prefix. -/
structure IsAttribute (a : String × String) : Prop where
  name : IsName a.1
  unbound : a.1 ≠ "xmlns"
  value : IsText a.2.toList

/-- The attributes of a tag as they are written. -/
def writtenAttributes (attributes : Attributes) : List Char :=
  attributes.flatMap fun a =>
    ' ' :: (a.1.toList ++ '=' :: '"' :: (a.2.toList.flatMap valueChar ++ ['"']))

/-- An attribute is read as it was written. -/
structure ReadsAs (a : String × String) (raw : RawAttribute) : Prop where
  name : raw.name = a.1
  value : Spell raw.value a.2.toList

section

variable {rest : List Char}

/-- The name of an attribute is read up to its equals sign. -/
theorem tagRest_inName {cs : List Char} (hcs : ∀ d ∈ cs, isNameChar d = true)
    (read left : List Char) : tagRest (.inName read false left) (cs ++ '=' :: rest) =
      tagRest (.beforeValue (nameOf (cs.reverse ++ read)) left) rest := by
  induction cs generalizing read with
  | nil => rfl
  | cons d ds ih =>
    have hd := hcs d List.mem_cons_self
    rw [List.cons_append, tagRest]
    simp only [TagState.next, hd, if_true]
    rw [ih (fun x hx => hcs x (List.mem_cons_of_mem d hx)), List.reverse_cons, List.append_assoc,
      List.singleton_append]

/-- A written attribute is read back, with its value as it was before it was escaped. -/
theorem tagRest_attribute {a : String × String} (ha : IsAttribute a) (rest : List Char) :
    ∃ raw, ReadsAs a raw ∧ tagRest .afterValue
        (' ' :: (a.1.toList ++ '=' :: '"' :: (a.2.toList.flatMap valueChar ++ '"' :: rest))) =
      (do
        let ((attributes, empty), rest) ← tagRest .afterValue rest
        return ((raw :: attributes, empty), rest)) := by
  obtain ⟨c, cs, hname, hc, hcs⟩ := ha.name
  have hback : nameOf (cs.reverse ++ [c]) = a.1 := by
    rw [nameOf, List.reverse_append, List.reverse_reverse, List.reverse_singleton,
      List.singleton_append, ← hname, String.ofList_toList]
  have hgap : ∀ more, tagRest .afterValue (' ' :: c :: more) =
      tagRest (.inName [c] false (c :: more)) more := by
    intro more
    have hspace := not_isSpace_of_isNameStart hc
    have hangle : c ≠ '>' := ne_of_isNameStart hc (by decide)
    have hslash : c ≠ '/' := ne_of_isNameStart hc (by decide)
    rw [tagRest]
    simp only [TagState.next, show isSpace ' ' = true from rfl, if_true]
    rw [tagRest]
    simp only [TagState.next, TagState.atGap, hspace, hangle, hslash, hc, if_false, if_true,
      Bool.false_eq_true]
  let value : List Char := a.2.toList.flatMap valueChar ++ '"' :: rest
  let left : List Char := c :: (cs ++ '=' :: '"' :: value)
  obtain ⟨ps, hps, hspell⟩ := tagRest_value a.1 left ha.value [] ('"' :: rest)
  refine ⟨⟨a.1, ps, left⟩, ⟨rfl, hspell⟩, ?_⟩
  have hquote :
      tagRest (.beforeValue a.1 left) ('"' :: value) = tagRest (.inValue a.1 left '"' []) value :=
    rfl
  have hend : tagRest (.inValue a.1 left '"' (ps.reverse ++ [])) ('"' :: rest) =
      (do
        let ((attributes, empty), rest) ← tagRest .afterValue rest
        return (((⟨a.1, ps, left⟩ : RawAttribute) :: attributes, empty), rest)) := by
    rw [tagRest]
    simp only [TagState.next, TagState.atValue, if_true, List.append_nil, List.reverse_reverse]
  rw [hname, List.cons_append, hgap, tagRest_inName hcs, hback, hquote, hps, hend]

/-- The attributes of a tag are read as they were written, whatever ends the tag. -/
theorem tagRest_attributes {attributes : Attributes} (h : ∀ a ∈ attributes, IsAttribute a)
    {empty : Bool} {stop : List Char} (hstop : tagRest .afterValue stop = .ok (([], empty), rest)) :
    ∃ raws, List.Forall₂ ReadsAs attributes raws ∧
      tagRest .afterValue (writtenAttributes attributes ++ stop) = .ok ((raws, empty), rest) := by
  induction attributes with
  | nil => exact ⟨[], .nil, hstop⟩
  | cons a attributes ih =>
    obtain ⟨raws, hraws, hread⟩ := ih fun b hb => h b (List.mem_cons_of_mem a hb)
    obtain ⟨raw, hraw, hfirst⟩ := tagRest_attribute (h a List.mem_cons_self)
      (writtenAttributes attributes ++ stop)
    refine ⟨raw :: raws, .cons hraw hraws, ?_⟩
    have hwritten : writtenAttributes (a :: attributes) ++ stop =
        ' ' :: (a.1.toList ++ '=' :: '"' :: (a.2.toList.flatMap valueChar ++
          '"' :: (writtenAttributes attributes ++ stop))) := by
      simp [writtenAttributes, List.append_assoc]
    rw [hwritten, hfirst, hread]
    rfl

end

/-! ## Tokens -/

theorem token_name {c : Char} (hc : isNameStart c = true) (cs : List Char) :
    token ('<' :: c :: cs) = scanned ('<' :: c :: cs) openingTag (c :: cs) := by
  have hslash : c ≠ '/' := ne_of_isNameStart hc (by decide)
  have hmark : c ≠ '!' := ne_of_isNameStart hc (by decide)
  have hquestion : c ≠ '?' := ne_of_isNameStart hc (by decide)
  unfold token
  split
  case h_1 heq => exact absurd (List.cons.inj (List.cons.inj heq).2).1 hslash
  case h_2 heq => exact absurd (List.cons.inj (List.cons.inj heq).2).1 hmark
  case h_3 heq => exact absurd (List.cons.inj (List.cons.inj heq).2).1 hmark
  case h_4 heq => exact absurd (List.cons.inj (List.cons.inj heq).2).1 hmark
  case h_5 heq => exact absurd (List.cons.inj (List.cons.inj heq).2).1 hquestion
  case h_6 heq => cases heq; rfl
  case h_7 heq => cases heq
  case h_8 h _ => exact absurd rfl (h _)

/-- An opening tag is read as it was written. -/
theorem token_opening {name : String} (hname : IsName name) {attributes : Attributes}
    (h : ∀ a ∈ attributes, IsAttribute a) {empty : Bool} {x : Char} {stop rest : List Char}
    (hx : EndsName x) (hstop : tagRest .afterValue (x :: stop) = .ok (([], empty), rest)) :
    ∃ raws, List.Forall₂ ReadsAs attributes raws ∧
      token ('<' :: (name.toList ++ (writtenAttributes attributes ++ x :: stop))) =
        .ok (.opening name raws empty, rest) := by
  obtain ⟨raws, hraws, hread⟩ := tagRest_attributes h hstop
  refine ⟨raws, hraws, ?_⟩
  have hafter : ∃ y more, EndsName y ∧ writtenAttributes attributes ++ x :: stop = y :: more := by
    cases attributes with
    | nil => exact ⟨x, stop, hx, rfl⟩
    | cons a attributes => exact ⟨' ', _, endsName_space, rfl⟩
  obtain ⟨y, more, hy, hmore⟩ := hafter
  rw [hmore] at hread
  have hscan : openingTag (name.toList ++ y :: more) = .ok (.opening name raws empty, rest) := by
    unfold openingTag
    simp only [bind, StateT.bind, Except.bind, qualifiedName_of_isName hname hy, hread]
    rfl
  obtain ⟨c, cs, htoList, hc, -⟩ := hname
  rw [hmore]
  rw [htoList, List.cons_append] at hscan ⊢
  rw [token_name hc, scanned, hscan]

/-- A closing tag is read as it was written. -/
theorem token_closing {name : String} (hname : IsName name) (rest : List Char) :
    ∃ left, token ('<' :: '/' :: (name.toList ++ '>' :: rest)) =
    .ok (.closing name left, rest) := by
  obtain ⟨c, cs, htoList, hc, hcs⟩ := hname
  have hback : String.ofList (c :: cs) = name := by
    rw [← htoList, String.ofList_toList]
  refine ⟨name.toList ++ '>' :: rest, ?_⟩
  have hscan : closingTag (c :: (cs ++ '>' :: rest)) =
      .ok (.closing name (c :: (cs ++ '>' :: rest)), rest) := by
    unfold closingTag
    simp only [bind, StateT.bind, Except.bind, get, getThe, MonadStateOf.get, StateT.get, pure,
      Except.pure, nameStart_cons hc, closingName_name hcs]
    rw [← hback]
    rfl
  have htoken : token ('<' :: '/' :: (name.toList ++ '>' :: rest)) =
      scanned ('<' :: '/' :: (name.toList ++ '>' :: rest)) closingTag
        (name.toList ++ '>' :: rest) := rfl
  rw [htoken, scanned, htoList, List.cons_append, hscan]

/-- A character that stands for itself in text. -/
structure IsPlain (c : Char) : Prop where
  allowed : isXmlChar c = true
  unescaped : c ≠ '&' ∧ c ≠ '<' ∧ c ≠ '>'

/-- Text without angles does not end a section of raw text. -/
theorem not_section_end {cs : List Char} (hcs : ∀ c ∈ cs, c ≠ '>') {x : Char}
    (hx : x = '<' ∨ x = '&')
    (rest more : List Char) : cs ++ x :: rest ≠ ']' :: ']' :: '>' :: more := by
  intro he
  match cs with
  | [] =>
    have hbracket : x = ']' := (List.cons.inj he).1
    rcases hx with rfl | rfl <;> exact absurd hbracket (by decide)
  | [_] =>
    have hbracket : x = ']' := (List.cons.inj (List.cons.inj he).2).1
    rcases hx with rfl | rfl <;> exact absurd hbracket (by decide)
  | [_, _] =>
    have hangle : x = '>' := (List.cons.inj (List.cons.inj (List.cons.inj he).2).2).1
    rcases hx with rfl | rfl <;> exact absurd hangle (by decide)
  | _ :: _ :: c :: _ =>
    have hangle : c = '>' := (List.cons.inj (List.cons.inj (List.cons.inj he).2).2).1
    exact hcs c (by simp) hangle

/-- Plain characters are read up to the next tag or reference. -/
theorem dataRun_plain {cs : List Char} (hcs : ∀ c ∈ cs, IsPlain c) {x : Char}
    (hx : x = '<' ∨ x = '&')
    (rest : List Char) : dataRun (cs ++ x :: rest) = .ok (cs, x :: rest) := by
  induction cs with
  | nil =>
    rcases hx with rfl | rfl
    · rfl
    · rfl
  | cons c cs ih =>
    have hc := hcs c List.mem_cons_self
    have hmarkup : ¬(c = '<' ∨ c = '&') := fun h => h.elim hc.unescaped.2.1 hc.unescaped.1
    rw [List.cons_append, dataRun]
    · rw [if_neg hmarkup, if_pos hc.allowed, ih fun d hd => hcs d (List.mem_cons_of_mem c hd)]
      rfl
    · intro more hfirst hnext
      refine not_section_end (fun d hd => (hcs d hd).unescaped.2.2) hx rest more ?_
      rw [List.cons_append, hfirst, hnext]

/-- A run of text up to the next markup or reference. -/
theorem token_data {cs : List Char} (hne : cs ≠ []) (hcs : ∀ c ∈ cs, IsPlain c) {x : Char}
    (hx : x = '<' ∨ x = '&') (rest : List Char) :
    token (cs ++ x :: rest) = .ok (.data cs, x :: rest) := by
  obtain ⟨c, ds, rfl⟩ := List.exists_cons_of_ne_nil hne
  have hc := (hcs c List.mem_cons_self).unescaped
  have hrun := dataRun_plain hcs hx rest
  rw [List.cons_append] at hrun ⊢
  unfold token
  split
  case h_1 heq => exact absurd (List.cons.inj heq).1 hc.2.1
  case h_2 heq => exact absurd (List.cons.inj heq).1 hc.2.1
  case h_3 heq => exact absurd (List.cons.inj heq).1 hc.2.1
  case h_4 heq => exact absurd (List.cons.inj heq).1 hc.2.1
  case h_5 heq => exact absurd (List.cons.inj heq).1 hc.2.1
  case h_6 heq => exact absurd (List.cons.inj heq).1 hc.2.1
  case h_7 heq => exact absurd (List.cons.inj heq).1 hc.1
  case h_8 =>
    rw [hrun]
    rfl

/-- A character that is escaped in text is read as a reference to it. -/
theorem token_textChar {c : Char} (hc : textChar c ≠ [c]) (rest : List Char) :
    ∃ name, predefined? name = some c ∧ token (textChar c ++ rest) =
    .ok (.reference (.entity name), rest) := by
  by_cases hamp : c = '&'
  · subst hamp
    exact ⟨"amp", rfl, rfl⟩
  by_cases hopen : c = '<'
  · subst hopen
    exact ⟨"lt", rfl, rfl⟩
  by_cases hclose : c = '>'
  · subst hclose
    exact ⟨"gt", rfl, rfl⟩
  · refine absurd ?_ hc
    simp only [textChar, hamp, hopen, hclose, if_false]

end Pamphlet.Markup
