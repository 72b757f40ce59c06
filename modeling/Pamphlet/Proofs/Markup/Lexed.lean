import Pamphlet.Markup.Dtd
import Pamphlet.Proofs.Markup.Formed
import Pamphlet.Proofs.Outcome

/-!
# What tokens are made of

Whatever a text holds, the names in its tags are names, and its character data, its references and
the values in its tags give characters that a document may hold: `token_formed`.
-/

namespace Pamphlet.Markup

open Scanner

/-! ## Names -/

section

variable {cs name rest : List Char} {c : Char}

theorem nameStart_ok (h : nameStart cs = .ok (c, rest)) :
    cs = c :: rest ∧ isNameStart c = true := by
  unfold nameStart at h
  split at h
  · cases h
  · split at h
    · rename_i hc
      cases h
      exact ⟨rfl, hc⟩
    · cases h

/-- The rest of a name: name characters, or these and a colon and a name. -/
theorem qualifiedRest_ok {colonSeen : Bool} (h : qualifiedRest colonSeen cs = .ok (name, rest)) :
    (∀ d ∈ name, isNameChar d = true) ∨
      colonSeen = false ∧ ∃ front part, (∀ d ∈ front, isNameChar d = true) ∧ IsNameText part ∧
        name = front ++ ':' :: part := by
  fun_induction qualifiedRest colonSeen cs generalizing name rest with
  | case1 => cases h
  | case2 => cases h
  | case3 colonSeen c cs hseen hc ih =>
    obtain ⟨⟨name', rest'⟩, h', he⟩ := bind_ok h
    cases he
    rcases ih h' with hall | ⟨htrue, -⟩
    · refine .inr ⟨by simpa using hseen, [], c :: name', List.forall_mem_nil _, ?_, rfl⟩
      exact ⟨c, name', rfl, hc, hall⟩
    · cases htrue
  | case4 => cases h
  | case5 colonSeen c cs hpair hc ih =>
    obtain ⟨⟨name', rest'⟩, h', he⟩ := bind_ok h
    cases he
    rcases ih h' with hall | ⟨hseen, front, part, hfront, hpart, hname⟩
    · exact .inl (List.forall_mem_cons.2 ⟨hc, hall⟩)
    · refine .inr ⟨hseen, c :: front, part, List.forall_mem_cons.2 ⟨hc, hfront⟩, hpart, ?_⟩
      rw [hname, List.cons_append]
  | case6 => cases h
  | case7 => cases h
  | case8 =>
    cases h
    exact .inl (List.forall_mem_nil _)

/-- A qualified name that has been read is one. -/
theorem qualifiedName_ok {name : String} (h : qualifiedName cs = .ok (name, rest)) :
    IsQualified name := by
  unfold qualifiedName at h
  obtain ⟨⟨c, rest₁⟩, h₁, h⟩ := bind_ok h
  obtain ⟨⟨more, rest₂⟩, h₂, h⟩ := bind_ok h
  cases h
  obtain ⟨-, hc⟩ := nameStart_ok h₁
  rcases qualifiedRest_ok h₂ with hall | ⟨-, front, part, hfront, hpart, rfl⟩
  · left
    unfold IsName
    rw [String.toList_ofList]
    exact ⟨c, more, rfl, hc, hall⟩
  · right
    refine ⟨c :: front, part, ⟨c, front, rfl, hc, hfront⟩, hpart, ?_⟩
    rw [String.toList_ofList, List.cons_append]

end

/-! ## References -/

/-- A reference by number names a character that a document may hold. -/
def Scanner.Reference.Formed : Reference → Prop
  | .number (some c) => isXmlChar c = true
  | _ => True

/-- A number stands for a character only if a document may hold it. -/
theorem charOfNumber?_ok {n : Nat} {c : Char} (h : charOfNumber? n = some c) :
    isXmlChar c = true := by
  unfold charOfNumber? at h
  by_cases hn : n.isValidChar
  · rw [dif_pos hn] at h
    by_cases hc : isXmlChar (Char.ofNatAux n hn) = true
    · cases (if_pos hc).symm.trans h
      exact hc
    · cases (if_neg hc).symm.trans h
  · rw [dif_neg hn] at h
    cases h

theorem number_formed (n : Nat) : (Reference.number (charOfNumber? n)).Formed := by
  unfold Reference.Formed
  split
  · rename_i heq
    exact charOfNumber?_ok (Reference.number.inj heq)
  · trivial

theorem next_formed {p : Partial} {c : Char} {r : Reference} (h : p.next c = some (.inr r)) :
    r.Formed := by
  unfold Partial.next at h
  split at h
  · split at h
    · cases h
    split at h <;> cases h
  · split at h
    · cases h
      trivial
    split at h <;> cases h
  · split at h
    · cases h
    split at h <;> cases h
  · split at h
    · cases h
      exact number_formed _
    split at h <;> cases h
  · obtain ⟨_, -, he⟩ := Option.map_eq_some_iff.1 h
    cases he
  · split at h
    · cases h
      exact number_formed _
    · obtain ⟨_, -, he⟩ := Option.map_eq_some_iff.1 h
      cases he

/-- A reference that has been read names a character that a document may hold, if it is one by
number. -/
theorem reference_formed {p : Partial} {cs rest : List Char} {r : Reference}
    (h : reference p cs = .ok (r, rest)) : r.Formed := by
  induction cs generalizing p with
  | nil => cases h
  | cons c cs ih =>
    rw [reference] at h
    split at h
    · cases h
    · exact ih h
    · rename_i hr
      cases h
      exact next_formed hr

theorem predefined?_ok {name : String} {c : Char} (h : predefined? name = some c) :
    isXmlChar c = true := by
  unfold predefined? at h
  split at h
  · cases h
    decide
  split at h
  · cases h
    decide
  split at h
  · cases h
    decide
  split at h
  · cases h
    decide
  split at h
  · cases h
    decide
  · cases h

/-! ## Tags -/

/-- A piece of a value that gives characters which a document may hold. -/
def Piece.Formed : Piece → Prop
  | .char c => isXmlChar c = true
  | .reference r _ => r.Formed
  | _ => True

/-- An attribute as it is written, with a name and with pieces that give characters. -/
structure RawAttribute.Formed (a : RawAttribute) : Prop where
  name : IsQualified a.name
  value : ∀ p ∈ a.value, p.Formed

/-- What has been read of a tag is the front of a name, or a name with the pieces of a value. -/
def TagState.Formed : TagState → Prop
  | .inName read false _ => IsNameText read.reverse
  | .inName read true _ => ∃ label part, IsNameText label ∧ IsNameText part ∧
      read.reverse = label ++ ':' :: part
  | .afterColon read _ => ∃ label, IsNameText label ∧ read.reverse = label ++ [':']
  | .afterName name _ => IsQualified name
  | .beforeValue name _ => IsQualified name
  | .inValue name _ _ pieces => IsQualified name ∧ ∀ p ∈ pieces, p.Formed
  | .inReference name _ _ pieces _ _ => IsQualified name ∧ ∀ p ∈ pieces, p.Formed
  | _ => True

/-- What a character makes of a tag. -/
def TagStep.Formed : TagStep → Prop
  | .go state => state.Formed
  | .attribute a => a.Formed
  | _ => True

/-- The name in front of a value is qualified. -/
theorem isQualified_nameOf {read : List Char} {colonSeen : Bool} {left : List Char}
    (h : (TagState.inName read colonSeen left).Formed) : IsQualified (nameOf read) := by
  unfold IsQualified IsName nameOf
  rw [String.toList_ofList]
  cases colonSeen with
  | false => exact .inl h
  | true => exact .inr h

theorem atGap_formed (c : Char) (cs : List Char) : (TagState.atGap c cs).Formed := by
  unfold TagState.atGap
  split
  · trivial
  split
  · trivial
  split
  · trivial
  split
  · rename_i hc
    exact ⟨c, [], rfl, hc, List.forall_mem_nil _⟩
  · trivial

theorem atValue_formed {name : String} {left : List Char} {pieces : List Piece}
    (hname : IsQualified name)
    (hpieces : ∀ p ∈ pieces, p.Formed) (quote c : Char) (cs : List Char) :
    (TagState.atValue name left quote pieces c cs).Formed := by
  have hmore : ∀ p : Piece, p.Formed → ∀ q ∈ p :: pieces, q.Formed :=
    fun p hp => List.forall_mem_cons.2 ⟨hp, hpieces⟩
  unfold TagState.atValue
  split
  · exact ⟨hname, fun p hp => hpieces p (List.mem_reverse.1 hp)⟩
  split
  · exact ⟨hname, hpieces⟩
  split
  · trivial
  split
  · exact ⟨hname, hmore _ trivial⟩
  split
  · exact ⟨hname, hmore _ trivial⟩
  split
  · rename_i hc
    exact ⟨hname, hmore _ hc⟩
  · trivial

/-- One more character of a tag leads from well-formed parts to well-formed parts. -/
theorem next_tagState_formed {state : TagState} (h : state.Formed) (c : Char) (cs : List Char) :
    (state.next c cs).Formed := by
  cases state with
  | gap => exact atGap_formed c cs
  | inName read colonSeen left =>
    have hname := isQualified_nameOf h
    unfold TagState.next
    simp only
    split
    · rename_i hc
      cases colonSeen with
      | false =>
        change IsNameText (c :: read).reverse
        rw [List.reverse_cons]
        exact IsNameText.concat h hc
      | true =>
        obtain ⟨label, part, hlabel, hpart, hread⟩ := h
        refine ⟨label, part ++ [c], hlabel, hpart.concat hc, ?_⟩
        rw [List.reverse_cons, hread, List.append_assoc, List.cons_append]
    split
    · rename_i hcolon
      subst hcolon
      cases colonSeen with
      | false => exact ⟨read.reverse, h, List.reverse_cons⟩
      | true => trivial
    split
    · exact hname
    split
    · exact hname
    · trivial
  | afterColon read left =>
    obtain ⟨label, hlabel, hread⟩ := h
    unfold TagState.next
    simp only
    split
    · rename_i hc
      refine ⟨label, [c], hlabel, ⟨c, [], rfl, hc, List.forall_mem_nil _⟩, ?_⟩
      rw [List.reverse_cons, hread, List.append_assoc, List.singleton_append]
    · trivial
  | afterName name left =>
    unfold TagState.next
    simp only
    split
    · exact h
    split
    · exact h
    · trivial
  | beforeValue name left =>
    unfold TagState.next
    simp only
    split
    · exact h
    split
    · exact ⟨h, List.forall_mem_nil _⟩
    · trivial
  | inValue name left quote pieces => exact atValue_formed h.1 h.2 quote c cs
  | inReference name left quote pieces ampersand p =>
    unfold TagState.next
    simp only
    split
    · trivial
    · exact h
    · rename_i r hr
      exact ⟨h.1, List.forall_mem_cons.2 ⟨next_formed hr, h.2⟩⟩
  | afterValue =>
    unfold TagState.next
    simp only
    split
    · trivial
    split
    · trivial
    split <;> trivial
  | slash =>
    unfold TagState.next
    simp only
    split <;> trivial

/-- **The attributes that have been read in a tag are formed**, from whichever state of it on. -/
theorem tagRest_formed {state : TagState} (h : state.Formed) {cs rest : List Char}
    {attributes : List RawAttribute} {empty : Bool}
    (hread : tagRest state cs = .ok ((attributes, empty), rest)) : ∀ a ∈ attributes, a.Formed := by
  induction cs generalizing state attributes with
  | nil => cases hread
  | cons c cs ih =>
    have hnext := next_tagState_formed h c cs
    rw [tagRest] at hread
    split at hread
    · rename_i hstep
      rw [hstep] at hnext
      exact ih hnext hread
    · rename_i a hstep
      rw [hstep] at hnext
      obtain ⟨⟨⟨attributes', empty'⟩, rest'⟩, hrest, he⟩ := bind_ok hread
      cases he
      exact List.forall_mem_cons.2 ⟨hnext, ih (by trivial) hrest⟩
    · cases hread
      exact List.forall_mem_nil _
    · cases hread

/-! ## Tokens -/

def Token.Formed : Token → Prop
  | .opening name attributes _ => IsQualified name ∧ ∀ a ∈ attributes, a.Formed
  | .data text => IsText text
  | .reference r => r.Formed
  | _ => True

def Lexeme.Formed : Lexeme → Prop
  | .token t _ _ => t.Formed
  | .broken _ => True

/-- Data holds only characters that a document may hold. -/
theorem dataRun_ok {cs text rest : List Char} (h : dataRun cs = .ok (text, rest)) :
    IsText text := by
  fun_induction dataRun cs generalizing text rest with
  | case1 =>
    cases h
    exact isText_nil
  | case2 => cases h
  | case3 =>
    cases h
    exact isText_nil
  | case4 c cs _ _ hc ih =>
    obtain ⟨⟨text', rest'⟩, h', he⟩ := bind_ok h
    cases he
    exact isText_cons hc (ih h')
  | case5 => cases h

theorem cdataText_ok {cs text rest : List Char} (h : cdataText cs = .ok (text, rest)) :
    IsText text := by
  fun_induction cdataText cs generalizing text rest with
  | case1 => cases h
  | case2 =>
    cases h
    exact isText_nil
  | case3 => cases h
  | case4 c cs _ _ hc ih =>
    obtain ⟨⟨text', rest'⟩, h', he⟩ := bind_ok h
    cases he
    exact isText_cons hc (ih h')
  | case5 => cases h

/-- What goes well does so as without a place to complain about. -/
theorem scanned_ok {start cs rest : List Char} {scanner : Scanner Token} {t : Token}
    (h : scanned start scanner cs = .ok (t, rest)) : scanner cs = .ok (t, rest) := by
  unfold scanned at h
  split at h
  · rename_i hscan
    cases h
    exact hscan
  · cases h

/-- An opening tag has a qualified name and formed attributes. -/
theorem openingTag_formed {cs rest : List Char} {t : Token} (h : openingTag cs = .ok (t, rest)) :
    t.Formed := by
  unfold openingTag at h
  obtain ⟨⟨name, rest₁⟩, hname, h⟩ := bind_ok h
  obtain ⟨⟨⟨attributes, empty⟩, rest₂⟩, hattributes, h⟩ := bind_ok h
  cases h
  exact ⟨qualifiedName_ok hname, tagRest_formed (by trivial) hattributes⟩

theorem closingTag_formed {cs rest : List Char} {t : Token} (h : closingTag cs = .ok (t, rest)) :
    t.Formed := by
  unfold closingTag at h
  obtain ⟨⟨c, rest₁⟩, -, h⟩ := bind_ok h
  obtain ⟨⟨name, rest₂⟩, -, h⟩ := bind_ok h
  obtain ⟨⟨_, rest₃⟩, -, h⟩ := bind_ok h
  cases h
  trivial

theorem instructionToken_formed {cs rest : List Char} {t : Token}
    (h : instructionToken cs = .ok (t, rest)) : t.Formed := by
  unfold instructionToken at h
  obtain ⟨⟨⟨target, text⟩, rest₁⟩, -, h⟩ := bind_ok h
  simp only at h
  split at h <;> cases h <;> trivial

theorem cdata_formed {start cs rest : List Char} {t : Token} (h : cdata start cs = .ok (t, rest)) :
    t.Formed := by
  unfold cdata at h
  split at h
  · cases h
  split at h
  · cases h
  · obtain ⟨⟨text, rest'⟩, htext, h⟩ := bind_ok h
    cases h
    exact cdataText_ok htext

/-- **A token has names that are names and text that a document may hold.** -/
theorem token_formed {s rest : List Char} {t : Token} (h : token s = .ok (t, rest)) : t.Formed := by
  unfold token at h
  split at h
  · exact closingTag_formed (scanned_ok h)
  · obtain ⟨⟨text, rest'⟩, -, he⟩ := bind_ok (scanned_ok h)
    cases he
    trivial
  · exact cdata_formed h
  · obtain ⟨⟨c, rest'⟩, hone, -⟩ := bind_ok (scanned_ok h)
    unfold one at hone
    split at hone
    · cases hone
    · simp at hone
  · exact instructionToken_formed (scanned_ok h)
  · exact openingTag_formed (scanned_ok h)
  · obtain ⟨⟨r, rest'⟩, hreference, he⟩ := bind_ok (scanned_ok h)
    cases he
    exact reference_formed hreference
  · obtain ⟨⟨text, rest'⟩, hdata, he⟩ := bind_ok h
    cases he
    exact dataRun_ok hdata

/-- All tokens of a text are formed. -/
theorem tokens_formed (count : Nat) (s : List Char) : ∀ l ∈ tokensUpTo count s, l.Formed := by
  fun_induction tokensUpTo count s with
  | case1 => exact List.forall_mem_nil _
  | case2 => exact List.forall_mem_nil _
  | case3 => exact List.forall_mem_singleton.2 trivial
  | case4 count s _ t rest ht ih => exact List.forall_mem_cons.2 ⟨token_formed ht, ih⟩

end Pamphlet.Markup
