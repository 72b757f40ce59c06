import Mathlib.Data.List.TakeWhile
import Pamphlet.Page.Substitution
import Pamphlet.Proofs.Text.Characters

/-!
# One pass over a text

What a token is and what one pass over a text makes of it, said without the reader of tokens: a pass
(`Replaces`) goes from left to right, puts the value of a known name in the place of its token,
leaves a token of an unknown name and every character at which no token begins, and does not look at
what it has put in.

`replaces_fill`: filling in variables is such a pass, over any text. There is only one
(`Replaces.unique`), since no two tokens begin at one place (`Token.IsWritten.eq_of_prefix`); and as
none begins inside another one (`Token.IsWritten.not_inside`), every token of a known name that
stands anywhere is met. Values are not looked at, so a filled text may have such a token again, but
only where a value takes part in it (`takesPart_of_stands`).
-/

namespace Pamphlet.Page.Substitution

open Pamphlet.Text

/-! ## Characters -/

/-- No character of a name is a blank. -/
theorem not_isBlank_of_continuesName {c : Char} (h : continuesName c = true) :
    isBlank c = false := by
  unfold continuesName at h
  rw [Bool.or_eq_true, beq_iff_eq] at h
  rcases h with hword | rfl
  · exact not_isBlank_of_isWordChar hword
  · rfl

theorem continuesName_of_beginsName {c : Char} (h : beginsName c = true) :
    continuesName c = true := by
  unfold beginsName at h
  unfold continuesName isWordChar
  rw [Bool.or_eq_true, beq_iff_eq] at h
  rcases h with hletter | rfl
  · rw [if_pos (lt_of_isAlpha hletter), Char.isAlphanum, hletter]
    rfl
  · rfl

theorem not_brace_of_continuesName {c : Char} (h : continuesName c = true) : c ≠ '{' ∧ c ≠ '}' := by
  constructor
  · rintro rfl
    revert h
    decide
  · rintro rfl
    revert h
    decide

theorem not_brace_of_isBlank {c : Char} (h : isBlank c = true) : c ≠ '{' ∧ c ≠ '}' := by
  constructor
  · rintro rfl
    revert h
    decide
  · rintro rfl
    revert h
    decide

/-! ## Tokens -/

/-- How a token is written: two braces, blanks, its name, blanks, and two braces. A name begins with
a letter of ASCII or an underscore and goes on with word characters and points. -/
structure Token.IsWritten (t : Token) : Prop where
  name : ∃ c cs, t.name = c :: cs ∧ beginsName c = true ∧ ∀ x ∈ cs, continuesName x = true
  written : ∃ before after, (∀ c ∈ before, isBlank c = true) ∧ (∀ c ∈ after, isBlank c = true) ∧
    t.written = '{' :: '{' :: (before ++ (t.name ++ (after ++ ['}', '}'])))

namespace Token

variable {t u : Token}

theorem IsWritten.continues (h : t.IsWritten) : ∀ c ∈ t.name, continuesName c = true := by
  obtain ⟨c, cs, hname, hc, hcs⟩ := h.name
  intro x hx
  rw [hname, List.mem_cons] at hx
  rcases hx with rfl | hx
  · exact continuesName_of_beginsName hc
  · exact hcs x hx

/-- After its first two braces a token has no opening brace. -/
theorem IsWritten.exists_inner (h : t.IsWritten) :
    ∃ c inner, t.written = '{' :: '{' :: c :: inner ∧ '{' ∉ c :: inner := by
  obtain ⟨before, after, hbefore, hafter, hwritten⟩ := h.written
  have hbrace : '{' ∉ before ++ (t.name ++ (after ++ ['}', '}'])) := by
    simp only [List.mem_append, not_or]
    refine ⟨?_, ?_, ?_, by decide⟩
    · intro hmem
      exact (not_brace_of_isBlank (hbefore _ hmem)).1 rfl
    · intro hmem
      exact (not_brace_of_continuesName (h.continues _ hmem)).1 rfl
    · intro hmem
      exact (not_brace_of_isBlank (hafter _ hmem)).1 rfl
  cases hinner : before ++ (t.name ++ (after ++ ['}', '}'])) with
  | nil => simp at hinner
  | cons c inner =>
    rw [hinner] at hwritten hbrace
    exact ⟨c, inner, hwritten, hbrace⟩

theorem IsWritten.written_ne_nil (h : t.IsWritten) : t.written ≠ [] := by
  obtain ⟨c, inner, hwritten, -⟩ := h.exists_inner
  rw [hwritten]
  exact List.cons_ne_nil _ _

end Token

/-! ## The reader of tokens -/

theorem takeWhile_of_all {p : Char → Bool} {cs : List Char} (h : ∀ c ∈ cs, p c = true) {d : Char}
    (hd : p d = false) (rest : List Char) :
    (cs ++ d :: rest).takeWhile p = cs ∧ (cs ++ d :: rest).dropWhile p = d :: rest := by
  rw [List.takeWhile_append_of_pos h, List.dropWhile_append_of_pos h, List.takeWhile_cons,
    List.dropWhile_cons, hd]
  simp

/-- What is read as a token is one, and stands at the front of the text. -/
theorem token?_some {cs rest : List Char} {t : Token} (h : token? cs = some (t, rest)) :
    t.IsWritten ∧ cs = t.written ++ rest := by
  unfold token? at h
  split at h
  · rename_i cs
    simp only at h
    split at h
    · rename_i rest' hrest
      split at h
      · rename_i hbegins
        cases h
        obtain ⟨c, hc, hcbegins⟩ := (Option.any_eq_true _ _).1 hbegins
        have hall : ∀ x ∈ (cs.dropWhile isBlank).takeWhile continuesName, continuesName x = true :=
          fun x hx => List.mem_takeWhile_imp hx
        refine ⟨⟨?_, cs.takeWhile isBlank,
          ((cs.dropWhile isBlank).dropWhile continuesName).takeWhile isBlank,
          fun x hx => List.mem_takeWhile_imp hx, fun x hx => List.mem_takeWhile_imp hx, ?_⟩, ?_⟩
        · obtain ⟨tail, htail⟩ := List.head?_eq_some_iff.1 hc
          refine ⟨c, tail, htail, hcbegins, fun x hx => hall x ?_⟩
          rw [htail]
          exact List.mem_cons_of_mem c hx
        · simp
        · calc '{' :: '{' :: cs
              = '{' :: '{' :: (cs.takeWhile isBlank ++
                  ((cs.dropWhile isBlank).takeWhile continuesName ++
                    (((cs.dropWhile isBlank).dropWhile continuesName).takeWhile isBlank ++
                      '}' :: '}' :: rest))) := by
                rw [← hrest, List.takeWhile_append_dropWhile, List.takeWhile_append_dropWhile,
                  List.takeWhile_append_dropWhile]
            _ = _ := by simp
      · cases h
    · cases h
  · cases h

/-- A token at the front of a text is read. -/
theorem token?_of_isWritten {t : Token} (h : t.IsWritten) (rest : List Char) :
    token? (t.written ++ rest) = some (t, rest) := by
  obtain ⟨before, after, hbefore, hafter, hwritten⟩ := h.written
  obtain ⟨c, cs, hname, hc, hcs⟩ := h.name
  have hcblank : isBlank c = false := not_isBlank_of_continuesName (continuesName_of_beginsName hc)
  have hclose : isBlank '}' = false := by decide
  have hbraces : continuesName '}' = false := by decide
  -- what follows the name begins with a blank or a brace, and neither belongs to a name
  have hend : ∃ d tail, after ++ ('}' :: '}' :: rest) = d :: tail ∧ continuesName d = false := by
    cases after with
    | nil => exact ⟨'}', _, rfl, hbraces⟩
    | cons d tail =>
      refine ⟨d, _, rfl, ?_⟩
      by_contra hd
      rw [Bool.not_eq_false] at hd
      have hblank := hafter d List.mem_cons_self
      rw [not_isBlank_of_continuesName hd] at hblank
      cases hblank
  obtain ⟨d, tail, htail, hd⟩ := hend
  have htext : t.written ++ rest =
      '{' :: '{' :: (before ++ (t.name ++ (after ++ '}' :: '}' :: rest))) := by
    rw [hwritten]
    simp
  have hfront := takeWhile_of_all hbefore hcblank (cs ++ (after ++ '}' :: '}' :: rest))
  rw [← List.cons_append, ← hname] at hfront
  have hmiddle := takeWhile_of_all h.continues hd tail
  rw [← htail] at hmiddle
  have hback := takeWhile_of_all hafter hclose ('}' :: rest)
  have hbegins : (t.name.head?.any beginsName) = true := by
    rw [hname]
    simpa using hc
  have hsame : ['{', '{'] ++ before ++ t.name ++ after ++ ['}', '}'] = t.written := by
    rw [hwritten]
    simp
  rw [htext]
  unfold token?
  simp only [hfront, hmiddle, hback, hbegins, if_true, hsame]

/-- No token begins where none is read. -/
theorem token?_eq_none_iff {cs : List Char} :
    token? cs = none ↔ ∀ t : Token, t.IsWritten → ¬ t.written <+: cs := by
  constructor
  · rintro hnone t ht ⟨rest, rfl⟩
    rw [token?_of_isWritten ht] at hnone
    cases hnone
  · intro h
    cases hread : token? cs with
    | none => rfl
    | some read =>
      obtain ⟨t, rest⟩ := read
      obtain ⟨ht, hcs⟩ := token?_some hread
      exact absurd ⟨rest, hcs.symm⟩ (h t ht)

namespace Token

variable {t u : Token}

/-- Of one text only one token is the beginning. -/
theorem IsWritten.eq_of_prefix (ht : t.IsWritten) (hu : u.IsWritten) {rest rest' : List Char}
    (h : t.written ++ rest = u.written ++ rest') : t = u ∧ rest = rest' := by
  have hread := token?_of_isWritten ht rest
  rw [h, token?_of_isWritten hu rest', Option.some.injEq, Prod.mk.injEq] at hread
  exact ⟨hread.1.symm, hread.2.symm⟩

/-- No token begins inside another one. -/
theorem IsWritten.not_inside (ht : t.IsWritten) (hu : u.IsWritten) {pre post rest : List Char}
    (h : t.written ++ rest = pre ++ (u.written ++ post)) (hpre : pre ≠ [])
    (hlength : pre.length < t.written.length) : False := by
  obtain ⟨c, inner, htw, hbrace⟩ := ht.exists_inner
  obtain ⟨d, inner', huw, -⟩ := hu.exists_inner
  rw [htw] at h hlength
  rw [huw] at h
  match pre, hpre with
  | [x], _ =>
    -- the second brace of the inner token would be the first character after the outer braces
    simp only [List.cons_append, List.nil_append, List.cons.injEq] at h
    obtain ⟨-, -, hc, -⟩ := h
    exact hbrace (hc ▸ List.mem_cons_self)
  | x :: y :: pre, _ =>
    simp only [List.cons_append, List.cons.injEq] at h
    simp only [List.length_cons] at hlength
    obtain ⟨-, -, h⟩ := h
    rw [← List.cons_append] at h
    have hshort : pre.length < (c :: inner).length := by
      rw [List.length_cons]
      omega
    have hat : ((c :: inner) ++ rest)[pre.length]? = some '{' := by
      rw [h, List.getElem?_append_right (Nat.le_refl _), Nat.sub_self]
      rfl
    rw [List.getElem?_append_left hshort] at hat
    exact hbrace (List.mem_of_getElem? hat)

end Token

/-! ## Pieces -/

theorem pieces_nil : pieces [] = [] := by
  rw [pieces]
  rfl

/-- A variable as it is written is one piece. -/
theorem pieces_token {t : Token} (h : t.IsWritten) (rest : List Char) :
    pieces (t.written ++ rest) = .token t :: pieces rest := by
  rw [pieces]
  split
  · rename_i t' rest' hread
    rw [token?_of_isWritten h, Option.some.injEq, Prod.mk.injEq] at hread
    rw [hread.1, hread.2]
  · rename_i hread
    rw [token?_of_isWritten h] at hread
    cases hread

/-- A character at which no variable is written is a piece of its own. -/
theorem pieces_char {c : Char} {cs : List Char}
    (h : ∀ t : Token, t.IsWritten → ¬ t.written <+: c :: cs) :
    pieces (c :: cs) = .char c :: pieces cs := by
  rw [pieces]
  split
  · rename_i t rest hread
    rw [token?_eq_none_iff.2 h] at hread
    cases hread
  · rfl

/-- Induction along a pass: a text is empty, begins with a token, or begins with a character at
which no token begins. -/
theorem pass_induction {motive : List Char → Prop} (nil : motive [])
    (token : ∀ (t : Token) (rest : List Char), t.IsWritten → motive rest →
      motive (t.written ++ rest))
    (char : ∀ (c : Char) (rest : List Char),
      (∀ t : Token, t.IsWritten → ¬ t.written <+: c :: rest) →
      motive rest → motive (c :: rest)) (cs : List Char) : motive cs := by
  cases hread : token? cs with
  | some read =>
    obtain ⟨t, rest⟩ := read
    obtain ⟨ht, hcs⟩ := token?_some hread
    have hshorter := token?_length hread
    rw [hcs]
    exact token t rest ht (pass_induction nil token char rest)
  | none =>
    cases cs with
    | nil => exact nil
    | cons c rest =>
      exact char c rest (token?_eq_none_iff.1 hread) (pass_induction nil token char rest)
termination_by cs.length

/-- Nothing is lost: the pieces of a text are written as the text. -/
theorem written_pieces (cs : List Char) : (pieces cs).flatMap Piece.written = cs := by
  induction cs using pass_induction with
  | nil => rw [pieces_nil, List.flatMap_nil]
  | token t rest ht ih => rw [pieces_token ht, List.flatMap_cons, ih, Piece.written]
  | char c rest h ih =>
    rw [pieces_char h, List.flatMap_cons, ih]
    rfl

/-! ## Passes -/

/-- One pass over a text, from left to right: the text, what becomes of it, and the tokens met. -/
inductive Replaces (values : Values) : List Char → List Char → List Token → Prop
  | done : Replaces values [] [] []
  | gap {c : Char} {rest out : List Char} {ts : List Token}
      (h : ∀ t : Token, t.IsWritten → ¬ t.written <+: c :: rest)
        (hrest : Replaces values rest out ts) :
      Replaces values (c :: rest) (c :: out) ts
  | known {t : Token} {value : String} {rest out : List Char} {ts : List Token} (ht : t.IsWritten)
      (hvalue : t.value? values = some value) (hrest : Replaces values rest out ts) :
      Replaces values (t.written ++ rest) (value.toList ++ out) (t :: ts)
  | unknown {t : Token} {rest out : List Char} {ts : List Token} (ht : t.IsWritten)
      (hvalue : t.value? values = none) (hrest : Replaces values rest out ts) :
      Replaces values (t.written ++ rest) (t.written ++ out) (t :: ts)

def Piece.token? : Piece → Option Token
  | .token t => some t
  | .char _ => none

def tokensIn (ps : List Piece) : List Token :=
  ps.filterMap Piece.token?

theorem tokensIn_token (t : Token) (ps : List Piece) :
    tokensIn (.token t :: ps) = t :: tokensIn ps :=
  rfl

theorem tokensIn_char (c : Char) (ps : List Piece) : tokensIn (.char c :: ps) = tokensIn ps :=
  rfl

section

variable {values : Values}

theorem Piece.filled_of_known {t : Token} {value : String} (h : t.value? values = some value) :
    Piece.filled values (.token t) = value.toList := by
  rw [Piece.filled, h]
  rfl

/-- A variable without a value stays as it is written. -/
theorem Piece.filled_of_unknown {t : Token} (h : t.value? values = none) :
    Piece.filled values (.token t) = t.written := by
  rw [Piece.filled, h]
  rfl

/-- The pieces of a text are what a pass over it goes by. -/
theorem replaces_pieces (values : Values) (cs : List Char) :
    Replaces values cs ((pieces cs).flatMap (Piece.filled values))
      (tokensIn (pieces cs)) := by
  induction cs using pass_induction with
  | nil =>
    rw [pieces_nil]
    exact .done
  | token t rest ht ih =>
    rw [pieces_token ht, List.flatMap_cons, tokensIn_token]
    cases hvalue : t.value? values with
    | some value =>
      rw [Piece.filled_of_known hvalue]
      exact .known ht hvalue ih
    | none =>
      rw [Piece.filled_of_unknown hvalue]
      exact .unknown ht hvalue ih
  | char c rest h ih =>
    rw [pieces_char h, List.flatMap_cons, tokensIn_char]
    exact .gap h ih

/-- A text can be taken apart into variables and characters in one way only. -/
theorem Replaces.eq_pieces {cs out : List Char} {ts : List Token} (h : Replaces values cs out ts) :
    out = (pieces cs).flatMap (Piece.filled values) ∧ ts = tokensIn (pieces cs) := by
  induction h with
  | done =>
    rw [pieces_nil]
    exact ⟨rfl, rfl⟩
  | gap h _ ih =>
    rw [pieces_char h, List.flatMap_cons, tokensIn_char, ← ih.1, ← ih.2]
    exact ⟨rfl, rfl⟩
  | @known t value rest out ts ht hvalue _ ih =>
    rw [pieces_token ht, List.flatMap_cons, tokensIn_token, ← ih.1, ← ih.2,
      Piece.filled_of_known hvalue]
    exact ⟨rfl, rfl⟩
  | @unknown t rest out ts ht hvalue _ ih =>
    rw [pieces_token ht, List.flatMap_cons, tokensIn_token, ← ih.1, ← ih.2,
      Piece.filled_of_unknown hvalue]
    exact ⟨rfl, rfl⟩

/-- There is one pass over a text. -/
theorem Replaces.unique {cs out out' : List Char} {ts ts' : List Token}
    (h : Replaces values cs out ts) (h' : Replaces values cs out' ts') : out = out' ∧ ts = ts' := by
  rw [h.eq_pieces.1, h.eq_pieces.2, h'.eq_pieces.1, h'.eq_pieces.2]
  exact ⟨rfl, rfl⟩

/-- **Filling in is one pass** over a text, from its first variable to its last. -/
theorem replaces_fill (values : Values) (s : String) :
    Replaces values s.toList (fill values s).toList (tokens s) := by
  rw [fill, String.toList_ofList]
  exact replaces_pieces values s.toList

end

/-! ## Tokens of filled texts -/

/-- A value that was put in stands, at least in part, in a stretch of the filled text, which is
given by its offset and its length. An empty value stands where its token stood. -/
def TakesPart (values : Values) (cs : List Char) (offset length : Nat) : Prop :=
  ∃ before t value after, pieces cs = before ++ .token t :: after ∧ t.value? values = some value ∧
    (before.flatMap (Piece.filled values)).length < offset + length ∧
    offset < (before.flatMap (Piece.filled values)).length + value.toList.length

section

variable {values : Values}

/-- What a stretch holds after a first piece takes part in it after that piece. -/
theorem TakesPart.cons {cs rest : List Char} {p : Piece} {offset length : Nat}
    (hpieces : pieces cs = p :: pieces rest) (h : TakesPart values rest offset length) :
    TakesPart values cs ((Piece.filled values p).length + offset) length := by
  obtain ⟨before, t, value, after, hrest, hvalue, hbegin, hend⟩ := h
  refine ⟨p :: before, t, value, after, ?_, hvalue, ?_, ?_⟩
  · rw [hpieces, hrest, List.cons_append]
  · rw [List.flatMap_cons, List.length_append]
    omega
  · rw [List.flatMap_cons, List.length_append]
    omega

/-- The pieces before the first value are written as they were. -/
theorem exists_kept (values : Values) (ps : List Piece) :
    ∃ kept after, ps = kept ++ after ∧
      kept.flatMap (Piece.filled values) = kept.flatMap Piece.written ∧
      (after = [] ∨ ∃ t value rest, after = .token t :: rest ∧ t.value? values = some value) := by
  induction ps with
  | nil => exact ⟨[], [], rfl, rfl, .inl rfl⟩
  | cons p ps ih =>
    obtain ⟨kept, after, hps, hkept, hafter⟩ := ih
    cases p with
    | char c =>
      refine ⟨.char c :: kept, after, by rw [hps, List.cons_append], ?_, hafter⟩
      rw [List.flatMap_cons, List.flatMap_cons, hkept]
      rfl
    | token t =>
      cases hvalue : t.value? values with
      | some value => exact ⟨[], .token t :: ps, rfl, rfl, .inr ⟨t, value, ps, rfl, hvalue⟩⟩
      | none =>
        refine ⟨.token t :: kept, after, by rw [hps, List.cons_append], ?_, hafter⟩
        rw [List.flatMap_cons, List.flatMap_cons, hkept, Piece.filled_of_unknown hvalue]
        rfl

/-- A token that stands at the front of a filled text but not at the front of the text itself is
made of a value: the pieces before the first value are too short for it. -/
theorem takesPart_of_front {c : Char} {rest : List Char} {u : Token} {post : List Char}
    (hnone : ¬ u.written <+: c :: rest) (hpieces : pieces (c :: rest) = .char c :: pieces rest)
    (hfilled : (pieces (c :: rest)).flatMap (Piece.filled values) = u.written ++ post) :
    TakesPart values (c :: rest) 0 u.written.length := by
  obtain ⟨kept, after, hsplit, hkept, hafter⟩ := exists_kept values (pieces (c :: rest))
  have hwritten : kept.flatMap Piece.written <+: c :: rest := by
    refine ⟨after.flatMap Piece.written, ?_⟩
    rw [← List.flatMap_append, ← hsplit, written_pieces]
  have hfront : kept.flatMap Piece.written <+: u.written ++ post := by
    refine ⟨after.flatMap (Piece.filled values), ?_⟩
    rw [← hkept, ← List.flatMap_append, ← hsplit, hfilled]
  have hshort : (kept.flatMap Piece.written).length < u.written.length := by
    refine Nat.lt_of_not_le fun hlong => hnone ?_
    exact (List.prefix_of_prefix_length_le ⟨post, rfl⟩ hfront hlong).trans hwritten
  rcases hafter with rfl | ⟨t, value, after, rfl, hvalue⟩
  · rw [List.append_nil] at hsplit
    rw [hsplit, hkept] at hfilled
    rw [hfilled, List.length_append] at hshort
    omega
  · cases kept with
    | nil =>
      rw [hpieces] at hsplit
      cases hsplit
    | cons p kept =>
      obtain ⟨rfl, -⟩ := List.cons.inj (hpieces.symm.trans hsplit)
      refine ⟨.char c :: kept, t, value, after, hsplit, hvalue, ?_, ?_⟩
      · rw [hkept]
        omega
      · rw [List.flatMap_cons, List.length_append]
        simp only [Piece.filled, List.length_singleton]
        omega

/-- A token of a known name stands in a filled text only where a value takes part in it. -/
theorem takesPart_of_stands {cs pre post : List Char} {u : Token} (hu : u.IsWritten)
    (hknown : (u.value? values).isSome = true)
    (hfilled : (pieces cs).flatMap (Piece.filled values) = pre ++ (u.written ++ post)) :
    TakesPart values cs pre.length u.written.length := by
  induction cs using pass_induction generalizing pre with
  | nil =>
    rw [pieces_nil] at hfilled
    have hnil := List.append_eq_nil_iff.1 (List.append_eq_nil_iff.1 hfilled.symm).2
    exact absurd hnil.1 hu.written_ne_nil
  | token t rest ht ih =>
    have hpieces := pieces_token ht rest
    rw [hpieces, List.flatMap_cons] at hfilled
    by_cases hinside : pre.length < (Piece.filled values (.token t)).length
    · cases hvalue : t.value? values with
      | some value =>
        rw [Piece.filled_of_known hvalue] at hinside
        have hpos := List.length_pos_iff.2 hu.written_ne_nil
        refine ⟨[], t, value, pieces rest, hpieces, hvalue, ?_, ?_⟩
        · rw [List.flatMap_nil, List.length_nil]
          omega
        · rw [List.flatMap_nil, List.length_nil]
          omega
      | none =>
        -- the token that was left as it is would be the one that stands, or hold it
        rw [Piece.filled_of_unknown hvalue] at hinside hfilled
        cases pre with
        | nil =>
          rw [List.nil_append] at hfilled
          rw [← (ht.eq_of_prefix hu hfilled).1, hvalue] at hknown
          cases hknown
        | cons x pre => exact (ht.not_inside hu hfilled (List.cons_ne_nil x pre) hinside).elim
    · obtain ⟨pre', hpre⟩ : Piece.filled values (.token t) <+: pre :=
        List.prefix_of_prefix_length_le ⟨_, rfl⟩ ⟨_, hfilled.symm⟩ (Nat.le_of_not_lt hinside)
      rw [← hpre, List.append_assoc, List.append_cancel_left_eq] at hfilled
      rw [← hpre, List.length_append]
      exact (ih hfilled).cons hpieces
  | char c rest h ih =>
    have hpieces := pieces_char h
    cases pre with
    | nil => exact takesPart_of_front (h u hu) hpieces hfilled
    | cons x pre =>
      rw [hpieces, List.flatMap_cons] at hfilled
      have hrest : (pieces rest).flatMap (Piece.filled values) = pre ++ (u.written ++ post) :=
        (List.cons.inj hfilled).2
      rw [List.length_cons, Nat.add_comm]
      exact (ih hrest).cons hpieces

end

end Pamphlet.Page.Substitution
