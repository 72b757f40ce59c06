import Pamphlet.Markup.Prolog
import Pamphlet.Proofs.Markup.Declared

/-!
# Prologs declare what a document may hold

The names that the marks of a prolog spell are names, and what stands in their literals a document
may hold. Each mark therefore leads from a well-formed document type to a well-formed one
(`next_formed`), and so does the whole prolog (`readProlog_formed`).
-/

namespace Pamphlet.Markup

open Scanner

/-! ## Marks -/

def Mark.Formed : Mark → Prop
  | .name text => IsName text
  | .prefixed text => IsAttributeName text
  | .literal text _ => IsText text
  | _ => True

def MarkLexeme.Formed : MarkLexeme → Prop
  | .mark m _ _ => m.Formed
  | .broken _ => True

/-- What has been read of a name, by its shape. After a colon there is one more character to
come. -/
def NameShape.Formed (read left : List Char) : NameShape → Prop
  | .plain => IsNameText read.reverse
  | .prefixed => ∃ label part, IsNameText label ∧ (∀ d ∈ part, isNameChar d = true) ∧
      read.reverse = label ++ ':' :: part ∧ (part = [] → ∃ c ∈ left.head?, isNameChar c = true)
  | .token => True

namespace Mark

theorem formed_mark {shape : NameShape} {read left : List Char} (h : shape.Formed read left)
    (hleft : ∀ c ∈ left.head?, isNameChar c = false) : (shape.mark read.reverse).Formed := by
  cases shape with
  | plain =>
    change IsNameText (String.ofList read.reverse).toList
    rw [String.toList_ofList]
    exact h
  | prefixed =>
    obtain ⟨label, part, hlabel, hpart, hread, hmore⟩ := h
    refine .inr ⟨label, part, hlabel, ?_, by rw [String.toList_ofList, hread]⟩
    cases part with
    | nil =>
      obtain ⟨c, hc, hname⟩ := hmore rfl
      rw [hleft c hc] at hname
      cases hname
    | cons c part =>
      obtain ⟨hc, hpart⟩ := List.forall_mem_cons.1 hpart
      exact ⟨c, part, rfl, .inr hc, hpart⟩
  | token => trivial

/-- A name of the prolog that has been read is one. -/
theorem nameFrom_formed {shape : NameShape} {read cs rest : List Char} {m : Mark}
    (h : shape.Formed read cs) (hread : nameFrom shape read cs = .ok (m, rest)) : m.Formed := by
  induction cs generalizing shape read with
  | nil =>
    cases hread
    exact formed_mark h fun c hc => by cases hc
  | cons c cs ih =>
    rw [nameFrom] at hread
    split at hread
    · rename_i hc
      refine ih ?_ hread
      cases shape with
      | plain =>
        change IsNameText (c :: read).reverse
        rw [List.reverse_cons]
        exact IsNameText.concat h hc
      | prefixed =>
        obtain ⟨label, part, hlabel, hpart, hread, -⟩ := h
        refine ⟨label, part ++ [c], hlabel, ?_, ?_, ?_⟩
        · exact List.forall_mem_append.2 ⟨hpart, List.forall_mem_singleton.2 hc⟩
        · rw [List.reverse_cons, hread, List.append_assoc, List.cons_append]
        · intro hnil
          exact absurd hnil (List.append_ne_nil_of_right_ne_nil part (List.cons_ne_nil c []))
      | token => trivial
    rename_i hc
    split at hread
    · cases hread
      refine formed_mark h fun d hd => ?_
      cases hd
      simpa using hc
    split at hread
    · rename_i hcolon
      subst hcolon
      split at hread
      · cases hread
      rename_i shape' hshape
      refine ih ?_ hread
      unfold NameShape.afterColon at hshape
      split at hshape
      · cases hshape
      · split at hshape
        · rename_i d hhead hd
          cases hshape
          refine ⟨read.reverse, [], h, List.forall_mem_nil _, List.reverse_cons, ?_⟩
          exact fun _ => ⟨d, hhead, hd⟩
        · split at hshape
          · cases hshape
          · cases hshape
            trivial
      · cases hshape
        trivial
    split at hread
    · cases hread
      trivial
    · cases hread

/-- A literal holds only characters that a document may hold. -/
theorem literalFrom_formed {quote : Char} {read cs rest : List Char} {m : Mark} (h : IsText read)
    (hread : literalFrom quote read cs = .ok (m, rest)) : m.Formed := by
  have hliteral : IsText read.reverse := fun c hc => h c (List.mem_reverse.1 hc)
  induction cs generalizing read with
  | nil => cases hread
  | cons c cs ih =>
    unfold literalFrom at hread
    split at hread
    · split at hread
      · cases hread
        exact hliteral
      · split at hread
        · cases hread
          exact hliteral
        · cases hread
    split at hread
    · rename_i hc
      have hmore : IsText (c :: read) := isText_cons hc h
      exact ih hmore hread fun d hd => hmore d (List.mem_reverse.1 hd)
    · cases hread

section

variable {cs rest : List Char} {m : Mark}

theorem keywordFrom_formed {read : List Char} (h : keywordFrom read cs = .ok (m, rest)) :
    m.Formed := by
  induction cs generalizing read with
  | nil => cases h
  | cons c cs ih =>
    unfold keywordFrom at h
    split at h
    · exact ih h
    split at h
    · cases h
      trivial
    split at h
    · split at h
      · cases h
      · split at h
        · cases h
        · cases h
          trivial
    · cases h

theorem declarationFrom_formed (h : declarationFrom cs = .ok (m, rest)) : m.Formed := by
  unfold declarationFrom at h
  split at h
  · cases h
  · obtain ⟨⟨text, rest'⟩, -, he⟩ := bind_ok h
    cases he
    trivial
  · cases h
    trivial
  · split at h
    · exact keywordFrom_formed h
    · cases h

theorem instructionFrom_formed (h : instructionFrom cs = .ok (m, rest)) : m.Formed := by
  obtain ⟨⟨⟨target, text⟩, rest'⟩, -, he⟩ := bind_ok h
  cases he
  split <;> trivial

theorem parameterFrom_formed (h : parameterFrom cs = .ok (m, rest)) : m.Formed := by
  induction cs with
  | nil => cases h
  | cons c cs ih =>
    rw [parameterFrom] at h
    split at h
    · exact ih h
    split at h
    · cases h
      trivial
    · cases h

theorem percentFrom_formed (h : percentFrom cs = .ok (m, rest)) : m.Formed := by
  unfold percentFrom at h
  split at h
  · cases h
  split at h
  · exact parameterFrom_formed h
  split at h
  · cases h
    trivial
  · cases h

theorem closeParenFrom_formed (h : closeParenFrom cs = .ok (m, rest)) : m.Formed := by
  unfold closeParenFrom at h
  split at h
  · cases h
    trivial
  split at h
  · cases h
    trivial
  split at h
  · cases h
    trivial
  · cases h

theorem hashNameFrom_formed {read : List Char} (h : hashNameFrom read cs = .ok (m, rest)) :
    m.Formed := by
  induction cs generalizing read with
  | nil =>
    cases h
    trivial
  | cons c cs ih =>
    rw [hashNameFrom] at h
    split at h
    · exact ih h
    split at h
    · cases h
      trivial
    · cases h

theorem hashFrom_formed (h : hashFrom cs = .ok (m, rest)) : m.Formed := by
  obtain ⟨⟨c, rest'⟩, -, h⟩ := bind_ok h
  exact hashNameFrom_formed h

/-- **A mark spells names that are names and holds text that a document may hold.** -/
theorem front_formed (h : front cs = .ok (m, rest)) : m.Formed := by
  unfold front at h
  split at h
  · cases h
  · cases h
  · exact declarationFrom_formed h
  · exact instructionFrom_formed h
  · split at h
    · cases h
      trivial
    · cases h
  · cases h
  · cases h
    trivial
  · cases h
    trivial
  · exact literalFrom_formed isText_nil h
  · exact literalFrom_formed isText_nil h
  · exact percentFrom_formed h
  · cases h
    trivial
  · cases h
    trivial
  · cases h
    trivial
  · exact closeParenFrom_formed h
  · cases h
    trivial
  · cases h
    trivial
  · exact hashFrom_formed h
  · split at h
    · cases h
      trivial
    split at h
    · rename_i hc
      have hstart : ∀ left, NameShape.Formed [_] left .plain :=
        fun left => ⟨_, [], rfl, hc, List.forall_mem_nil _⟩
      exact nameFrom_formed (hstart _) h
    split at h
    · exact nameFrom_formed (show NameShape.Formed _ _ .token from trivial) h
    · cases h

theorem scan_formed (h : scan cs = .ok (m, rest)) : m.Formed := by
  unfold scan at h
  split at h
  · rename_i hfront
    cases h
    exact front_formed hfront
  · cases h

end

end Mark

theorem marksUpTo_formed (count : Nat) (s : List Char) : ∀ l ∈ marksUpTo count s, l.Formed := by
  fun_induction marksUpTo count s with
  | case1 => exact List.forall_mem_nil _
  | case2 => exact List.forall_mem_nil _
  | case3 => exact List.forall_mem_singleton.2 trivial
  | case4 => exact List.forall_mem_singleton.2 trivial
  | case5 count s _ m rest _ hm ih => 
    exact List.forall_mem_cons.2 ⟨Mark.scan_formed hm, ih⟩

/-! ## Declarations -/

namespace Dtd.Formed

variable {d : Dtd} (h : d.Formed)

include h

theorem declare (name : String) {entity : Entity}
    (hentity : ∀ text, entity = .internal text → IsText text) : (d.declare name entity).Formed := by
  refine ⟨fun name' text hmem => ?_, h.rules⟩
  rcases List.mem_append.1 hmem with hmem | hmem
  · exact h.entities name' text hmem
  · cases List.mem_singleton.1 hmem
    exact hentity text rfl

theorem markUnparsed (name : String) : (d.markUnparsed name).Formed := by
  refine ⟨fun name' text hmem => ?_, h.rules⟩
  obtain ⟨⟨n, e⟩, hmem, he⟩ := List.mem_map.1 hmem
  simp only at he
  split at he
  · cases he
  · cases he
    exact h.entities name' text hmem

theorem addRule (element : String) {rule : AttributeRule} (hrule : rule.Formed) :
    (d.addRule element rule).Formed := by
  unfold Dtd.addRule
  split
  · exact h
  · refine ⟨h.entities, fun element' rule' hmem => ?_⟩
    rcases List.mem_append.1 hmem with hmem | hmem
    · exact h.rules element' rule' hmem
    · cases List.mem_singleton.1 hmem
      exact hrule

theorem declareTarget (t : Target) {entity : Entity}
    (hentity : ∀ text, entity = .internal text → IsText text) : (t.declare d entity).Formed := by
  unfold Target.declare
  split
  · exact h.declare _ hentity
  · exact h

theorem markTarget (t : Target) : (t.markUnparsed d).Formed := by
  unfold Target.markUnparsed
  split
  · exact h.markUnparsed _
  · exact h

theorem declareText {t : Target} {text after : List Char} (htext : IsText text) {d' : Dtd}
    (hread : State.declareText d t text after = .ok d') : d'.Formed := by
  unfold State.declareText at hread
  split at hread
  · cases hread
    exact h
  · obtain ⟨cs, hcs, he⟩ := bind_ok hread
    cases he
    refine h.declareTarget t fun text' htext' => ?_
    cases htext'
    exact Dtd.entityText_formed htext (fun b hb => by cases hb) hcs

theorem declareDefault {element name : String} (hname : IsAttributeName name) {plain : Bool}
    {start text after : List Char} (htext : IsText text) {d' : Dtd}
    (hread : State.declareDefault d element name plain start text after = .ok d') : d'.Formed := by
  unfold State.declareDefault at hread
  split at hread
  · cases hread
    exact h
  split at hread
  · cases hread
  · rename_i value hvalue
    cases hread
    refine h.addRule element ⟨hname, ?_⟩
    rintro s ⟨⟩
    exact Dtd.attributeValue_formed h (Dtd.pieces_formed after htext none) hvalue

end Dtd.Formed

/-! ## States -/

/-- The attribute that a state is about has a name. -/
def State.Formed : State → Prop
  | .ruleType _ name | .ruleFormats _ name => IsAttributeName name
  | .ruleChoice _ name _ | .ruleChoiceEnd _ name _ => IsAttributeName name
  | .ruleDefault _ name _ | .ruleFixed _ name _ => IsAttributeName name
  | _ => True

namespace State

/-- A state that there may be is about an attribute with a name, if about any. -/
def FormedIfAny (s : Option State) : Prop :=
  ∀ s' ∈ s, s'.Formed

theorem formedIfAny_none : FormedIfAny none :=
  fun _ h => by cases h

theorem formedIfAny_some {s : State} (h : s.Formed) : FormedIfAny (some s) := by
  rintro s' ⟨⟩
  exact h

theorem formedIfAny_ite {p : Prop} [Decidable p] {s s' : Option State} (h : FormedIfAny s)
    (h' : FormedIfAny s') : FormedIfAny (if p then s else s') := by
  split
  · exact h
  · exact h'

theorem formedIfAny_address? {word : String} {atSystem atPublic : State} (hsystem : atSystem.Formed)
    (hpublic : atPublic.Formed) : FormedIfAny (address? word atSystem atPublic) :=
  formedIfAny_ite (formedIfAny_some hsystem)
    (formedIfAny_ite (formedIfAny_some hpublic) formedIfAny_none)

theorem formedIfAny_ofKeyword? (keyword : String) : FormedIfAny (ofKeyword? keyword) := by
  unfold ofKeyword?
  refine formedIfAny_ite (formedIfAny_some trivial) (formedIfAny_ite (formedIfAny_some trivial) ?_)
  exact formedIfAny_ite (formedIfAny_some trivial)
    (formedIfAny_ite (formedIfAny_some trivial) formedIfAny_none)

theorem formedIfAny_joined (joins : List (Option Char)) (sign : Char) :
    FormedIfAny (joined joins sign) := by
  unfold joined
  split
  · exact formedIfAny_none
  · exact formedIfAny_ite (formedIfAny_some trivial) formedIfAny_none

theorem closed_formed (joins : List (Option Char)) : (closed joins).Formed := by
  unfold closed
  split
  · split <;> trivial
  · trivial

theorem formedIfAny_moved? {s : State} (hs : s.Formed) {m : Mark} (hm : m.Formed) :
    FormedIfAny (s.moved? m) := by
  unfold moved?
  split
  -- a state is about no attribute, about the one that the state before is about, or about the one
  -- named
  all_goals repeat' refine formedIfAny_ite ?_ ?_
  all_goals first
    | exact formedIfAny_none
    | exact formedIfAny_some trivial
    | exact formedIfAny_some hs
    | exact formedIfAny_some hm
    | exact formedIfAny_some (Or.inl hm)
    | exact formedIfAny_some (closed_formed _)
    | exact formedIfAny_address? trivial trivial
    | exact formedIfAny_ofKeyword? _
    | exact formedIfAny_joined _ _

/-- **A mark leads from a well-formed document type to a well-formed one.** -/
theorem next_formed {d : Dtd} (hd : d.Formed) {s : State} (hs : s.Formed) {m : Mark} (hm : m.Formed)
    {start : List Char} {d' : Dtd} {s' : State} (h : s.next d m start = .ok (d', s')) :
    d'.Formed ∧ s'.Formed := by
  unfold next at h
  split at h
  · obtain ⟨_, -, he⟩ := bind_ok h
    cases he
    exact ⟨hd, trivial⟩
  · cases h
    exact ⟨⟨hd.entities, hd.rules⟩, trivial⟩
  · cases h
    exact ⟨⟨hd.entities, hd.rules⟩, trivial⟩
  · cases h
    exact ⟨hd, trivial⟩
  · obtain ⟨d₁, hdeclare, he⟩ := bind_ok h
    cases he
    exact ⟨hd.declareText hm hdeclare, trivial⟩
  · obtain ⟨_, -, he⟩ := bind_ok h
    cases he
    exact ⟨hd, trivial⟩
  · cases h
    exact ⟨hd.declareTarget _ (fun text htext => by cases htext), trivial⟩
  · cases h
    exact ⟨hd.markTarget _, trivial⟩
  · obtain ⟨_, -, he⟩ := bind_ok h
    cases he
    exact ⟨hd, trivial⟩
  · obtain ⟨d₁, hdeclare, he⟩ := bind_ok h
    cases he
    exact ⟨hd.declareDefault hs hm hdeclare, trivial⟩
  · obtain ⟨d₁, hdeclare, he⟩ := bind_ok h
    cases he
    exact ⟨hd.declareDefault hs hm hdeclare, trivial⟩
  · split at h
    · cases h
      exact ⟨hd.addRule _ ⟨hs, fun value hvalue => by cases hvalue⟩, trivial⟩
    split at h
    · rename_i hmoved
      cases h
      exact ⟨hd, formedIfAny_moved? hs hm _ hmoved⟩
    · cases h
  · split at h
    · rename_i hmoved
      cases h
      exact ⟨hd, formedIfAny_moved? hs hm _ hmoved⟩
    · cases h

end State

/-- **What a prolog declares, a document may hold.** -/
theorem readProlog_formed {d : Dtd} (hd : d.Formed) {s : State} (hs : s.Formed)
    {lexemes : List MarkLexeme} (h : ∀ l ∈ lexemes, l.Formed) {d' : Dtd} {rest : List Char}
    (hread : readProlog d s lexemes = .ok (d', rest)) : d'.Formed := by
  fun_induction readProlog d s lexemes with
  | case1 => cases hread
  | case2 => cases hread
  | case3 =>
    cases hread
    exact hd
  | case4 d start after lexemes s _ ih =>
    obtain ⟨⟨d₁, s₁⟩, hnext, hread⟩ := bind_ok hread
    obtain ⟨hd₁, hs₁⟩ := State.next_formed hd hs (show Mark.Formed .root from trivial) hnext
    exact ih d₁ s₁ hd₁ hs₁ (List.forall_mem_cons.1 h).2 hread
  | case5 d s m start after lexemes _ ih =>
    obtain ⟨hmark, hothers⟩ := List.forall_mem_cons.1 h
    obtain ⟨⟨d₁, s₁⟩, hnext, hread⟩ := bind_ok hread
    obtain ⟨hd₁, hs₁⟩ := State.next_formed hd hs hmark hnext
    exact ih d₁ s₁ hd₁ hs₁ hothers hread

end Pamphlet.Markup
