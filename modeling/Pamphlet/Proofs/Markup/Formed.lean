import Pamphlet.Markup.Name
import Pamphlet.Proofs.Markup.Element

/-!
# Well-formed trees

What names and texts may be, and trees that are made of them (`Element.Formed`). Trees differ in
what their names are: full names after reading, names without colons once they are plain, and names
that bind no prefix where a tree is written to be read again.
-/

namespace Pamphlet.Markup

/-! ## Names and texts -/

/-- The characters of a name without a colon. -/
def IsNameText (cs : List Char) : Prop :=
  ∃ c ds, cs = c :: ds ∧ isNameStart c = true ∧ ∀ d ∈ ds, isNameChar d = true

/-- A name without a colon. -/
def IsName (name : String) : Prop :=
  IsNameText name.toList

/-- The characters of a name without a colon, or of one that does not begin as it should. -/
def IsNamePart (cs : List Char) : Prop :=
  ∃ c ds, cs = c :: ds ∧ (isNameStart c = true ∨ isNameChar c = true) ∧
    ∀ d ∈ ds, isNameChar d = true

/-- A name that may have a prefix. -/
def IsQualified (name : String) : Prop :=
  IsName name ∨ ∃ label part, IsNameText label ∧ IsNameText part ∧
    name.toList = label ++ ':' :: part

/-- The name of an attribute; one that a document type declares may have anything after its prefix
that goes on with a name. -/
def IsAttributeName (name : String) : Prop :=
  IsName name ∨ ∃ label part, IsNameText label ∧ IsNamePart part ∧
    name.toList = label ++ ':' :: part

/-- Characters that a document may hold. -/
def IsText (cs : List Char) : Prop :=
  ∀ c ∈ cs, isXmlChar c = true

/-- A text of a tree: there is something in it, and a document may hold it. -/
def IsRun (o : Option String) : Prop :=
  ∀ s ∈ o, s ≠ "" ∧ IsText s.toList

theorem IsNameText.part {cs : List Char} (h : IsNameText cs) : IsNamePart cs := by
  obtain ⟨c, ds, hcs, hc, hds⟩ := h
  exact ⟨c, ds, hcs, .inl hc, hds⟩

theorem IsNameText.concat {cs : List Char} (h : IsNameText cs) {c : Char}
    (hc : isNameChar c = true) : IsNameText (cs ++ [c]) := by
  obtain ⟨d, ds, rfl, hd, hds⟩ := h
  exact ⟨d, ds ++ [c], rfl, hd, List.forall_mem_append.2 ⟨hds, List.forall_mem_singleton.2 hc⟩⟩

theorem IsNamePart.name {cs : List Char} (h : IsNamePart cs)
    (hfirst : ∀ c ∈ cs.head?, isNameStart c = true) : IsNameText cs := by
  obtain ⟨c, ds, rfl, -, hds⟩ := h
  exact ⟨c, ds, rfl, hfirst c rfl, hds⟩

/-- A character that is in no name is not in a part of a name. -/
theorem IsNamePart.not_mem {cs : List Char} (h : IsNamePart cs) {d : Char}
    (hstart : isNameStart d = false) (hchar : isNameChar d = false) : d ∉ cs := by
  obtain ⟨c, ds, rfl, hc, hds⟩ := h
  intro hmem
  rcases List.mem_cons.1 hmem with rfl | hmem
  · rw [hstart, hchar] at hc
    exact hc.elim Bool.noConfusion Bool.noConfusion
  · have hd := hds d hmem
    rw [hchar] at hd
    cases hd

theorem IsQualified.attributeName {name : String} (h : IsQualified name) :
    IsAttributeName name := by
  rcases h with h | ⟨label, part, hlabel, hpart, hname⟩
  · exact .inl h
  · exact .inr ⟨label, part, hlabel, hpart.part, hname⟩

theorem isText_nil : IsText [] :=
  List.forall_mem_nil _

theorem isText_cons {c : Char} {cs : List Char} (hc : isXmlChar c = true) (h : IsText cs) :
    IsText (c :: cs) :=
  List.forall_mem_cons.2 ⟨hc, h⟩

theorem isText_append {cs ds : List Char} (h : IsText cs) (h' : IsText ds) : IsText (cs ++ ds) :=
  List.forall_mem_append.2 ⟨h, h'⟩

theorem isText_of_isRun {o : Option String} (h : IsRun o) : IsText (o.getD "").toList := by
  cases o with
  | none => exact isText_nil
  | some s => exact (h s rfl).2

theorem isRun_none : IsRun none :=
  fun _ h => by cases h

/-- A text of given characters; there is none if there are no characters. -/
def textOf (cs : List Char) : Option String :=
  if cs = [] then none else some (String.ofList cs)

theorem textOf_getD (cs : List Char) : (textOf cs).getD "" = String.ofList cs := by
  unfold textOf
  by_cases h : cs = []
  · rw [if_pos h, h]
    rfl
  · rw [if_neg h]
    rfl

/-- A text goes on with what comes after it. -/
theorem textOf_append {cs : List Char} (h : cs ≠ []) (ds : List Char) :
    some (String.ofList cs ++ (textOf ds).getD "") = textOf (cs ++ ds) := by
  have hne : cs ++ ds ≠ [] := List.append_ne_nil_of_left_ne_nil h ds
  rw [textOf_getD, ← String.ofList_append, textOf, if_neg hne]

/-! ## Line ends -/

theorem normalizeLines_formed {cs : List Char} (h : IsText cs) : IsText (normalizeLines cs) := by
  fun_induction normalizeLines cs with
  | case1 => exact isText_nil
  | case2 cs ih =>
    exact isText_cons (by decide)
      (ih fun c hc => h c (List.mem_cons_of_mem _ (List.mem_cons_of_mem _ hc)))
  | case3 c cs _ ih =>
    refine isText_cons ?_ (ih fun d hd => h d (List.mem_cons_of_mem c hd))
    split
    · decide
    · exact h c List.mem_cons_self

theorem normalizeLines_cons {c : Char} (hc : c ≠ '\r') (cs : List Char) :
    normalizeLines (c :: cs) = c :: normalizeLines cs := by
  rw [normalizeLines]
  · rw [if_neg hc]
  · intro _ h
    exact absurd h hc

/-- Line ends can be normalised part by part, but not between the two characters of one end. -/
theorem normalizeLines_append {cs ds : List Char} (h : ds.head? ≠ some '\n') :
    normalizeLines (cs ++ ds) = normalizeLines cs ++ normalizeLines ds := by
  fun_induction normalizeLines cs with
  | case1 => rfl
  | case2 cs ih =>
    rw [List.cons_append, List.cons_append, normalizeLines, ih, List.cons_append]
  | case3 c cs hpair ih =>
    rw [List.cons_append, normalizeLines, ih, List.cons_append]
    intro more hc hcs
    cases cs with
    | nil =>
      rw [List.nil_append] at hcs
      exact h (by rw [hcs]; rfl)
    | cons d ds' => exact hpair ds' hc (by rw [(List.cons.inj hcs).1])

theorem normalizeLines_ne_nil {cs : List Char} (h : cs ≠ []) : normalizeLines cs ≠ [] := by
  fun_cases normalizeLines cs with
  | case1 => exact absurd rfl h
  | case2 cs => exact List.cons_ne_nil _ _
  | case3 c cs hpair => exact List.cons_ne_nil _ _

/-- Text without carriage returns is normal. -/
theorem normalizeLines_eq_self {cs : List Char} (h : '\r' ∉ cs) : normalizeLines cs = cs := by
  induction cs with
  | nil => rfl
  | cons c cs ih =>
    have hc : c ≠ '\r' := fun he => h (he ▸ List.mem_cons_self)
    rw [normalizeLines_cons hc, ih fun hcs => h (List.mem_cons_of_mem c hcs)]

/-! ## Trees -/

namespace Element

/-- An element whose names are of certain kinds, with attributes of different names. -/
structure FormedHere (isTag isAttribute : String → Prop) (e : Element) : Prop where
  tag : ∃ name, e.label = .tag name ∧ isTag name
  attributes : ∀ a ∈ e.attributes, isAttribute a.1 ∧ IsText a.2.toList
  distinct : (e.attributes.map (·.1)).Nodup
  text : IsRun e.text
  tail : IsRun e.tail

def Formed (isTag isAttribute : String → Prop) (e : Element) : Prop :=
  ∀ x ∈ e.descendants, x.FormedHere isTag isAttribute

section

variable {isTag isAttribute : String → Prop} {e : Element}

theorem FormedHere.withTail (h : e.FormedHere isTag isAttribute) {tail : Option String}
    (htail : IsRun tail) : ({ e with tail } : Element).FormedHere isTag isAttribute :=
  ⟨h.tag, h.attributes, h.distinct, h.text, htail⟩

/-- An element is formed if it is formed itself and its children are. -/
theorem formed_iff : e.Formed isTag isAttribute ↔
    e.FormedHere isTag isAttribute ∧ ∀ child ∈ e.children, child.Formed isTag isAttribute := by
  unfold Formed
  rw [descendants_eq, List.forall_mem_cons, List.forall_mem_flatMap]

theorem Formed.here (h : e.Formed isTag isAttribute) : e.FormedHere isTag isAttribute :=
  (formed_iff.1 h).1

theorem Formed.child (h : e.Formed isTag isAttribute) {child : Element}
    (hchild : child ∈ e.children) : child.Formed isTag isAttribute :=
  (formed_iff.1 h).2 child hchild

/-- The text behind an element can be replaced by another run. -/
theorem Formed.withTail (h : e.Formed isTag isAttribute) {tail : Option String}
    (htail : IsRun tail) : ({ e with tail } : Element).Formed isTag isAttribute :=
  formed_iff.2 ⟨h.here.withTail htail, fun _ hchild => h.child hchild⟩

end

end Element

end Pamphlet.Markup
