import Pamphlet.Proofs.Markup.Element
import Pamphlet.Markup.Place

/-!
# Adding to trees at places

Adding a child to an element of a tree gives the element one more child, its last one, and leaves
every other element with what it is and with as many children as it has (`descendant?_append`). The
same of drafts: every element of a draft stays at its place (`Draft.element?_append`), an element
that is neither the one that is added to nor above it stays as it is
(`Draft.element?_append_of_not_above`), and the new child stands after all others
(`Draft.element?_append_child`).
-/

namespace Pamphlet.Markup

namespace Element

/-- The element without its children. -/
def bare (e : Element) : Element :=
  { e with children := [] }

/-- Another state of an element: it is what it was, and has so many children more. -/
structure Extends (added : Nat) (e e' : Element) : Prop where
  bare : e'.bare = e.bare
  length : e'.children.length = e.children.length + added

theorem Extends.refl (e : Element) : Extends 0 e e :=
  ⟨rfl, rfl⟩

/-- Children that are added one after the other. -/
theorem Extends.trans {m n : Nat} {e e' e'' : Element} (h : Extends m e e')
    (h' : Extends n e' e'') : Extends (m + n) e e'' where
  bare := h'.bare.trans h.bare
  length := by
    rw [h'.length, h.length, Nat.add_assoc]

theorem extends_append (e child : Element) : Extends 1 e (e.append child) where
  bare := rfl
  length := by
    simp [append]

theorem descendant?_cons (e : Element) (i : Nat) (path : List Nat) :
    e.descendant? (i :: path) = e.children[i]?.bind (descendant? path) := rfl

/-- A path leads on from where its beginning has led. -/
theorem descendant?_append_path (e : Element) (path rest : List Nat) :
    e.descendant? (path ++ rest) = (e.descendant? path).bind (descendant? rest) := by
  induction path generalizing e with
  | nil => rfl
  | cons i path ih =>
    rw [List.cons_append, descendant?_cons, descendant?_cons]
    cases e.children[i]? with
    | none => rfl
    | some child => exact ih child

/-- Below the place of a change stands what is below the changed element. -/
theorem descendant?_changeAt_below (f : Element → Element) (e : Element) (path rest : List Nat) :
    (e.changeAt f path).descendant? (path ++ rest) =
      ((e.descendant? path).map f).bind (descendant? rest) := by
  rw [descendant?_append_path, descendant?_changeAt]

/-- What leaves the children of each element where they are leaves every element at its place. -/
theorem descendant?_mapAll (f : Element → Element) (hf : ∀ e, (f e).children = e.children)
    (e : Element)
    (path : List Nat) : (e.mapAll f).descendant? path = (e.descendant? path).map (mapAll f) := by
  induction path generalizing e with
  | nil => rfl
  | cons i path ih =>
    rw [descendant?_cons, descendant?_cons, children_mapAll f hf, List.getElem?_map]
    cases e.children[i]? with
    | none => rfl
    | some child => exact ih child

/-- A change far below is a change of what stands on the way. -/
theorem changeAt_append (f : Element → Element) (e : Element) (path rest : List Nat) :
    e.changeAt f (path ++ rest) = e.changeAt (changeAt f rest) path := by
  induction path generalizing e with
  | nil => rfl
  | cons i path ih =>
    rw [List.cons_append, changeAt, changeAt]
    congr 2
    funext child
    exact ih child

/-- Two changes at one path are one change. -/
theorem changeAt_changeAt (f g : Element → Element) (e : Element) (path : List Nat) :
    (e.changeAt f path).changeAt g path = e.changeAt (g ∘ f) path := by
  induction path generalizing e with
  | nil => rfl
  | cons i path ih =>
    rw [changeAt, changeAt, changeAt, List.modify_modify_eq]
    congr 2
    funext child
    exact ih child

/-- Only what a change does to the element at its place matters. -/
theorem changeAt_congr {f g : Element → Element} {e c : Element} {path : List Nat}
    (h : e.descendant? path = some c) (hfg : f c = g c) :
    e.changeAt f path = e.changeAt g path := by
  induction path generalizing e with
  | nil =>
    cases h
    exact hfg
  | cons i path ih =>
    rw [descendant?_cons] at h
    obtain ⟨child, hchild, hc⟩ := Option.bind_eq_some_iff.1 h
    rw [changeAt, changeAt]
    congr 1
    refine List.ext_getElem? fun j => ?_
    rw [List.getElem?_modify, List.getElem?_modify]
    by_cases hij : i = j
    · subst hij
      simp [hchild, ih hc]
    · simp [hij]

/-- The element with one of its children changed. -/
def changeChild (f : Element → Element) (n : Nat) (e : Element) : Element :=
  { e with children := e.children.modify n f }

theorem modify_length (f : Element → Element) (before : List Element) (e : Element)
    (after : List Element) :
    (before ++ e :: after).modify before.length f = before ++ f e :: after := by
  induction before with
  | nil => rfl
  | cons b before ih =>
    rw [List.cons_append, List.length_cons, List.modify_succ_cons, ih]
    rfl

/-- The children of an element along a path are changed at one number. -/
theorem children_changeAt_cons (f : Element → Element) (e : Element) (i j : Nat) (path : List Nat) :
    (e.changeAt f (i :: path)).children[j]? =
      if i = j then e.children[j]?.map (changeAt f path) else e.children[j]? := by
  simp only [changeAt, List.getElem?_modify]
  split
  · rfl
  · cases e.children[j]? <;> rfl

/-- A child that is there stays where it is when another one is added. -/
theorem getElem?_append_of_some {e c : Element} {i : Nat} (child : Element)
    (h : e.children[i]? = some c) : (e.append child).children[i]? = some c := by
  rw [append, List.getElem?_append_left (List.getElem?_eq_some_iff.1 h).1, h]

/-- Adding a child keeps every element at its place; one of them has one child more. -/
theorem descendant?_append {e c : Element} {q : List Nat} (child : Element) (path : List Nat)
    (h : e.descendant? q = some c) :
    ∃ c', (e.changeAt (·.append child) path).descendant? q = some c' ∧
      Extends (if q = path then 1 else 0) c c' := by
  induction path generalizing e q with
  | nil =>
    cases q with
    | nil =>
      cases h
      exact ⟨_, rfl, extends_append c child⟩
    | cons j q =>
      refine ⟨c, ?_, Extends.refl c⟩
      rw [descendant?_cons] at h ⊢
      obtain ⟨d, hd, hc⟩ := Option.bind_eq_some_iff.1 h
      rw [changeAt, getElem?_append_of_some child hd]
      exact hc
  | cons i path ih =>
    cases q with
    | nil =>
      cases h
      exact ⟨_, rfl, rfl, by simp [changeAt]⟩
    | cons j q =>
      rw [descendant?_cons] at h
      obtain ⟨d, hd, hc⟩ := Option.bind_eq_some_iff.1 h
      rw [descendant?_cons, children_changeAt_cons, hd]
      by_cases hij : i = j
      · obtain ⟨c', hc', hext⟩ := ih hc
        subst hij
        exact ⟨c', by simpa using hc', by simpa using hext⟩
      · have hne : ¬ j :: q = i :: path := fun he => hij (List.cons.inj he).1.symm
        rw [if_neg hij, if_neg hne]
        exact ⟨c, hc, Extends.refl c⟩

/-- An element that is neither above the place nor at it is as it was. -/
theorem descendant?_append_of_not_above {e c : Element} {q path : List Nat} (child : Element)
    (hpath : ¬ q <+: path) (h : e.descendant? q = some c) :
    (e.changeAt (·.append child) path).descendant? q = some c := by
  induction path generalizing e q with
  | nil =>
    cases q with
    | nil => exact absurd List.prefix_rfl hpath
    | cons j q =>
      rw [descendant?_cons] at h ⊢
      obtain ⟨d, hd, hc⟩ := Option.bind_eq_some_iff.1 h
      rw [changeAt, getElem?_append_of_some child hd]
      exact hc
  | cons i path ih =>
    cases q with
    | nil => exact absurd List.nil_prefix hpath
    | cons j q =>
      rw [descendant?_cons] at h
      obtain ⟨d, hd, hc⟩ := Option.bind_eq_some_iff.1 h
      rw [descendant?_cons, children_changeAt_cons, hd]
      by_cases hij : i = j
      · subst hij
        rw [List.prefix_cons_inj] at hpath
        simpa using ih hpath hc
      · rw [if_neg hij]
        exact hc

/-- The new child is the last one. -/
theorem descendant?_append_child {e p : Element} {path : List Nat} (child : Element)
    (h : e.descendant? path = some p) :
    (e.changeAt (·.append child) path).descendant? (path ++ [p.children.length]) = some child := by
  rw [descendant?_changeAt_below, h]
  simp [append, descendant?]

end Element

theorem Place.Above.child {p q : Place} (h : p.Above q) (n : Nat) : p.Above (q.child n) :=
  ⟨h.1, h.2.trans (List.prefix_append _ _)⟩

namespace Draft

variable {d : Draft} {p q parent : Place}

theorem element?_eq (d : Draft) (q : Place) :
    d.element? q = d.trees[q.tree]?.bind (·.descendant? q.path) := rfl

/-- A change in one tree does not show in the others. -/
theorem element?_change (d : Draft) (p q : Place) (f : Element → Element) :
    (d.change p f).element? q =
      if p.tree = q.tree then
        d.trees[q.tree]?.bind fun e => (e.changeAt f p.path).descendant? q.path
      else d.element? q := by
  unfold element? change
  simp only [List.getElem?_modify]
  split
  · cases d.trees[q.tree]? <;> rfl
  · cases d.trees[q.tree]? <;> rfl

/-- **Elements stay at their places** when a child is added somewhere. -/
theorem element?_append {c : Element} (parent : Place) (child : Element)
    (h : d.element? q = some c) :
    ∃ c', (d.change parent (·.append child)).element? q = some c' ∧
      c.Extends (if q = parent then 1 else 0) c' := by
  rw [element?_change]
  by_cases htree : parent.tree = q.tree
  · obtain ⟨e, he, hc⟩ := Option.bind_eq_some_iff.1 h
    obtain ⟨c', hc', hext⟩ := Element.descendant?_append child parent.path hc
    have hsame : (q = parent) = (q.path = parent.path) := by
      cases q
      cases parent
      simp_all
    rw [if_pos htree, he]
    simp only [hsame]
    exact ⟨c', hc', hext⟩
  · have hne : q ≠ parent := fun he => htree (he ▸ rfl)
    rw [if_neg htree, if_neg hne]
    exact ⟨c, h, .refl c⟩

/-- An element stays as it is when a child is added that is not below it. -/
theorem element?_append_of_not_above {c : Element} (child : Element) (hq : ¬ q.Above parent)
    (h : d.element? q = some c) : (d.change parent (·.append child)).element? q = some c := by
  rw [element?_change]
  by_cases htree : parent.tree = q.tree
  · obtain ⟨e, he, hc⟩ := Option.bind_eq_some_iff.1 h
    have hpath : ¬ q.path <+: parent.path := fun hpath => hq ⟨htree.symm, hpath⟩
    rw [if_pos htree, he]
    exact Element.descendant?_append_of_not_above child hpath hc
  · rw [if_neg htree]
    exact h

/-- The child that has been added is the last one. -/
theorem element?_append_child {e : Element} (child : Element) (h : d.element? parent = some e) :
    (d.change parent (·.append child)).element? (parent.child e.children.length) = some child := by
  obtain ⟨root, hroot, he⟩ := Option.bind_eq_some_iff.1 h
  have htree : (parent.child e.children.length).tree = parent.tree := rfl
  rw [element?_change, htree, if_pos rfl, hroot]
  exact Element.descendant?_append_child child he

theorem change_change (d : Draft) (p : Place) (f g : Element → Element) :
    (d.change p f).change p g = d.change p (g ∘ f) := by
  unfold change
  simp only [List.modify_modify_eq]
  congr 2
  funext e
  exact Element.changeAt_changeAt f g e p.path

/-- A change of a child is a change of its parent. -/
theorem change_child (d : Draft) (p : Place) (n : Nat) (f : Element → Element) :
    d.change (p.child n) f = d.change p (Element.changeChild f n) := by
  unfold change Place.child
  simp only
  congr 2
  funext e
  exact Element.changeAt_append f e p.path [n]

/-- Only what stands at the place decides what a change does. -/
theorem change_congr {f g : Element → Element} {e : Element} (h : d.element? p = some e)
    (hfg : f e = g e) : d.change p f = d.change p g := by
  obtain ⟨root, hroot, he⟩ := Option.bind_eq_some_iff.1 h
  unfold change
  congr 1
  refine List.ext_getElem? fun i => ?_
  rw [List.getElem?_modify, List.getElem?_modify]
  by_cases hi : p.tree = i
  · subst hi
    simp [hroot, Element.changeAt_congr he hfg]
  · simp [hi]

/-- What is done to a child that has just been added is done to it before. -/
theorem change_append_child {e : Element} (child : Element) (f : Element → Element)
    (h : d.element? p = some e) :
    (d.change p (·.append child)).change (p.child e.children.length) f =
      d.change p (·.append (f child)) := by
  rw [change_child, change_change]
  refine change_congr h ?_
  simp only [Function.comp_apply, Element.changeChild, Element.append]
  rw [Element.modify_length]

/-- What is already there is neither a new child nor below it. -/
theorem not_above_of_element? {e c : Element} (he : d.element? p = some e)
    (hc : d.element? q = some c) : ¬ (p.child e.children.length).Above q := by
  rintro ⟨htree, rest, hrest⟩
  have hsame : p.tree = q.tree := htree
  obtain ⟨root, hroot, hdescendant⟩ := Option.bind_eq_some_iff.1 he
  rw [element?_eq, ← hsame, hroot, ← hrest, Place.child, List.append_assoc, Option.bind_some,
    Element.descendant?_append_path, hdescendant, Option.bind_some, List.singleton_append,
    Element.descendant?_cons, List.getElem?_eq_none (Nat.le_refl _)] at hc
  cases hc

/-- A change that goes down to every element changes each element below its place. -/
theorem element?_change_of_above {f : Element → Element}
    (hf : ∀ e path, (f e).descendant? path = (e.descendant? path).map f) (h : p.Above q) :
    (d.change p f).element? q = (d.element? q).map f := by
  obtain ⟨htree, rest, hrest⟩ := h
  rw [element?_change, if_pos htree, element?_eq, ← hrest]
  cases d.trees[q.tree]? with
  | none => rfl
  | some e =>
    simp only [Option.bind_some]
    rw [Element.descendant?_changeAt_below, Element.descendant?_append_path]
    cases e.descendant? p.path with
    | none => rfl
    | some c => exact hf c rest

end Draft

end Pamphlet.Markup
