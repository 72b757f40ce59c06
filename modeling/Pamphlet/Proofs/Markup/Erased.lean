import Pamphlet.Proofs.Markup.LocalNames

/-!
# Trees up to their namespaces

`Element.erased` takes the namespaces out of a tree and leaves the marks of the attributes that have
one: which namespace it is makes no difference to the plain tree, that it is one does, since such an
attribute takes the value of another. So trees that are the same but for their namespaces have the
same plain tree (`Element.plain_congr`).
-/

namespace Pamphlet.Markup

namespace Attributes

/-- The attributes with no namespace told of those that have one. -/
def erased (attributes : Attributes) : Attributes :=
  attributes.map fun a => if isFullName a.1 then (fullName "" (localPart a.1), a.2) else a

theorem erased_cons (a : String × String) (attributes : Attributes) :
    erased (a :: attributes) =
      (if isFullName a.1 then (fullName "" (localPart a.1), a.2) else a) :: erased attributes := rfl

theorem bare_erased (attributes : Attributes) : attributes.erased.bare = attributes.bare := by
  unfold bare
  induction attributes with
  | nil => rfl
  | cons a rest ih =>
    rw [erased_cons, List.filter_cons, List.filter_cons, ih]
    cases hfull : isFullName a.1 with
    | true => simp [isFullName_fullName]
    | false => simp [hfull]

theorem cut_erased (attributes : Attributes) : attributes.erased.cut = attributes.cut := by
  unfold cut full
  induction attributes with
  | nil => rfl
  | cons a rest ih =>
    rw [erased_cons, List.filter_cons, List.filter_cons]
    cases hfull : isFullName a.1 with
    | true =>
      have hpart : localPart (fullName "" (localPart a.1)) = localPart a.1 :=
        localPart_fullName (by simp)
      simp [isFullName_fullName, hpart, ih]
    | false => simp [hfull, ih]

end Attributes

namespace Element

/-- The local name of an element's tag. -/
def localTag? (e : Element) : Option String :=
  e.plainHere.tag?

/-- The element with the namespaces taken out of its names. -/
def erasedHere (e : Element) : Element :=
  { e.plainHere with attributes := e.attributes.erased }

/-- The tree with the namespaces taken out of its names. -/
def erased (e : Element) : Element :=
  e.mapAll erasedHere

theorem erased_eq (e : Element) :
    e.erased = { e.erasedHere with children := e.children.map erased } := by
  unfold erased
  rw [mapAll_eq]
  rfl

theorem erased_alone (e : Element) : e.alone.erased = e.erased.alone := by
  rw [erased_eq, erased_eq]
  rfl

theorem plain_alone (e : Element) : e.alone.plain = e.plain.alone := by
  rw [plain_eq, plain_eq]
  rfl

theorem localTag?_eq_plain (e : Element) : e.localTag? = e.plain.tag? := by
  rw [plain_eq]
  rfl

theorem localTag?_eq_erased (e : Element) : e.localTag? = e.erased.tag? := by
  rw [erased_eq]
  rfl

theorem hasTag_eq (e : Element) (name : String) : e.hasTag name = decide (e.tag? = some name) := by
  unfold hasTag tag?
  cases e.label <;> simp

/-- The tree with its attributes set anew, those that have a namespace by their local names. -/
def reset (e : Element) : Element :=
  e.mapAll fun e => { e with attributes := e.attributes.bare.setAll e.attributes.cut }

theorem Expanded.plain_eq_reset {e : Element} (h : e.Expanded) : e.plain = e.erased.reset := by
  induction e using childInduction with
  | node e ih =>
    have hchildren : e.children.map Element.plain = (e.children.map erased).map reset := by
      rw [List.map_map]
      exact List.map_congr_left fun child hchild => ih child hchild (h.child hchild)
    have hattributes :
        e.attributes.plain = e.attributes.erased.bare.setAll e.attributes.erased.cut := by
      rw [Attributes.bare_erased, Attributes.cut_erased]
      exact Attributes.plain_eq_setAll h.here.separate
    rw [Element.plain_eq, hchildren, plainHere, hattributes, reset, mapAll_eq, erased_eq]
    rfl

/-- **Namespaces do not matter to the plain tree.** -/
theorem plain_congr {e e' : Element} (h : e.Expanded) (h' : e'.Expanded)
    (he : e.erased = e'.erased) : e.plain = e'.plain := by
  rw [h.plain_eq_reset, h'.plain_eq_reset, he]

/-- A plain tree has the characters of the tree. -/
theorem characters_plain (e : Element) : e.plain.characters = e.characters := by
  induction e using childInduction with
  | node e ih =>
    have hchildren : charactersOf (e.children.map plain) = charactersOf e.children := by
      refine String.toList_injective ?_
      rw [toList_charactersOf, toList_charactersOf, List.flatMap_map]
      refine List.flatMap_congr fun child hchild => ?_
      have htail : child.plain.tail = child.tail := by
        rw [plain_eq]
        rfl
      rw [ih child hchild, htail]
    rw [plain_eq, characters_eq, characters_eq e, hchildren]
    rfl

end Element

end Pamphlet.Markup
