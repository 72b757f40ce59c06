import Pamphlet.Markup.Element

/-!
# Walking through trees

The walks through a tree in terms of its children: `mapAll_eq`, `descendants_eq` and
`characters_eq`. A statement about every tree is proved from its children up
(`Element.childInduction`).
-/

namespace Pamphlet.Markup.Element

theorem sizeOf_child {e child : Element} (h : child ∈ e.children) : sizeOf child < sizeOf e := by
  have hchildren := List.sizeOf_lt_of_mem h
  cases e with
  | mk label attributes text children tail =>
    simp only [mk.sizeOf_spec] at hchildren ⊢
    omega

/-- What holds of every tree whose children have it holds of every tree. -/
theorem childInduction {motive : Element → Prop}
    (node : ∀ e : Element, (∀ child ∈ e.children, motive child) → motive e) (e : Element) :
    motive e :=
  node e fun child h =>
    have := sizeOf_child h
    childInduction node child
termination_by sizeOf e

theorem mapAllOf_eq_map (f : Element → Element) (es : List Element) :
    mapAllOf f es = es.map (mapAll f) := by
  induction es with
  | nil => rfl
  | cons e es ih =>
    unfold mapAllOf
    rw [ih]
    rfl

theorem mapAll_eq (f : Element → Element) (e : Element) :
    e.mapAll f = f { e with children := e.children.map (mapAll f) } := by
  cases e with
  | mk label attributes text children tail =>
    unfold mapAll
    rw [mapAllOf_eq_map]

theorem hasTag_mapAll (f : Element → Element) (hf : ∀ e, (f e).label = e.label) (e : Element)
    (name : String) : (e.mapAll f).hasTag name = e.hasTag name := by
  rw [mapAll_eq, hasTag, hf, hasTag]

theorem children_mapAll (f : Element → Element) (hf : ∀ e, (f e).children = e.children)
    (e : Element) : (e.mapAll f).children = e.children.map (mapAll f) := by
  rw [mapAll_eq, hf]

theorem descendantsOf_flatMap (es : List Element) : descendantsOf es = es.flatMap descendants := by
  induction es with
  | nil => rfl
  | cons e es ih =>
    unfold descendantsOf
    rw [ih]
    rfl

theorem descendants_eq (e : Element) : e.descendants = e :: e.children.flatMap descendants := by
  cases e with
  | mk label attributes text children tail =>
    unfold descendants
    rw [descendantsOf_flatMap]

theorem characters_eq (e : Element) : e.characters = e.text.getD "" ++ charactersOf e.children := by
  cases e
  rw [characters]

theorem toList_charactersOf (es : List Element) :
    (charactersOf es).toList = es.flatMap fun e => e.characters.toList ++
    (e.tail.getD "").toList := by
  induction es with
  | nil => rfl
  | cons e es ih =>
    rw [charactersOf, String.toList_append, String.toList_append, ih, List.flatMap_cons]

end Pamphlet.Markup.Element
