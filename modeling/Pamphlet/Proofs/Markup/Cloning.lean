import Pamphlet.Proofs.Markup.Place
import Pamphlet.Proofs.Markup.Trimmed

/-!
# Copying content

The content of an element is a list of items in which no two runs stand side by side and no run is
empty; `Item.merged` makes such a list of any. Adding the content of a source to a target makes one
list of both, joined where they meet (`Element.content_appendContent`), wherever the run at the seam
has to be stored; so sources can be joined with each other before they are added
(`Element.appendContent_assoc`). In a draft nothing changes but the target and what holds it
(`Draft.element?_change_of_apart`).
-/

namespace Pamphlet.Markup

/-! ## Joined runs -/

namespace Item

/-- Puts a run before items: it is joined with the run that they begin with, and an empty one is
dropped. -/
def mergeRun (s : String) : List Item → List Item
  | .run t :: items => .run (s ++ t) :: items
  | items => if s = "" then items else .run s :: items

/-- The items with adjacent runs joined and empty ones dropped. -/
def merged : List Item → List Item
  | [] => []
  | .run s :: items => mergeRun s (merged items)
  | .node e :: items => .node e :: merged items

/-- The character data of an item. -/
def characters : Item → String
  | .run s => s
  | .node e => e.characters

/-- The character data of items in their order. -/
def charactersOf (items : List Item) : List Char :=
  items.flatMap fun item => item.characters.toList

theorem mergeRun_empty (items : List Item) : mergeRun "" items = items := by
  cases items with
  | nil => rfl
  | cons item items =>
    cases item with
    | run t => rw [mergeRun, String.empty_append]
    | node e => rfl

/-- Two runs become one. -/
theorem mergeRun_mergeRun (s t : String) (items : List Item) :
    mergeRun s (mergeRun t items) = mergeRun (s ++ t) items := by
  by_cases ht : t = ""
  · rw [ht, mergeRun_empty, String.append_empty]
  · have happend : s ++ t ≠ "" := fun he => ht (String.append_eq_empty_iff.1 he).2
    cases items with
    | nil => simp [mergeRun, ht, happend]
    | cons item items =>
      cases item with
      | run u => simp only [mergeRun, String.append_assoc]
      | node e => simp [mergeRun, ht, happend]

/-- A run is joined with nothing behind the first child. -/
theorem mergeRun_append_node (s : String) (items : List Item) (e : Element) (more : List Item) :
    mergeRun s (items ++ .node e :: more) = mergeRun s items ++ .node e :: more := by
  cases items with
  | nil =>
    simp only [mergeRun, List.nil_append]
    split <;> rfl
  | cons item items =>
    cases item with
    | run t => rfl
    | node f =>
      simp only [mergeRun, List.cons_append]
      split <;> rfl

/-- Runs are not joined over an element. -/
theorem merged_append_node (items : List Item) (e : Element) (more : List Item) :
    merged (items ++ .node e :: more) = merged items ++ .node e :: merged more := by
  induction items with
  | nil => rfl
  | cons item items ih =>
    cases item with
    | run s => rw [List.cons_append, merged, ih, mergeRun_append_node, merged]
    | node f =>
      rw [List.cons_append, merged, ih, merged]
      rfl

theorem merged_mergeRun_append (s : String) (items more : List Item) :
    merged (mergeRun s items ++ more) = mergeRun s (merged (items ++ more)) := by
  by_cases hs : s = ""
  · rw [hs, mergeRun_empty, mergeRun_empty]
  cases items with
  | nil => simp only [mergeRun, if_neg hs, List.cons_append, List.nil_append, merged]
  | cons item items =>
    cases item with
    | run t => rw [mergeRun, List.cons_append, List.cons_append, merged, merged, mergeRun_mergeRun]
    | node e => simp only [mergeRun, if_neg hs, List.cons_append, merged]

/-- Items can be joined before others are added. -/
theorem merged_merged_append (items more : List Item) :
    merged (merged items ++ more) = merged (items ++ more) := by
  induction items with
  | nil => rfl
  | cons item items ih =>
    cases item with
    | run s => rw [merged, merged_mergeRun_append, ih, List.cons_append, merged]
    | node e => rw [merged, List.cons_append, merged, ih, List.cons_append, merged]

/-! ### Character data -/

theorem charactersOf_cons (item : Item) (items : List Item) :
    charactersOf (item :: items) = item.characters.toList ++ charactersOf items := rfl

theorem charactersOf_append (items more : List Item) :
    charactersOf (items ++ more) = charactersOf items ++ charactersOf more :=
  List.flatMap_append

theorem charactersOf_mergeRun (s : String) (items : List Item) :
    charactersOf (mergeRun s items) = s.toList ++ charactersOf items := by
  cases items with
  | nil =>
    by_cases hs : s = ""
    · simp [mergeRun, hs, charactersOf]
    · simp [mergeRun, hs, charactersOf, characters]
  | cons item items =>
    cases item with
    | run t => simp [mergeRun, charactersOf, characters]
    | node e =>
      by_cases hs : s = ""
      · simp [mergeRun, hs]
      · simp [mergeRun, hs, charactersOf, characters]

/-- Joining runs keeps all characters. -/
theorem charactersOf_merged (items : List Item) :
    charactersOf (merged items) = charactersOf items := by
  induction items with
  | nil => rfl
  | cons item items ih =>
    cases item with
    | run s => rw [merged, charactersOf_mergeRun, ih, charactersOf_cons, characters]
    | node e => rw [merged, charactersOf_cons, ih, charactersOf_cons]

end Item

/-! ## Contents -/

namespace Element

open Item (merged mergeRun)

/-- The items of children and of the runs after them. -/
def itemsOf (es : List Element) : List Item :=
  es.flatMap fun e => .node e.alone :: runOf e.tail

theorem content_eq (e : Element) : e.content = runOf e.text ++ itemsOf e.children := rfl

theorem itemsOf_append (es fs : List Element) : itemsOf (es ++ fs) = itemsOf es ++ itemsOf fs :=
  List.flatMap_append

theorem merged_runOf (o : Option String) : merged (runOf o) = runOf o := by
  cases o with
  | none => rfl
  | some s =>
    by_cases hs : s = ""
    · rw [hs]
      rfl
    · simp [runOf, hs, merged, mergeRun]

/-- Two texts one after the other are stored as one. -/
theorem merged_runOf_append (o : Option String) (s : String) :
    merged (runOf o ++ runOf (some s)) = runOf (some (o.getD "" ++ s)) := by
  have hrun : ∀ t, runOf (some t) = mergeRun t [] := fun _ => rfl
  cases o with
  | none => rw [runOf, List.nil_append, merged_runOf, Option.getD_none, String.empty_append]
  | some t =>
    rw [hrun, Item.merged_mergeRun_append, List.nil_append, merged_runOf, hrun,
      Item.mergeRun_mergeRun, hrun]
    rfl

/-- Children stand apart from whatever is before them. -/
theorem merged_append_itemsOf (items : List Item) (es : List Element) :
    merged (items ++ itemsOf es) = merged items ++ itemsOf es := by
  induction es generalizing items with
  | nil =>
    rw [itemsOf, List.flatMap_nil, List.append_nil, List.append_nil]
  | cons e es ih =>
    have hitems : itemsOf (e :: es) = .node e.alone :: (runOf e.tail ++ itemsOf es) := rfl
    rw [hitems, Item.merged_append_node, ih, merged_runOf]

/-- The content of an element is joined already. -/
theorem merged_content (e : Element) : merged e.content = e.content := by
  rw [content_eq, merged_append_itemsOf, merged_runOf]

theorem appendText_empty (e : Element) : e.appendText "" = e := if_pos rfl

/-- Text goes behind the text of an element without children. -/
theorem appendText_of_nil {e : Element} (h : e.children = []) {s : String} (hs : s ≠ "") :
    e.appendText s = { e with text := some (e.text.getD "" ++ s) } := by
  simp [appendText, hs, h]

/-- Text goes behind the last child of an element that has children. -/
theorem appendText_concat {e last : Element} {es : List Element} (h : e.children = es ++ [last])
    {s : String}
    (hs : s ≠ "") : e.appendText s = { e with children := es ++ [addTail s last] } := by
  simp [appendText, hs, h, onLast_concat]

/-- **The view of an element's content**: its text and what follows its children, absent or empty as
they may be, joined. -/
theorem content_eq_merged (e : Element) :
    e.content = merged (.run (e.text.getD "") ::
      e.children.flatMap fun child => [.node child.alone, .run (child.tail.getD "")]) := by
  have hrun : ∀ (o : Option String) (es : List Element),
      mergeRun (o.getD "") (itemsOf es) = runOf o ++ itemsOf es := by
    intro o es
    cases o with
    | none => exact Item.mergeRun_empty _
    | some s =>
      by_cases hs : s = ""
      · rw [hs]
        exact Item.mergeRun_empty _
      · cases es with
        | nil => simp [itemsOf, runOf, hs, mergeRun]
        | cons e es => simp [itemsOf, runOf, hs, mergeRun]
  have hitems : ∀ es : List Element,
      merged (es.flatMap fun child => [.node child.alone, .run (child.tail.getD "")]) =
          itemsOf es := by
    intro es
    induction es with
    | nil => rfl
    | cons e es ih =>
      rw [List.flatMap_cons, List.cons_append, List.singleton_append, merged, merged, ih, hrun]
      rfl
  rw [merged, hitems, hrun, content_eq]

/-- Appended text is the last run of the content, joined with the one before. -/
theorem content_appendText (e : Element) (s : String) :
    (e.appendText s).content = merged (e.content ++ runOf (some s)) := by
  by_cases hs : s = ""
  · have hnone : runOf (some s) = [] := if_pos hs
    rw [hs, appendText_empty, ← hs, hnone, List.append_nil, merged_content]
  rcases List.eq_nil_or_concat e.children with hchildren | ⟨es, last, hchildren⟩
  · have hitems : itemsOf e.children = [] := by rw [hchildren, itemsOf, List.flatMap_nil]
    rw [appendText_of_nil hchildren hs, content_eq, content_eq]
    simp only [hitems, List.append_nil]
    rw [merged_runOf_append]
  · -- the text is added to what follows the last child
    rw [List.concat_eq_append] at hchildren
    have hlast :
        ∀ e : Element, itemsOf (es ++ [e]) = itemsOf es ++ .node e.alone :: runOf e.tail := by
      intro e
      rw [itemsOf_append, itemsOf, itemsOf, List.flatMap_singleton]
    have halone : (addTail s last).alone = last.alone := rfl
    rw [appendText_concat hchildren hs, content_eq, content_eq, hchildren]
    simp only [hlast, halone, List.append_assoc, List.cons_append]
    rw [← List.append_assoc, ← List.append_assoc, Item.merged_append_node, merged_append_itemsOf,
      merged_runOf, merged_runOf_append]
    rfl

/-- **Copying content**: what an element holds is followed by what the source holds, and joined at
the seam. -/
theorem content_appendContent (e source : Element) :
    (e.appendContent source).content = merged (e.content ++ source.content) := by
  have htext : (e.appendText? source.text).content = merged (e.content ++ runOf source.text) := by
    cases source.text with
    | none => rw [appendText?, runOf, List.append_nil, merged_content]
    | some s => exact content_appendText e s
  have hchildren : (e.appendContent source).content =
      (e.appendText? source.text).content ++ itemsOf source.children := by
    rw [appendContent, content_eq, content_eq, itemsOf_append, List.append_assoc]
  rw [hchildren, htext, content_eq source, ← List.append_assoc, merged_append_itemsOf]

/-- Of several sources one after the other the content is one list. -/
theorem content_appendContent_all (e : Element) (sources : List Element) :
    (sources.foldl appendContent e).content = merged (e.content ++ sources.flatMap content) := by
  induction sources generalizing e with
  | nil => rw [List.foldl_nil, List.flatMap_nil, List.append_nil, merged_content]
  | cons source sources ih =>
    rw [List.foldl_cons, ih, content_appendContent, Item.merged_merged_append, List.flatMap_cons,
      List.append_assoc]

/-! ### Successive sources -/

/-- Texts that are appended one after the other are one text. -/
theorem appendText_append (e : Element) (s t : String) :
    (e.appendText s).appendText t = e.appendText (s ++ t) := by
  by_cases hs : s = ""
  · rw [hs, appendText_empty, String.empty_append]
  by_cases ht : t = ""
  · rw [ht, appendText_empty, String.append_empty]
  have hst : s ++ t ≠ "" := fun he => hs (String.append_eq_empty_iff.1 he).1
  rcases List.eq_nil_or_concat e.children with hchildren | ⟨es, last, hchildren⟩
  · rw [appendText_of_nil hchildren hs, appendText_of_nil hchildren hst,
      appendText_of_nil (by exact hchildren) ht]
    simp [String.append_assoc]
  · rw [List.concat_eq_append] at hchildren
    rw [appendText_concat hchildren hs, appendText_concat hchildren hst, appendText_concat rfl ht]
    simp [addTail, String.append_assoc]

theorem appendText?_eq (e : Element) (o : Option String) :
    e.appendText? o = e.appendText (o.getD "") := by
  cases o with
  | none => exact (appendText_empty e).symm
  | some s => rfl

theorem appendContent_appendText (e s : Element) (t : String) :
    (e.appendContent s).appendText t = e.appendContent (s.appendText t) := by
  by_cases ht : t = ""
  · rw [ht, appendText_empty, appendText_empty]
  rcases List.eq_nil_or_concat s.children with hchildren | ⟨es, last, hchildren⟩
  · have hsource :
      ∀ s : Element, s.children = [] → e.appendContent s = e.appendText (s.text.getD "") := by
      intro s hs
      rw [appendContent, hs, appendText?_eq]
      cases e.appendText (s.text.getD "")
      simp only [List.append_nil]
    rw [hsource s hchildren, appendText_of_nil hchildren ht, hsource _ (by exact hchildren),
      appendText_append]
    rfl
  · rw [List.concat_eq_append] at hchildren
    have hboth :
        (e.appendContent s).children = (e.appendText? s.text).children ++ es ++ [last] := by
      rw [appendContent, hchildren, List.append_assoc]
    rw [appendText_concat hchildren ht, appendText_concat hboth ht]
    simp [appendContent]

/-- What follows an element is no part of what it holds. -/
theorem tail_appendContent (e source : Element) : (e.appendContent source).tail = e.tail := by
  have htext : (e.appendText? source.text).tail = e.tail := by
    rw [appendText?_eq]
    unfold appendText
    split
    · rfl
    · split <;> rfl
  exact htext

/-- What has no children gets those of the source. -/
theorem children_appendContent {e : Element} (h : e.children = []) (source : Element) :
    (e.appendContent source).children = source.children := by
  have htext : (e.appendText? source.text).children = [] := by
    rw [appendText?_eq]
    by_cases hs : source.text.getD "" = ""
    · rw [hs, appendText_empty, h]
    · rw [appendText_of_nil h hs]
      exact h
  rw [appendContent, htext, List.nil_append]

/-- **Sources can be joined first**: adding one after the other is adding what comes of adding the
second to the first. -/
theorem appendContent_assoc (e s t : Element) :
    (e.appendContent s).appendContent t = e.appendContent (s.appendContent t) := by
  have hsecond : ∀ e : Element, e.appendContent t =
      { e.appendText (t.text.getD "") with
        children := (e.appendText (t.text.getD "")).children ++ t.children } := by
    intro e
    rw [appendContent, appendText?_eq]
  rw [hsecond, appendContent_appendText, hsecond s]
  simp [appendContent]

/-! ### Character data -/

/-- The characters of an element are those of its content. -/
theorem toList_characters (e : Element) : e.characters.toList = Item.charactersOf e.content := by
  have hrun : ∀ o : Option String, Item.charactersOf (runOf o) = (o.getD "").toList := by
    intro o
    cases o with
    | none => rfl
    | some s =>
      by_cases hs : s = ""
      · simp [runOf, hs, Item.charactersOf]
      · simp [runOf, hs, Item.charactersOf, Item.characters]
  have hitems : ∀ es, Item.charactersOf (itemsOf es) = (charactersOf es).toList := by
    intro es
    rw [toList_charactersOf, itemsOf, Item.charactersOf, List.flatMap_assoc]
    refine List.flatMap_congr fun e _ => ?_
    have halone : e.alone.characters = e.characters := by
      rw [characters_eq, characters_eq]
      rfl
    rw [List.flatMap_cons, ← hrun, Item.characters, halone, Item.charactersOf]
  rw [content_eq, Item.charactersOf_append, hrun, hitems, characters_eq, String.toList_append]

/-- Copied content brings its characters, behind those that were there. -/
theorem characters_appendContent (e source : Element) :
    (e.appendContent source).characters = e.characters ++ source.characters := by
  refine String.toList_injective ?_
  rw [toList_characters, content_appendContent, Item.charactersOf_merged, Item.charactersOf_append,
    ← toList_characters, ← toList_characters, String.toList_append]

theorem characters_append (e child : Element) :
    (e.append child).characters = e.characters ++ (child.characters ++ child.tail.getD "") := by
  refine String.toList_injective ?_
  rw [characters_eq, characters_eq e, append]
  simp [toList_charactersOf]

/-! ## Places -/

/-- A change of one element leaves those as they are that neither hold it nor are held by it. -/
theorem descendant?_changeAt_of_apart (f : Element → Element) {path q : List Nat}
    (hq : ¬ q <+: path)
    (hpath : ¬ path <+: q) (e : Element) : (e.changeAt f path).descendant? q = e.descendant? q := by
  induction path generalizing e q with
  | nil => exact absurd List.nil_prefix hpath
  | cons i path ih =>
    cases q with
    | nil => exact absurd List.nil_prefix hq
    | cons j q =>
      rw [descendant?_cons, descendant?_cons, children_changeAt_cons]
      by_cases hij : i = j
      · subst hij
        rw [List.prefix_cons_inj] at hq hpath
        rw [if_pos rfl]
        cases e.children[i]? with
        | none => rfl
        | some child => exact ih hq hpath child
      · rw [if_neg hij]

end Element

/-- Two elements share no node: neither is the other one or holds it. -/
structure Place.Apart (p q : Place) : Prop where
  not_above : ¬ p.Above q
  not_below : ¬ q.Above p

namespace Draft

/-- A change at one place is not seen at a place apart. -/
theorem element?_change_of_apart (d : Draft) (f : Element → Element) {p q : Place} (h : p.Apart q) :
    (d.change q f).element? p = d.element? p := by
  rw [element?_change]
  by_cases htree : q.tree = p.tree
  · have hp : ¬ p.path <+: q.path := fun hpath => h.not_above ⟨htree.symm, hpath⟩
    have hq : ¬ q.path <+: p.path := fun hpath => h.not_below ⟨htree, hpath⟩
    rw [if_pos htree, element?_eq]
    congr 1
    funext e
    exact Element.descendant?_changeAt_of_apart f hp hq e
  · rw [if_neg htree]

/-- The target of a change is changed. -/
theorem element?_change_self (d : Draft) (f : Element → Element) (p : Place) :
    (d.change p f).element? p = (d.element? p).map f := by
  rw [element?_change, if_pos rfl, element?_eq]
  cases d.trees[p.tree]? with
  | none => rfl
  | some e => exact Element.descendant?_changeAt f p.path e

end Draft

end Pamphlet.Markup
