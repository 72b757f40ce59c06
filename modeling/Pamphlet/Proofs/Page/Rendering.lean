import Pamphlet.Page.Basic
import Pamphlet.Page.Render
import Pamphlet.Proofs.Page.Replacement

/-!
# What a section looks like in a tree

A section is shown by three elements: an entry in a contents list, and a heading and a block that
stand one after the other (`Shown`). `IsTitled` says how entry and heading name the section and that
the one leads to the other; `IsBlock` says, down to the last section below, what the block holds:
the content of the body, then a list whose entries are those of the sections below, then their
headings and blocks in the same order. The same is said of a page as it was made and of a page whose
variables have been filled in; the two differ in their `Wording`. `Wording.displays` says that a
section has this look. How the three elements are put into a tree is said last.
-/

namespace Pamphlet.Page

open Pamphlet.Markup

/-! ## Wordings -/

/-- A way in which all texts of a tree are read. An address within the page leads to its name in
either reading. -/
structure Wording where
  text : String → String
  tree : Element → Element
  text_empty : text "" = ""
  text_address : ∀ name, text ("#" ++ name) = "#" ++ text name
  tree_eq : ∀ e, tree e =
    { e with
      attributes := e.attributes.map fun a => (a.1, text a.2)
      text := e.text.map text
      children := e.children.map tree
      tail := e.tail.map text }

namespace Wording

/-- The texts as they stand. -/
def plain : Wording where
  text := id
  tree := id
  text_empty := rfl
  text_address _ := rfl
  tree_eq e := by
    simp only [Option.map_id, List.map_id, id]
    cases e
    simp

/-- The texts with variables filled in. -/
def filled (values : Substitution.Values) : Wording where
  text := Substitution.fill values
  tree := Substitution.fillTree values
  text_empty := Substitution.fill_empty values
  text_address := Substitution.fill_address values
  tree_eq e := by
    rw [Substitution.fillTree_eq]
    rfl

variable (w : Wording)

theorem tree_tail (e : Element) : (w.tree e).tail = e.tail.map w.text := by
  rw [w.tree_eq]

/-- An element without attributes and texts reads the same. -/
theorem tree_of_blank {e : Element} (hattributes : e.attributes = []) (htext : e.text = none)
    (htail : e.tail = none) : w.tree e = { e with children := e.children.map w.tree } := by
  rw [w.tree_eq, hattributes, htext, htail]
  rfl

theorem tree_rule : w.tree Part.rule = Part.rule :=
  w.tree_of_blank rfl rfl rfl

end Wording

/-! ## Contents of new elements -/

/-- What holds the content of a source and nothing else. -/
theorem appendContent_eq {e : Element} (source : Element) (htext : e.text = none)
    (hchildren : e.children = []) :
    e.appendContent source =
      { e with text := source.text.filter (· ≠ ""), children := source.children } := by
  unfold Element.appendContent Element.appendText? Element.appendText
  cases hs : source.text with
  | none => simp [hchildren, htext]
  | some s =>
    by_cases hempty : s = ""
    · simp [hempty, hchildren, htext, Option.filter]
    · simp [hempty, hchildren, htext, Option.filter]

theorem runOf_nonempty (w : Wording) (text : Option String) :
    Element.runOf ((text.filter (· ≠ "")).map w.text) = Element.runOf (text.map w.text) := by
  cases text with
  | none => rfl
  | some s =>
    by_cases hempty : s = ""
    · rw [hempty]
      simp [Option.filter, Element.runOf, w.text_empty]
    · simp [Option.filter, hempty]

/-- Appending the content of an element to an empty one gives it that content. -/
theorem content_appendContent (w : Wording) {e : Element} (source : Element) (htext : e.text = none)
    (hchildren : e.children = []) :
    (w.tree (e.appendContent source)).content = (w.tree source).content := by
  unfold Element.content
  rw [appendContent_eq source htext hchildren, w.tree_eq, w.tree_eq source, runOf_nonempty]

theorem alone_eq_self {e : Element} (h : e.tail = none) : e.alone = e := by
  cases e
  cases h
  rfl

/-- Elements without a text after them hold no runs between them. -/
theorem items_of_tails {es : List Element} (htails : ∀ e ∈ es, e.tail = none) :
    (es.flatMap fun e => Item.node e.alone :: Element.runOf e.tail) = es.map .node := by
  rw [List.map_eq_flatMap]
  refine List.flatMap_congr fun e he => ?_
  rw [alone_eq_self (htails e he), htails e he]
  rfl

/-! ## The look of a section -/

/-- The elements that show a section. -/
structure Shown where
  entry : Element
  heading : Element
  block : Element

/-- The headings and blocks of sections, with a line before each of them if lines are drawn. -/
def sequence (ruled : Bool) (shown : List Shown) : List Element :=
  shown.flatMap fun t => (if ruled then [Part.rule] else []) ++ [t.heading, t.block]

theorem sequence_cons (ruled : Bool) (t : Shown) (rest : List Shown) :
    sequence ruled (t :: rest) =
      (if ruled then [Part.rule] else []) ++ [t.heading, t.block] ++ sequence ruled rest := rfl

/-- A link or an anchor: its one attribute, and what it holds. -/
structure IsLink (key value : String) (items : List Item) (e : Element) : Prop where
  label : e.label = .tag "a"
  attributes : e.attributes = [(key, value)]
  content : e.content = items
  tail : e.tail = none

/-- The one link of an entry leads to the name of the one anchor of a heading. -/
def LeadsTo (entry heading : Element) : Prop :=
  ∃ name, (entry.childrenNamed "a").map (·.attributes.get? "href") = [some ("#" ++ name)] ∧
    (heading.childrenNamed "a").map (·.attributes.get? "name") = [some name]

/-- What the entry of a section says. -/
def Wording.entryContent (w : Wording) (s : Section) : List Item :=
  match s.label with
  | none => Element.runOf (some (w.text s.title))
  | some label => (w.tree label).content

/-- The entry is an item with one link, the heading holds one anchor, and the link leads to it. -/
structure IsTitled (w : Wording) (level : Int) (s : Section) (t : Shown) : Prop where
  entry : ∃ link, t.entry = { Part.item with children := [link] } ∧
    IsLink "href" ("#" ++ w.text (anchorName s.title)) (w.entryContent s) link
  heading : ∃ anchor,
    t.heading = { Element.named ("h" ++ toString level) with children := [anchor] } ∧
      IsLink "name" (w.text (anchorName s.title)) (Element.runOf (some (w.text s.title))) anchor
  leads : LeadsTo t.entry t.heading

/-- A block with given content. -/
structure Quotes (items : List Item) (e : Element) : Prop where
  label : e.label = .tag "blockquote"
  attributes : e.attributes = []
  content : e.content = items
  tail : e.tail = none

/-- An element is the block of a section: it holds the content of the body alone, or followed by a
contents list and by the headings and blocks of the sections below, in one order. -/
inductive IsBlock (w : Wording) : Int → Section → Element → Prop
  | alone {level : Int} {s : Section} {e : Element}
      (hcontents : s.hasContents = false) (hsections : s.subsections = [])
      (quotes : Quotes (w.tree s.body).content e) :
      IsBlock w level s e
  | listed {level : Int} {s : Section} {e list : Element} {shown : List Shown}
      (hlist : s.hasContents = true ∨ s.subsections ≠ [])
      (quotes : Quotes
        ((w.tree s.body).content ++ .node list :: (sequence s.ruled shown).map .node) e)
      (entries : list = { Part.list with children := shown.map (·.entry) })
      (length : shown.length = s.subsections.length)
      (titled : ∀ (i : Nat) (t : Section) (u : Shown), s.subsections[i]? = some t →
        shown[i]? = some u → IsTitled w (level + 1) t u)
      (blocks : ∀ (i : Nat) (t : Section) (u : Shown), s.subsections[i]? = some t →
        shown[i]? = some u → IsBlock w (level + 1) t u.block) :
      IsBlock w level s e

/-! ## Entries and headings -/

/-- An item leads to a heading if the link of the one holds the name of the anchor of the other. -/
theorem leadsTo {item heading link anchor : Element} {name : String} {items items' : List Item}
    (hitem : item.children = [link]) (hheading : heading.children = [anchor])
    (hlink : IsLink "href" ("#" ++ name) items link) (hanchor : IsLink "name" name items' anchor) :
    LeadsTo item heading := by
  refine ⟨name, ?_, ?_⟩
  · unfold Element.childrenNamed Element.hasTag
    simp [hitem, hlink.label, hlink.attributes, Attributes.get?]
  · unfold Element.childrenNamed Element.hasTag
    simp [hheading, hanchor.label, hanchor.attributes, Attributes.get?]

namespace Wording

variable (w : Wording) (level : Int) (s : Section)

/-- The elements of a section as they are read. -/
def shown : Shown where
  entry := w.tree s.entry
  heading := w.tree (s.heading level)
  block := w.tree (s.block level)

theorem tree_append (tag : String) (child : Element) :
    w.tree ((Element.named tag).append child) =
      { Element.named tag with children := [w.tree child] } :=
  w.tree_of_blank rfl rfl rfl

theorem isLink_ofText (key value title : String) :
    IsLink key (w.text value) (Element.runOf (some (w.text title)))
      (w.tree ((Element.ofText "a" title).withAttribute key value)) := by
  rw [w.tree_eq]
  exact ⟨rfl, rfl, List.append_nil _, rfl⟩

theorem isLink_appendContent (key value : String) (source : Element) :
    IsLink key (w.text value) (w.tree source).content
      (w.tree (((Element.named "a").withAttribute key value).appendContent source)) where
  label := by
    rw [w.tree_eq, appendContent_eq source rfl rfl]
    rfl
  attributes := by
    rw [w.tree_eq, appendContent_eq source rfl rfl]
    rfl
  content := content_appendContent w source rfl rfl
  tail := by
    rw [w.tree_eq, appendContent_eq source rfl rfl]
    rfl

/-- **A section is titled** by its entry and its heading, in any wording. -/
theorem isTitled : IsTitled w level s (w.shown level s) := by
  obtain ⟨link, hentry, hlink⟩ : ∃ link, w.tree s.entry = { Part.item with children := [link] } ∧
      IsLink "href" ("#" ++ w.text (anchorName s.title)) (w.entryContent s) link := by
    refine ⟨_, w.tree_append "li" _, ?_⟩
    unfold entryContent
    rw [← w.text_address]
    cases s.label with
    | none => exact w.isLink_ofText "href" ("#" ++ anchorName s.title) s.title
    | some label => exact w.isLink_appendContent "href" ("#" ++ anchorName s.title) label
  have hheading := w.tree_append ("h" ++ toString level)
    ((Element.ofText "a" s.title).withAttribute "name" (anchorName s.title))
  have hanchor := w.isLink_ofText "name" (anchorName s.title) s.title
  exact ⟨⟨link, hentry, hlink⟩, ⟨_, hheading, hanchor⟩,
    leadsTo (congrArg Element.children hentry) (congrArg Element.children hheading) hlink hanchor⟩

end Wording

/-! ## Blocks -/

namespace Section

theorem sizeOf_subsection {s t : Section} (h : t ∈ s.subsections) : sizeOf t < sizeOf s := by
  have hsubsections := List.sizeOf_lt_of_mem h
  cases s with
  | mk title body label subsections hasContents ruled =>
    simp only [mk.sizeOf_spec] at hsubsections ⊢
    omega

/-- What holds of every section whose subsections have it holds of every section. -/
theorem belowInduction {motive : Section → Prop}
    (node : ∀ s : Section, (∀ t ∈ s.subsections, motive t) → motive s) (s : Section) : motive s :=
  node s fun t h =>
    have := sizeOf_subsection h
    belowInduction node t
termination_by sizeOf s

theorem blocksOf_eq (ruled : Bool) (level : Int) (ss : List Section) :
    blocksOf ruled level ss = sequence ruled (ss.map (Wording.plain.shown level)) := by
  induction ss with
  | nil => rfl
  | cons s rest ih =>
    rw [blocksOf, ih, List.map_cons, sequence_cons, List.append_assoc]
    rfl

/-- What follows the content of the body in the block of a section. -/
def lower (level : Int) (s : Section) : List Element :=
  if s.hasContents || !s.subsections.isEmpty then
    { Part.list with children := entriesOf s.subsections } ::
      blocksOf s.ruled (level + 1) s.subsections
  else []

/-- A block is the body of its section, then what stands below. -/
theorem block_eq (level : Int) (s : Section) :
    s.block level = { Element.named "blockquote" with
      text := s.body.text.filter (· ≠ ""), children := s.body.children ++ s.lower level } := by
  cases s with
  | mk title body label subsections hasContents ruled =>
    unfold block lower
    rw [appendContent_eq body rfl rfl]
    split
    · rfl
    · rw [List.append_nil]

end Section

namespace Wording

variable (w : Wording)

theorem sequence_tree (ruled : Bool) (level : Int) (ss : List Section) :
    (sequence ruled (ss.map (plain.shown level))).map w.tree =
      sequence ruled (ss.map (w.shown level)) := by
  unfold sequence
  rw [List.map_flatMap, List.flatMap_map, List.flatMap_map]
  refine List.flatMap_congr fun s _ => ?_
  cases ruled with
  | true => simp [shown, plain, tree_rule]
  | false => simp [shown, plain]

theorem tails_sequence (ruled : Bool) (level : Int) (ss : List Section) :
    ∀ e ∈ sequence ruled (ss.map (w.shown level)), e.tail = none := by
  intro e he
  obtain ⟨t, ht, he⟩ := List.mem_flatMap.1 he
  obtain ⟨s, -, rfl⟩ := List.mem_map.1 ht
  have hblock : (s.block level).tail = none := by
    rw [Section.block_eq]
    rfl
  rcases List.mem_append.1 he with hrule | hrest
  · cases ruled with
    | true =>
      rw [if_pos rfl, List.mem_singleton] at hrule
      rw [hrule]
      rfl
    | false => cases hrule
  · rw [List.mem_pair] at hrest
    rcases hrest with rfl | rfl
    · exact w.tree_tail (s.heading level)
    · exact (w.tree_tail (s.block level)).trans (by rw [hblock]; rfl)

/-- What follows the content of the body, as it is read. -/
theorem lower_tree (level : Int) {s : Section}
    (hlist : s.hasContents = true ∨ s.subsections ≠ []) :
    (s.lower level).map w.tree =
      { Part.list with children := (s.subsections.map (w.shown (level + 1))).map (·.entry) } ::
        sequence s.ruled (s.subsections.map (w.shown (level + 1))) := by
  have hshown : (s.hasContents || !s.subsections.isEmpty) = true := by
    simpa using hlist
  have hentries : (Section.entriesOf s.subsections).map w.tree =
      (s.subsections.map (w.shown (level + 1))).map (·.entry) := by
    rw [Section.entriesOf, List.map_map, List.map_map]
    rfl
  rw [Section.lower, if_pos hshown, List.map_cons, Section.blocksOf_eq, sequence_tree,
    ← hentries]
  congr 1
  exact w.tree_of_blank rfl rfl rfl

/-- A wording changes the texts of a block and nothing else. -/
theorem tree_block (level : Int) (s : Section) :
    w.tree (s.block level) = { Element.named "blockquote" with
      text := (s.body.text.filter (· ≠ "")).map w.text
      children := s.body.children.map w.tree ++ (s.lower level).map w.tree } := by
  rw [Section.block_eq, w.tree_eq, List.map_append]
  rfl

/-- A block quotes the content of its body and what stands below, one after the other. -/
theorem quotes_block {level : Int} {s : Section} {lower : List Element}
    (hlower : (s.lower level).map w.tree = lower) (htails : ∀ e ∈ lower, e.tail = none) :
    Quotes ((w.tree s.body).content ++ lower.map .node) (w.tree (s.block level)) := by
  rw [tree_block, w.tree_eq s.body]
  refine ⟨rfl, rfl, ?_, rfl⟩
  unfold Element.content
  rw [runOf_nonempty, hlower, List.flatMap_append, items_of_tails htails, List.append_assoc]

/-- **A block shows its section** and, by induction on the section, all sections below it. -/
theorem isBlock (level : Int) (s : Section) : IsBlock w level s (w.tree (s.block level)) := by
  induction s using Section.belowInduction generalizing level with
  | node s ih =>
    by_cases hlist : s.hasContents = true ∨ s.subsections ≠ []
    · have hlower := w.lower_tree level hlist
      have htails := w.tails_sequence s.ruled (level + 1) s.subsections
      have hshown : ∀ (i : Nat) (t : Section) (u : Shown), s.subsections[i]? = some t →
          (s.subsections.map (w.shown (level + 1)))[i]? = some u → u = w.shown (level + 1) t := by
        intro i t u ht hu
        rw [List.getElem?_map, ht] at hu
        exact (Option.some.inj hu).symm
      refine .listed hlist (w.quotes_block hlower ?_) rfl (List.length_map _) ?_ ?_
      · exact List.forall_mem_cons.2 ⟨rfl, htails⟩
      · intro i t u ht hu
        rw [hshown i t u ht hu]
        exact w.isTitled (level + 1) t
      · intro i t u ht hu
        rw [hshown i t u ht hu]
        exact ih t (List.mem_of_getElem? ht) (level + 1)
    · rw [not_or, not_not, Bool.not_eq_true] at hlist
      have hlower : (s.lower level).map w.tree = [] := by
        rw [Section.lower, hlist.1, hlist.2]
        rfl
      have hquotes := w.quotes_block hlower (by simp)
      rw [List.map_nil, List.append_nil] at hquotes
      exact .alone hlist.1 hlist.2 hquotes

end Wording

/-- Three elements at three places of a draft show a section. -/
def Displays (w : Wording) (level : Int) (s : Section) (d : Draft)
    (entry heading block : Place) : Prop :=
  ∃ t : Shown, d.element? entry = some t.entry ∧ d.element? heading = some t.heading ∧
    d.element? block = some t.block ∧ IsTitled w level s t ∧ IsBlock w level s t.block

/-- A draft displays a section if its entry, its heading and its block stand at their places. -/
theorem Wording.displays {w : Wording} {level : Int} {s : Section} {d : Draft}
    {entry heading block : Place} (hentry : d.element? entry = some (w.tree s.entry))
    (hheading : d.element? heading = some (w.tree (s.heading level)))
    (hblock : d.element? block = some (w.tree (s.block level))) :
    Displays w level s d entry heading block :=
  ⟨w.shown level s, hentry, hheading, hblock, w.isTitled level s, w.isBlock level s⟩

end Pamphlet.Page

/-! ## Putting a section into a tree -/

namespace Pamphlet.Markup.Draft

open Pamphlet.Page

section

variable {d : Draft} {parent contents : Place} {p c : Element}

/-- What a section is put beside stays where it is and what it is; one element gets two children
more, and another one gets one. -/
theorem element?_addSection {q : Place} {e : Element} (heading entry block : Element)
    (h : d.element? q = some e) :
    ∃ e', (d.addSection parent contents heading entry block).element? q = some e' ∧
      e.Extends ((if q = parent then 2 else 0) + if q = contents then 1 else 0) e' := by
  obtain ⟨e₁, h₁, hext₁⟩ := element?_append parent heading h
  obtain ⟨e₂, h₂, hext₂⟩ := element?_append contents entry h₁
  obtain ⟨e₃, h₃, hext₃⟩ := element?_append parent block h₂
  refine ⟨e₃, h₃, ?_⟩
  have hext := (hext₁.trans hext₂).trans hext₃
  have hcount : ((if q = parent then 1 else 0) + (if q = contents then 1 else 0) +
      if q = parent then 1 else 0) =
        ((if q = parent then 2 else 0) + if q = contents then 1 else 0 : Nat) := by
    split <;> omega
  rwa [hcount] at hext

/-- The three new elements are the last children of theirs. -/
theorem element?_addSection_new (hne : contents ≠ parent) (hp : d.element? parent = some p)
    (hc : d.element? contents = some c) (heading entry block : Element) :
    (d.addSection parent contents heading entry block).element?
        (contents.child c.children.length) = some entry ∧
      (d.addSection parent contents heading entry block).element?
        (parent.child p.children.length) = some heading ∧
      (d.addSection parent contents heading entry block).element?
        (parent.child (p.children.length + 1)) = some block := by
  obtain ⟨c₁, hc₁, hcext⟩ := element?_append parent heading hc
  obtain ⟨p₁, hp₁, hpext₁⟩ := element?_append parent heading hp
  obtain ⟨p₂, hp₂, hpext₂⟩ := element?_append contents entry hp₁
  -- neither adding the entry nor adding the block moves or changes an element that is new
  have hclength : c.children.length = c₁.children.length := by
    rw [hcext.length, if_neg hne]
    rfl
  have hplength : p.children.length + 1 = p₂.children.length := by
    rw [hpext₂.length, if_neg hne.symm, hpext₁.length, if_pos rfl]
  have hentry := element?_append_child entry hc₁
  have hheading := element?_append_of_not_above entry (not_above_of_element? hp hc)
    (element?_append_child heading hp)
  refine ⟨?_, ?_, ?_⟩
  · rw [hclength]
    refine element?_append_of_not_above block ?_ hentry
    exact not_above_of_element? hc₁ hp₁
  · exact element?_append_of_not_above block (not_above_of_element? hp hp) hheading
  · rw [hplength]
    exact element?_append_child block hp₂

end

end Pamphlet.Markup.Draft
