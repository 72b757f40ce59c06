import Pamphlet.Proofs.Page.Rendering

/-!
# Rendering in step

`Draft.render` makes the whole block of a section before it puts it into a tree. The same draft
comes about if the block is put there with nothing below, and the sections below are then rendered
into it and into its list, one after the other (`Draft.render_eq_renderBelow`); so a section is
rendered as the sections below it are. The chapters of a page are rendered into its body
(`Draft.render_root`).

Rendering puts three elements into a tree, which show the section, and changes nothing else
(`Draft.render_displays`).
-/

namespace Pamphlet.Page.Section

open Pamphlet.Markup

/-- The section with other sections below; there is a list for them. -/
def holding (s : Section) (below : List Section) : Section :=
  { s with subsections := below, hasContents := true }

/-- The section with nothing below; the list is there if it will be. -/
def emptied (s : Section) : Section :=
  { s with subsections := [], hasContents := s.hasContents || !s.subsections.isEmpty }

/-- The blocks of two rows of sections stand one row after the other. -/
theorem blocksOf_append (ruled : Bool) (level : Int) (ss ts : List Section) :
    blocksOf ruled level (ss ++ ts) = blocksOf ruled level ss ++ blocksOf ruled level ts := by
  simp only [blocksOf_eq, sequence, List.map_append, List.flatMap_append]

/-- The block of a section that holds other sections is its body, then their list and their
blocks. -/
theorem block_holding (level : Int) (s : Section) (below : List Section) :
    (s.holding below).block level = { Element.named "blockquote" with
      text := s.body.text.filter (· ≠ "")
      children := s.body.children ++ { Part.list with children := entriesOf below } ::
        blocksOf s.ruled (level + 1) below } :=
  block_eq level (s.holding below)

theorem block_holding_subsections (level : Int) {s : Section}
    (hlist : (s.hasContents || !s.subsections.isEmpty) = true) :
    (s.holding s.subsections).block level = s.block level := by
  rw [block_holding, block_eq, lower, if_pos hlist]

end Pamphlet.Page.Section

namespace Pamphlet.Markup.Draft

open Pamphlet.Page

/-- Renders sections one after the other into a block and its list. -/
def renderBelow (ruled : Bool) (level : Int) (block list : Place) :
    List Page.Section → Draft → Draft
  | [], d => d
  | s :: rest, d =>
    renderBelow ruled level block list rest
      ((if ruled then d.change block (·.append Part.rule) else d).render block list level s)

/-- What rendering a section into a block does to it; its list stands behind `n` children. -/
def withBelow (ruled : Bool) (level : Int) (n : Nat) (s : Page.Section) (block : Element) :
    Element :=
  let block := (if ruled then block.append Part.rule else block).append (s.heading level)
  (block.changeChild (·.append s.entry) n).append (s.block level)

/-- Rendering a section into a block and its list changes the block alone. -/
theorem render_into (d : Draft) (block : Place) (n : Nat) (ruled : Bool) (level : Int)
    (s : Page.Section) :
    (if ruled then d.change block (·.append Part.rule) else d).render block (block.child n)
        level s =
      d.change block (withBelow ruled level n s) := by
  cases ruled with
  | false =>
    unfold render addSection
    rw [if_neg Bool.false_ne_true, change_child, change_change, change_change]
    rfl
  | true =>
    unfold render addSection
    rw [if_pos rfl, change_child, change_change, change_change, change_change]
    rfl

/-- With one more section below, the block of a section is what rendering that one makes of it. -/
theorem withBelow_holding (level : Int) (s t : Page.Section) (below : List Page.Section) :
    withBelow s.ruled (level + 1) s.body.children.length t ((s.holding below).block level) =
      (s.holding (below ++ [t])).block level := by
  rw [Section.block_holding, Section.block_holding, Section.blocksOf_append]
  unfold withBelow
  cases s.ruled with
  | false =>
    simp [Element.append, Element.changeChild, Element.modify_length, Section.entriesOf,
      Section.blocksOf]
  | true =>
    simp [Element.append, Element.changeChild, Element.modify_length, Section.entriesOf,
      Section.blocksOf]

/-- Sections are rendered one after the other under those that have been rendered before. -/
theorem renderBelow_holding {d : Draft} {parent : Place} {e : Element} (level : Int)
    (s : Page.Section) (h : d.element? parent = some e) (below rest : List Page.Section) :
    renderBelow s.ruled (level + 1) (parent.child e.children.length)
        ((parent.child e.children.length).child s.body.children.length) rest
        (d.change parent (·.append ((s.holding below).block level))) =
      d.change parent (·.append ((s.holding (below ++ rest)).block level)) := by
  induction rest generalizing below with
  | nil => rw [List.append_nil, renderBelow]
  | cons t rest ih =>
    rw [renderBelow, render_into, change_append_child _ _ h, withBelow_holding, ih,
      List.append_assoc, List.singleton_append]

/-- **A section is rendered as the sections below it are.** Its heading, its entry and its block
with nothing below are added; then each section below is rendered into the block and its list, one
level down and after a line if lines are drawn. -/
theorem render_eq_renderBelow {d : Draft} {parent contents : Place} {p : Element}
    (hne : contents ≠ parent) (hp : d.element? parent = some p) (level : Int) (s : Page.Section) :
    d.render parent contents level s =
      renderBelow s.ruled (level + 1) (parent.child (p.children.length + 1))
        ((parent.child (p.children.length + 1)).child s.body.children.length) s.subsections
        (d.addSection parent contents (s.heading level) s.entry (s.emptied.block level)) := by
  obtain ⟨p₁, hp₁, hpext₁⟩ := element?_append parent (s.heading level) hp
  obtain ⟨p₂, hp₂, hpext₂⟩ := element?_append contents s.entry hp₁
  have hlength : p.children.length + 1 = p₂.children.length := by
    rw [hpext₂.length, if_neg hne.symm, hpext₁.length, if_pos rfl]
  cases hlist : s.hasContents || !s.subsections.isEmpty with
  | true =>
    have hemptied : s.emptied.block level = (s.holding []).block level := by
      unfold Section.emptied Section.holding
      rw [hlist]
    unfold addSection
    rw [hlength, hemptied, renderBelow_holding level s hp₂, List.nil_append,
      Section.block_holding_subsections level hlist]
    rfl
  | false =>
    rw [Bool.or_eq_false_iff, Bool.not_eq_false', List.isEmpty_iff] at hlist
    have hemptied : s.emptied = s := by
      cases s
      obtain ⟨rfl, rfl⟩ := hlist
      rfl
    rw [hlist.2, renderBelow, hemptied]
    rfl

/-- Attaching a section to a page is rendering it into the page's body and its contents list. -/
theorem render_root (page : Page) (names : List (String × Place)) (s : Page.Section) :
    (⟨[page.root], names⟩ : Draft).render ⟨0, [1]⟩ ⟨0, [1, page.opening.length]⟩ Page.mainLevel s =
      ⟨[(page.attach s).root], names⟩ := by
  simp [render, addSection, change, Page.root, Page.body, Page.attach, Element.changeAt,
    Element.append, Element.modify_length, Page.head]

/-- **A rendered section shows itself, before and after variables are filled in.** The section is
rendered as the sections below it are, and a chapter of a page into the page's body. Rendering adds
an entry at the end of the contents list and a heading and a block at the end of the parent; every
element that was there stays at its place, with what it is and as many children as it had. The three
new elements show the section, and in any page that holds them they still do when its variables have
been filled in: at every depth the entries of a list are those of the sections below, in their
order, and each leads to the name of its heading. -/
theorem render_displays {d : Draft} {parent contents : Place} {p c : Element}
    (hne : contents ≠ parent) (hp : d.element? parent = some p) (hc : d.element? contents = some c)
    (level : Int) (s : Page.Section) :
    d.render parent contents level s =
      renderBelow s.ruled (level + 1) (parent.child (p.children.length + 1))
        ((parent.child (p.children.length + 1)).child s.body.children.length) s.subsections
        (d.addSection parent contents (s.heading level) s.entry (s.emptied.block level)) ∧
    (∀ (page : Page) (names : List (String × Place)),
      (⟨[page.root], names⟩ : Draft).render ⟨0, [1]⟩ ⟨0, [1, page.opening.length]⟩
          Page.mainLevel s =
        ⟨[(page.attach s).root], names⟩) ∧
    (∀ q e, d.element? q = some e →
      ∃ e', (d.render parent contents level s).element? q = some e' ∧
        e.Extends ((if q = parent then 2 else 0) + if q = contents then 1 else 0) e') ∧
    Displays .plain level s (d.render parent contents level s) (contents.child c.children.length)
      (parent.child p.children.length) (parent.child (p.children.length + 1)) ∧
    ∀ (values : Substitution.Values) (page : Place), page.Above parent → page.Above contents →
      Displays (.filled values) level s
        ((d.render parent contents level s).change page (Substitution.fillTree values))
        (contents.child c.children.length) (parent.child p.children.length)
        (parent.child (p.children.length + 1)) := by
  obtain ⟨hentry, hheading, hblock⟩ :=
    element?_addSection_new hne hp hc (s.heading level) s.entry (s.block level)
  refine ⟨render_eq_renderBelow hne hp level s, fun page names => render_root page names s,
    fun q e h => element?_addSection _ _ _ h, Wording.displays hentry hheading hblock, ?_⟩
  intro values page hparent hcontents
  have hfill : ∀ {q : Place} {e : Element}, page.Above q →
      (d.render parent contents level s).element? q = some e →
      ((d.render parent contents level s).change page (Substitution.fillTree values)).element? q =
        some (Substitution.fillTree values e) := by
    intro q e habove he
    rw [element?_change_of_above (Substitution.descendant?_fillTree values) habove, he]
    rfl
  exact Wording.displays (hfill (hcontents.child _) hentry) (hfill (hparent.child _) hheading)
    (hfill (hparent.child _) hblock)

/-- A page with nothing but its opening, and a section with a section below. -/
def samplePage : Page :=
  .new "Notes" "Introduction"

def sampleSection : Page.Section where
  title := "Issues of \x7b\x7b release \x7d\x7d"
  ruled := true
  subsections := [{ title := "Note for A-1", label := some (.ofText "p" "Note for A-1: b") }]

/-- A section below which there is another one, drawn and then filled in. -/
theorem render_displays_sample :
    Displays .plain 2 sampleSection
        ((⟨[samplePage.root], []⟩ : Draft).render ⟨0, [1]⟩ ⟨0, [1, 2]⟩ 2 sampleSection)
        ⟨0, [1, 2, 0]⟩ ⟨0, [1, 3]⟩ ⟨0, [1, 4]⟩ ∧
      Displays (.filled [("release", "10.3")]) 2 sampleSection
        (((⟨[samplePage.root], []⟩ : Draft).render ⟨0, [1]⟩ ⟨0, [1, 2]⟩ 2 sampleSection).change
          ⟨0, []⟩ (Substitution.fillTree [("release", "10.3")]))
        ⟨0, [1, 2, 0]⟩ ⟨0, [1, 3]⟩ ⟨0, [1, 4]⟩ := by
  have hne : (⟨0, [1, 2]⟩ : Place) ≠ ⟨0, [1]⟩ := by decide
  obtain ⟨-, -, -, hplain, hfilled⟩ :=
    render_displays (d := ⟨[samplePage.root], []⟩) hne rfl rfl 2 sampleSection
  exact ⟨hplain, hfilled _ ⟨0, []⟩ ⟨rfl, List.nil_prefix⟩ ⟨rfl, List.nil_prefix⟩⟩

end Pamphlet.Markup.Draft
