import Pamphlet.Proofs.Page.Agreement

/-!
# Sections on a page

`Page.under?` looks up what stands under the main heading of a title. On a page made by attaching
sections this is the block of the first section with the title's anchor (`under?_attach_all`). The
headings inside the block of a section are those of the sections below it (`headings_blocksOf`).
-/

namespace Pamphlet.Page

open Pamphlet.Markup

/-! ## Main sections -/

/-- Whether an element is the main heading of a title. -/
def isMainHeading (title : String) (e : Element) : Bool :=
  e.hasTag ("h" ++ toString mainLevel) &&
    (e.childrenNamed "a").any (·.attributes.get? "name" == some (anchorName title))

/-- What follows the main heading of a title. -/
def blockUnder (title : String) : List Element → Option Element
  | [] => none
  | e :: rest => if isMainHeading title e then rest.head? else blockUnder title rest

/-- What stands under the main heading of a title. -/
def under? (p : Page) (title : String) : Option Element :=
  blockUnder title p.blocks

theorem isMainHeading_heading (title : String) (s : Section) :
    isMainHeading title (s.heading mainLevel) = (anchorName s.title == anchorName title) := by
  obtain ⟨link, hh, hchildren, ha, hname⟩ := heading_link mainLevel s
  have htag : (s.heading mainLevel).hasTag ("h" ++ toString mainLevel) = true := by
    unfold Element.hasTag
    rw [hh]
    decide
  have hlinks : (s.heading mainLevel).childrenNamed "a" = [link] := by
    unfold Element.childrenNamed Element.hasTag
    rw [hchildren]
    simp [ha]
  unfold isMainHeading
  rw [htag, hlinks]
  simp [hname]

theorem isMainHeading_block (title : String) (level : Int) (s : Section) :
    isMainHeading title (s.block level) = false := by
  have htag : (s.block level).hasTag ("h" ++ toString mainLevel) = false := by
    unfold Element.hasTag
    rw [block_label]
    decide
  unfold isMainHeading
  rw [htag]
  rfl

/-- The headings and blocks of all chapters stand in a row. -/
theorem blocks_attach_all (p : Page) (ss : List Section) :
    (ss.foldl Page.attach p).blocks =
      p.blocks ++ ss.flatMap fun s => [s.heading mainLevel, s.block mainLevel] := by
  induction ss generalizing p with
  | nil => simp
  | cons s rest ih =>
    rw [List.foldl_cons, ih, List.flatMap_cons, ← List.append_assoc]
    rfl

theorem contents_attach_all (p : Page) (ss : List Section) :
    (ss.foldl Page.attach p).contents =
      { p.contents with children := p.contents.children ++ ss.map Section.entry } := by
  induction ss generalizing p with
  | nil =>
    rw [List.foldl_nil, List.map_nil, List.append_nil]
    cases p.contents
    rfl
  | cons s rest ih =>
    rw [List.foldl_cons, ih, List.map_cons, List.append_cons]
    rfl

theorem title_attach_all (p : Page) (ss : List Section) :
    (ss.foldl Page.attach p).title = p.title := by
  induction ss generalizing p with
  | nil => rfl
  | cons s rest ih => exact ih (p.attach s)

theorem opening_attach_all (p : Page) (ss : List Section) :
    (ss.foldl Page.attach p).opening = p.opening := by
  induction ss generalizing p with
  | nil => rfl
  | cons s rest ih => exact ih (p.attach s)

/-- Under a heading stands the block of the first section with its anchor. -/
theorem blockUnder_sections (title : String) (ss : List Section) :
    blockUnder title (ss.flatMap fun s => [s.heading mainLevel, s.block mainLevel]) =
      (ss.find? fun s => anchorName s.title == anchorName title).map (Section.block mainLevel) := by
  induction ss with
  | nil => rfl
  | cons s rest ih =>
    rw [List.flatMap_cons, List.cons_append, List.cons_append, List.nil_append, List.find?_cons]
    unfold blockUnder
    rw [isMainHeading_heading]
    cases anchorName s.title == anchorName title with
    | true => rfl
    | false =>
      unfold blockUnder
      rw [isMainHeading_block]
      exact ih

/-- Under the heading of a title stands the block of the section that has it. -/
theorem under?_attach_all {p : Page} (hnew : p.blocks = []) (ss : List Section) (title : String) :
    (ss.foldl Page.attach p).under? title =
      (ss.find? fun s => anchorName s.title == anchorName title).map (Section.block mainLevel) := by
  unfold under?
  rw [blocks_attach_all, hnew, List.nil_append, blockUnder_sections]

/-! ## Sections below -/

/-- Of one tag a list of sections holds the headings and blocks that have it; a line has another. -/
theorem filter_blocksOf {tag : String} (hrule : tag ≠ "hr") (ruled : Bool) (level : Int)
    (ss : List Section) : (Section.blocksOf ruled level ss).filter (·.hasTag tag) =
      ss.flatMap fun s => [s.heading level, s.block level].filter (·.hasTag tag) := by
  have hlines : (if ruled then [Part.rule] else []).filter (·.hasTag tag) = [] := by
    cases ruled with
    | true => simpa [Part.rule, Element.named, Element.hasTag] using Ne.symm hrule
    | false => rfl
  induction ss with
  | nil => rfl
  | cons s rest ih =>
    have hfront : s.heading level :: s.block level :: Section.blocksOf ruled level rest =
        [s.heading level, s.block level] ++ Section.blocksOf ruled level rest := rfl
    rw [Section.blocksOf, hfront, List.filter_append, List.filter_append, hlines, ih,
      List.flatMap_cons, List.nil_append]

theorem hasTag_heading (level : Int) (s : Section) (tag : String) :
    (s.heading level).hasTag tag = decide (tag = "h" ++ toString level) := by
  simp [Element.hasTag, Section.heading, Section.headingOf, Element.append, Element.named, eq_comm]

theorem hasTag_block (level : Int) (s : Section) (tag : String) :
    (s.block level).hasTag tag = decide (tag = "blockquote") := by
  simp [Element.hasTag, block_label, eq_comm]

/-- The headings of a list of sections are their only elements of that tag. -/
theorem headings_blocksOf {level : Int} {tag : String} (htag : tag = "h" ++ toString level)
    (hrule : tag ≠ "hr") (hblock : tag ≠ "blockquote") (ruled : Bool) (ss : List Section) :
    (Section.blocksOf ruled level ss).filter (·.hasTag tag) = ss.map (Section.heading level) := by
  have hhead : ∀ s : Section, [s.heading level, s.block level].filter (·.hasTag tag) =
      [s.heading level] := by
    intro s
    rw [List.filter_cons, hasTag_heading, List.filter_cons, hasTag_block, decide_eq_true htag,
      decide_eq_false hblock]
    rfl
  simp only [filter_blocksOf hrule, hhead, List.map_eq_flatMap]

/-- A tag that does not begin as those of headings do is none of theirs. -/
theorem not_hasTag_heading {tag : String} (h : tag.toList.head? ≠ some 'h') (level : Int)
    (s : Section) : (s.heading level).hasTag tag = false := by
  rw [hasTag_heading]
  refine decide_eq_false fun he => h ?_
  rw [he, String.toList_append]
  rfl

/-- The blocks of a list of sections are its only elements of that tag. -/
theorem blocks_blocksOf (ruled : Bool) (level : Int) (ss : List Section) :
    (Section.blocksOf ruled level ss).filter (·.hasTag "blockquote") =
    ss.map (Section.block level) := by
  have hblock : ∀ s : Section,
      [s.heading level, s.block level].filter (·.hasTag "blockquote") = [s.block level] := by
    intro s
    rw [List.filter_cons, not_hasTag_heading (by decide), List.filter_cons, hasTag_block]
    rfl
  have hrule : "blockquote" ≠ "hr" := by decide
  simp only [filter_blocksOf hrule, hblock, List.map_eq_flatMap]

/-- Besides its headings, blocks and lines a list of sections has no elements. -/
theorem filter_blocksOf_eq_nil {tag : String} (hheading : tag.toList.head? ≠ some 'h')
    (hblock : tag ≠ "blockquote") (ruled : Bool) (level : Int) (ss : List Section) :
    (Section.blocksOf ruled level ss).filter (·.hasTag tag) = [] := by
  have hrule : tag ≠ "hr" := by
    rintro rfl
    exact hheading rfl
  have hnone : ∀ s : Section, [s.heading level, s.block level].filter (·.hasTag tag) = [] := by
    intro s
    rw [List.filter_cons, not_hasTag_heading hheading, List.filter_cons, hasTag_block,
      decide_eq_false hblock]
    rfl
  simp [filter_blocksOf hrule, hnone]

end Pamphlet.Page
