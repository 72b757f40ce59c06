import Pamphlet.Proofs.Markup.Around
import Pamphlet.Proofs.Page.Blocks
import Pamphlet.Proofs.Page.Replacement
import Pamphlet.Proofs.Release.Retold

/-!
# One text on a page

A page that shows a text in one place of one of its sections is written, when its variables have
been filled in, as a fixed text around the filled and escaped text (`text_attach_all`). The title of
an issue stands in one cell of the table of bug fixes (`showsFilled_bugFixes`), and a text on the
build environment in one item of its list (`showsFilled_environment`).
-/

namespace Pamphlet.Page

open Pamphlet.Markup Pamphlet.Release

namespace Substitution

/-! ## Trees that are filled in -/

/-- The element around a place when variables have been filled in. -/
def fillAround (values : Values) (f : Around) : Around where
  tag := f.tag
  attributes := f.attributes.map fun a => (a.1, fill values a.2)
  text := f.text.map (fill values)
  before := f.before.map (fillTree values)
  after := f.after.map (fillTree values)
  tail := f.tail.map (fill values)

/-- Filling in goes through what stands around an element and through the element. -/
theorem fillTree_put (values : Values) (f : Around) (e : Element) :
    fillTree values (f.put e) = (fillAround values f).put (fillTree values e) := by
  rw [fillTree_eq, Around.put, List.map_append, List.map_cons]
  rfl

/-- Elements that show the filled text, when their variables have been filled in. -/
def ShowsFilled (values : Values) (element : String → Element) : Prop :=
  ∃ filled, ShowsText filled ∧ ∀ s, fillTree values (element s) = filled (fill values s)

section

variable {values : Values}

theorem showsFilled_text {tag : String} (hname : splitFullName tag = none)
    (hraw : Element.rawTags.contains (Text.lower tag) = false) (attributes : Attributes)
    (children : List Element) (tail : Option String) :
    ShowsFilled values fun s =>
    { label := .tag tag, attributes, text := some s, children, tail } := by
  refine ⟨_, showsText_text hname hraw (attributes.map fun a => (a.1, fill values a.2))
    (children.map (fillTree values)) (tail.map (fill values)), fun s => ?_⟩
  rw [fillTree_eq]
  rfl

theorem showsFilled_tail (e : Element) {front : String} (hfront : '{' ∉ front.toList) :
    ShowsFilled values fun s => { e with tail := some (front ++ s) } := by
  refine ⟨_, showsText_tail (fillTree values e) front, fun s => ?_⟩
  rw [fillTree_eq, fillTree_eq]
  simp only [fillHere, Option.map_some, fill_append s hfront]

/-- What stands around an element does not change how it shows a text. -/
theorem ShowsFilled.put {element : String → Element} (h : ShowsFilled values element) (f : Around) :
    ShowsFilled values fun s => f.put (element s) := by
  obtain ⟨filled, hfilled, heq⟩ := h
  refine ⟨_, hfilled.put (fillAround values f), fun s => ?_⟩
  rw [fillTree_put, heq]

theorem ShowsFilled.of_eq {element element' : String → Element} (h : ShowsFilled values element')
    (heq : ∀ s, element s = element' s) : ShowsFilled values element :=
  (funext heq : element = element') ▸ h

/-- The document of an element that shows a text differs only in that text, which is filled in and
escaped. -/
theorem ShowsFilled.documented {element : String → Element} (h : ShowsFilled values element) :
    ∃ first last, ∀ s, document (fillTree values (element s)) =
    first ++ escapeText (fill values s) ++ last := by
  obtain ⟨filled, hfilled, heq⟩ := h
  obtain ⟨first, last, hwritten⟩ := hfilled.printPage
  refine ⟨"<!DOCTYPE html>\n" ++ first, last ++ "\n", fun s => ?_⟩
  unfold document
  rw [heq, hwritten]
  simp only [String.append_assoc]

end

end Substitution

open Substitution (ShowsFilled)

/-! ## Sections of a page -/

/-- The body of a page around the block of one of its sections. -/
def bodyAround (p : Page) (before : List Section) (s : Section) (after : List Section) :
    Around where
  tag := "body"
  before := p.opening ++ { p.contents with
      children := p.contents.children ++ (before ++ s :: after).map Section.entry } ::
    (p.blocks ++ before.flatMap fun s => [s.heading mainLevel, s.block mainLevel]) ++
      [s.heading mainLevel]
  after := after.flatMap fun s => [s.heading mainLevel, s.block mainLevel]

/-- A page, seen from the block of one of its sections. -/
theorem root_attach_all (p : Page) (before : List Section) (s : Section) (after : List Section) :
    ((before ++ s :: after).foldl Page.attach p).root =
      Around.put { tag := "html", before := [p.head] }
        ((bodyAround p before s after).put (s.block mainLevel)) := by
  unfold root head body
  rw [blocks_attach_all, contents_attach_all, title_attach_all, opening_attach_all]
  simp only [List.flatMap_append, List.flatMap_cons, bodyAround, Around.put, List.append_assoc,
    List.cons_append, List.nil_append]
  rfl

/-- A page with a section that shows a text: all that is written is fixed, but for the text in one
place, filled in and escaped. -/
theorem text_attach_all {values : Substitution.Values} {s : String → Section} (p : Page)
    (before after : List Section) (title : String) (htitle : ∀ text, (s text).title = title)
    (hlabel : ∀ text, (s text).label = none)
    (hblock : ShowsFilled values fun text => (s text).block mainLevel) :
    ∃ first last, ∀ text, (((before ++ s text :: after).foldl Page.attach p).fill values).text =
      first ++ escapeText (Substitution.fill values text) ++ last := by
  have hentry : ∀ text, (s text).entry = Section.entryOf title none := by
    intro text
    rw [Section.entry, htitle, hlabel]
  have hheading : ∀ text, (s text).heading mainLevel = Section.headingOf mainLevel title := by
    intro text
    rw [Section.heading, htitle]
  have hroot : ∀ text, ((before ++ s text :: after).foldl Page.attach p).root =
      Around.put { tag := "html", before := [p.head] }
        ((bodyAround p before { title } after).put ((s text).block mainLevel)) := by
    intro text
    rw [root_attach_all]
    simp only [bodyAround, List.map_append, List.map_cons, hentry, hheading]
    rfl
  obtain ⟨first, last, hwritten⟩ := ((hblock.put (bodyAround p before { title } after)).put
    { tag := "html", before := [p.head] }).documented
  refine ⟨first, last, fun text => ?_⟩
  rw [Page.text, root_fill, hroot]
  exact hwritten text

/-! ## Titles of issues -/

/-- The row of an issue around its title. -/
def rowAround (lead : String) (i : Issue) : Around where
  tag := "tr"
  before := [Part.cell.append (Part.link i.address (i.name lead))]

/-- The table of bug fixes around a row. -/
def tableAround (lead : String) (before after : List Issue) : Around where
  tag := "table"
  attributes := (Part.table 2 ["Issue Id", "Description"]).attributes
  before := (Part.table 2 ["Issue Id", "Description"]).children ++
    before.map (Chapter.issueRow lead)
  after := after.map (Chapter.issueRow lead)

/-- The table of bug fixes, seen from the title of one issue. -/
theorem bugFixesTable_eq (x : Chapter.Subject) (before : List Issue) (i : Issue)
    (after : List Issue) : Chapter.bugFixesTable x (before ++ i :: after) =
      (tableAround x.lead before after).put ((rowAround x.lead i).put (.ofText "td" i.title)) := by
  unfold Chapter.bugFixesTable
  simp only [List.map_append, List.map_cons, ← List.append_assoc]
  rfl

/-- The block of the bug fixes, seen from their table. -/
theorem bugFixes_block (x : Chapter.Subject) (is : List Issue) :
    (Chapter.bugFixes x is).block mainLevel =
      Around.put { tag := "blockquote", before := [Part.paragraph (Chapter.bugFixesText x)] }
        (Chapter.bugFixesTable x is) := rfl

/-- A title stands in one cell of the chapter on bug fixes and nowhere else. -/
theorem showsFilled_bugFixes (values : Substitution.Values) (x : Chapter.Subject)
    (before : List Issue) (i : Issue) (after : List Issue) :
    ShowsFilled values fun title =>
      (Chapter.bugFixes x (before ++ { i with title } :: after)).block mainLevel := by
  have hcell : ShowsFilled values fun title => .ofText "td" title :=
    Substitution.showsFilled_text (by decide) (by decide) [] [] none
  have htable := (hcell.put (rowAround x.lead i)).put (tableAround x.lead before after)
  refine (htable.put { tag := "blockquote",
                       before := [Part.paragraph (Chapter.bugFixesText x)] }).of_eq fun title => ?_
  rw [bugFixes_block, bugFixesTable_eq]
  rfl

/-! ## Texts on the build environment -/

/-- The item on a topic. -/
def topicItem (s : Summary) (t : String × Topic) : Element :=
  Part.headlinedItem t.1 (s.get t.2)

/-- The block on the build environment around its list. -/
def environmentAround (s : Summary) (product : String) : Around where
  tag := "blockquote"
  before :=
    [Part.paragraph s!"{product} release {s.releaseId} was built using the following environment:"]

/-- The list of the build environment around an item. -/
def listAround (s : Summary) (before after : List (String × Topic)) : Around where
  tag := "ul"
  before :=
    Part.headlinedItem "Branch" s!"Source code came from the {s.branch} branch." ::
      before.map (topicItem s)
  after := after.map (topicItem s)

/-- The block of the environment, seen from the item of one topic. -/
theorem environment_block (s : Summary) (product : String) {before after : List (String × Topic)}
    {t : String × Topic} (h : Chapter.environmentTopics = before ++ t :: after) :
    (Chapter.environment s product).block mainLevel =
      (environmentAround s product).put ((listAround s before after).put (topicItem s t)) := by
  have hblock : (Chapter.environment s product).block mainLevel = (environmentAround s product).put
      { Part.list with
        children := Part.headlinedItem "Branch" s!"Source code came from the {s.branch} branch." ::
          Chapter.environmentTopics.map (topicItem s) } := rfl
  rw [hblock, h, List.map_append, List.map_cons]
  rfl

section

variable (s : Summary) {t : Topic} (ht : t ∈ Chapter.environmentTopics.map (·.2))

include ht

theorem get_retold_environment (t' : Topic) (ht' : t' ∉ Chapter.environmentTopics.map (·.2))
    (text : String) : (s.retold t text).get t' = s.get t' :=
  s.get_retold_of_ne text fun he => ht' (he ▸ ht)

theorem releaseId_retold (text : String) : (s.retold t text).releaseId = s.releaseId :=
  get_retold_environment s ht .releaseId (by decide) text

theorem previousReleaseId_retold (text : String) :
    (s.retold t text).previousReleaseId = s.previousReleaseId :=
  get_retold_environment s ht .previousReleaseId (by decide) text

theorem branch_retold (text : String) : (s.retold t text).branch = s.branch :=
  get_retold_environment s ht .branch (by decide) text

/-- No variable stands for a text on the build environment. -/
theorem values_retold (product text : String) :
    (s.retold t text).values product = s.values product := by
  unfold Summary.values
  rw [releaseId_retold s ht, previousReleaseId_retold s ht, branch_retold s ht]

end

/-- A text on the build environment stands in one item of the chapter on it and nowhere else. -/
theorem showsFilled_environment (values : Substitution.Values) (s : Summary) (product : String)
    {t : Topic} (ht : t ∈ Chapter.environmentTopics.map (·.2)) :
    ShowsFilled values fun text =>
    (Chapter.environment (s.retold t text) product).block mainLevel := by
  obtain ⟨⟨headline, t⟩, hmem, rfl⟩ := List.mem_map.1 ht
  obtain ⟨before, after, hsplit⟩ := List.append_of_mem hmem
  have hitem : ShowsFilled values fun text => Part.headlinedItem headline text :=
    (Substitution.showsFilled_tail (.ofText "b" headline) (by decide)).put { tag := "li" }
  refine ((hitem.put (listAround s before after)).put (environmentAround s product)).of_eq
    fun text => ?_
  -- the topics of the other items are other ones, so they keep their texts
  have hothers : ∀ t' ∈ before ++ after, topicItem (s.retold t text) t' = topicItem s t' := by
    intro t' ht'
    have hnodup : (Chapter.environmentTopics.map (·.2)).Nodup := by decide
    rw [hsplit] at hnodup
    rw [topicItem, s.get_retold_of_ne text (ne_of_nodup_map hnodup t' ht'), topicItem]
  have hself : topicItem (s.retold t text) (headline, t) = Part.headlinedItem headline text := by
    rw [topicItem, Summary.get_retold_self]
  rw [environment_block (s.retold t text) product hsplit, hself, environmentAround,
    environmentAround, releaseId_retold s ht, listAround, listAround, branch_retold s ht,
    List.map_congr_left fun t' ht' => hothers t' (List.mem_append_left _ ht'),
    List.map_congr_left fun t' ht' => hothers t' (List.mem_append_right _ ht')]

end Pamphlet.Page
