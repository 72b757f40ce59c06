import Pamphlet.Page.Basic
import Pamphlet.Page.Chapters
import Pamphlet.Proofs.Page.Fill

/-!
# The contents list agrees with the headings

The titles of the sections attached to a page, its contents list and its main headings are three
lists of their own. They agree on a page without sections (`agrees_new`), and attaching any section
adds one title to each of them (`Agrees.attach`): what the section holds, headings, lists and links
included, stands inside its block and inside its entry, where neither list looks. The page of the
chapters agrees with their titles even after variables have been filled in (`Agrees.fill_chapters`),
as no title of a chapter has a brace.
-/

namespace Pamphlet.Page

open Pamphlet.Markup

/-- A page shows given titles: its entries lead to them, in their order, and so are its headings
named. -/
structure Agrees (p : Page) (titles : List String) : Prop where
  targets : p.targets = titles.map fun t => some ("#" ++ anchorName t)
  anchors : p.anchors = titles.map fun t => some (anchorName t)

/-! ## Parts of sections -/

theorem appendContent_keeps (e source : Element) :
    (e.appendContent source).attributes = e.attributes ∧
      (e.appendContent source).label = e.label := by
  unfold Element.appendContent Element.appendText?
  split
  · exact ⟨rfl, rfl⟩
  · unfold Element.appendText
    split
    · exact ⟨rfl, rfl⟩
    · split <;> exact ⟨rfl, rfl⟩

/-- An entry holds one link, which leads to the section's heading. -/
theorem entry_link (s : Section) :
    ∃ link : Element, s.entry.label = .tag "li" ∧ s.entry.children = [link] ∧
      link.label = .tag "a" ∧ link.attributes.get? "href" = some ("#" ++ anchorName s.title) := by
  unfold Section.entry Section.entryOf
  simp only
  split
  · exact ⟨_, rfl, rfl, rfl, rfl⟩
  · refine ⟨_, rfl, rfl, ?_, ?_⟩
    · rw [(appendContent_keeps _ _).2]
      rfl
    · rw [(appendContent_keeps _ _).1]
      rfl

/-- A heading holds one link, which names it. -/
theorem heading_link (level : Int) (s : Section) :
    ∃ link : Element, (s.heading level).label = .tag ("h" ++ toString level) ∧
      (s.heading level).children = [link] ∧ link.label = .tag "a" ∧
      link.attributes.get? "name" = some (anchorName s.title) :=
  ⟨_, rfl, rfl, rfl, rfl⟩

/-- A chapter that copies a fragment has a title and a body, and nothing below. -/
theorem Chapter.ofFragment_ok {title : String} {s : Release.Summary} {t : Release.Topic}
    {chapter : Section}
    (h : Chapter.ofFragment title s t = .ok chapter) : ∃ body, chapter = { title, body } := by
  unfold Chapter.ofFragment at h
  cases hf : s.fragment t with
  | error f =>
    rw [hf] at h
    cases h
  | ok fragment =>
    rw [hf] at h
    cases h
    exact ⟨_, rfl⟩

theorem Chapter.title_of_ofFragment {title : String} {s : Release.Summary} {t : Release.Topic}
    {chapter : Section}
    (h : Chapter.ofFragment title s t = .ok chapter) : chapter.title = title := by
  obtain ⟨body, rfl⟩ := Chapter.ofFragment_ok h
  rfl

theorem block_label (level : Int) (s : Section) : (s.block level).label = .tag "blockquote" := by
  unfold Section.block
  split
  split
  · exact (appendContent_keeps _ _).2
  · exact (appendContent_keeps _ _).2

/-! ## Attaching -/

theorem childrenNamed_append (e child : Element) (name : String) :
    (e.append child).childrenNamed name =
      e.childrenNamed name ++ if child.hasTag name then [child] else [] := by
  unfold Element.childrenNamed Element.append
  rw [List.filter_append]
  congr 1
  rw [List.filter_cons]
  rfl

/-- One entry more, which leads to the anchor of the section. -/
theorem targets_attach (p : Page) (s : Section) :
    (p.attach s).targets = p.targets ++ [some ("#" ++ anchorName s.title)] := by
  obtain ⟨link, hli, hchildren, ha, hhref⟩ := entry_link s
  have hentry : s.entry.hasTag "li" = true := by
    unfold Element.hasTag
    rw [hli]
    decide
  have hlinks : s.entry.childrenNamed "a" = [link] := by
    unfold Element.childrenNamed Element.hasTag
    rw [hchildren]
    simp [ha]
  unfold targets attach Element.grandchildrenNamed
  simp only
  rw [childrenNamed_append, hentry, if_pos rfl, List.flatMap_append, List.map_append,
    List.flatMap_singleton, hlinks, List.map_singleton, hhref]

/-- The names of the links in the elements of a list that have a tag. -/
def namesIn (tag : String) (es : List Element) : List (Option String) :=
  ((es.filter (·.hasTag tag)).flatMap (·.childrenNamed "a")).map (·.attributes.get? "name")

theorem namesIn_append (tag : String) (es fs : List Element) :
    namesIn tag (es ++ fs) = namesIn tag es ++ namesIn tag fs := by
  unfold namesIn
  rw [List.filter_append, List.flatMap_append, List.map_append]

/-- The contents list and the opening of a page are as they are, only its blocks are added to. -/
theorem anchors_attach (p : Page) (s : Section) :
    (p.attach s).anchors = p.anchors ++ [some (anchorName s.title)] := by
  obtain ⟨link, hh, hchildren, ha, hname⟩ := heading_link mainLevel s
  have hheading : namesIn ("h" ++ toString mainLevel) [s.heading mainLevel, s.block mainLevel] =
      [some (anchorName s.title)] := by
    have hblock : (s.block mainLevel).hasTag ("h" ++ toString mainLevel) = false := by
      unfold Element.hasTag
      rw [block_label]
      decide
    have hhead : (s.heading mainLevel).hasTag ("h" ++ toString mainLevel) = true := by
      unfold Element.hasTag
      rw [hh]
      decide
    unfold namesIn
    rw [List.filter_cons, hhead, if_pos rfl, List.filter_cons, hblock]
    simp [Element.childrenNamed, Element.hasTag, hchildren, ha, hname]
  have hcontents : namesIn ("h" ++ toString mainLevel) [p.contents.append s.entry] =
      namesIn ("h" ++ toString mainLevel) [p.contents] := by
    obtain ⟨link', hli, -, -, -⟩ := entry_link s
    have hentry : s.entry.hasTag "a" = false := by
      unfold Element.hasTag
      rw [hli]
      decide
    have hsame : (p.contents.append s.entry).hasTag ("h" ++ toString mainLevel) =
        p.contents.hasTag ("h" ++ toString mainLevel) := rfl
    unfold namesIn
    rw [List.filter_cons, List.filter_cons, hsame]
    split
    · simp [childrenNamed_append, hentry]
    · rfl
  have hbefore : ∀ q : Page, q.anchors =
      namesIn ("h" ++ toString mainLevel) (q.opening ++ ([q.contents] ++ q.blocks)) := fun _ => rfl
  rw [hbefore, hbefore]
  unfold attach
  simp only [namesIn_append, hcontents, hheading, List.append_assoc]

/-! ## Pages that agree with titles -/

theorem agrees_new (title introduction : String) : (new title introduction).Agrees [] where
  targets := rfl
  anchors := rfl

/-- **Attaching a section keeps the agreement**, with one title more. -/
theorem Agrees.attach {p : Page} {titles : List String} (h : p.Agrees titles) (s : Section) :
    (p.attach s).Agrees (titles ++ [s.title]) where
  targets := by
    rw [targets_attach, h.targets, List.map_append]
    rfl
  anchors := by
    rw [anchors_attach, h.anchors, List.map_append]
    rfl

/-- Attaching several sections keeps the agreement, with their titles in order. -/
theorem Agrees.attach_all {p : Page} {titles : List String} (h : p.Agrees titles)
    (ss : List Section) : (ss.foldl Page.attach p).Agrees (titles ++ ss.map (·.title)) := by
  induction ss generalizing p titles with
  | nil =>
    rw [List.map_nil, List.append_nil]
    exact h
  | cons s rest ih =>
    rw [List.foldl_cons, List.map_cons, List.append_cons]
    exact ih (h.attach s)

/-- A page has no problem with the titles that it shows. -/
theorem Agrees.problem?_eq_none {p : Page} {titles : List String} (h : p.Agrees titles) :
    p.problem? titles = none := by
  unfold problem?
  rw [if_neg (not_not_intro h.targets), if_neg (not_not_intro h.anchors)]

/-! ## Filled pages -/

theorem body_fill (values : Substitution.Values) (p : Page) :
    (p.fill values).body = Substitution.fillTree values p.body := by
  rw [Substitution.fillTree_eq]
  unfold body fill
  simp only [List.map_append, List.map_cons]
  rfl

/-- Filling a page in is filling its tree in. -/
theorem root_fill (values : Substitution.Values) (p : Page) :
    (p.fill values).root = Substitution.fillTree values p.root := by
  rw [Substitution.fillTree_eq]
  unfold root
  simp only [List.map_cons, List.map_nil, body_fill]
  rfl

/-- Entries are filled in as text is. -/
theorem targets_fill (values : Substitution.Values) (p : Page) :
    (p.fill values).targets = p.targets.map (Option.map (Substitution.fill values)) := by
  unfold targets fill
  simp only
  rw [Substitution.grandchildrenNamed_fillTree, List.map_map, List.map_map]
  refine List.map_congr_left fun link _ => ?_
  exact Substitution.get?_fillTree values link "href"

theorem namesIn_fill (values : Substitution.Values) (tag : String) (es : List Element) :
    namesIn tag (es.map (Substitution.fillTree values)) =
      (namesIn tag es).map (Option.map (Substitution.fill values)) := by
  unfold namesIn
  have hfilter : (es.map (Substitution.fillTree values)).filter (·.hasTag tag) =
      (es.filter (·.hasTag tag)).map (Substitution.fillTree values) := by
    rw [List.filter_map]
    congr 1
    exact List.filter_congr fun e _ => Substitution.hasTag_fillTree values e tag
  rw [hfilter, List.flatMap_map, List.map_map, List.map_flatMap, List.map_flatMap]
  congr 1
  funext e
  rw [Substitution.childrenNamed_fillTree, List.map_map]
  refine List.map_congr_left fun link _ => ?_
  exact Substitution.get?_fillTree values link "name"

/-- Anchors are filled in as text is. -/
theorem anchors_fill (values : Substitution.Values) (p : Page) :
    (p.fill values).anchors = p.anchors.map (Option.map (Substitution.fill values)) := by
  change namesIn _ ((p.opening.map _) ++
    (Substitution.fillTree values p.contents :: p.blocks.map _)) =
    (namesIn _ (p.opening ++ p.contents :: p.blocks)).map _
  rw [← List.map_cons, ← List.map_append]
  exact namesIn_fill values _ _

/-- A page that shows titles without braces still shows them when it has been filled. -/
theorem Agrees.fill {p : Page} {titles : List String} (h : p.Agrees titles)
    (values : Substitution.Values)
    (hplain : ∀ t ∈ titles, '{' ∉ ("#" ++ anchorName t).toList) :
    (p.fill values).Agrees titles where
  targets := by
    rw [targets_fill, h.targets, List.map_map]
    refine List.map_congr_left fun t ht => ?_
    simp only [Function.comp_apply, Option.map_some]
    rw [Substitution.fill_eq_self (hplain t ht)]
  anchors := by
    rw [anchors_fill, h.anchors, List.map_map]
    refine List.map_congr_left fun t ht => ?_
    simp only [Function.comp_apply, Option.map_some]
    rw [Substitution.fill_eq_self]
    intro hmem
    apply hplain t ht
    rw [String.toList_append]
    exact List.mem_append_right _ hmem

/-- The titles of the chapters have no variables, so a filled page still agrees with them. -/
theorem Agrees.fill_chapters {p : Page} (h : p.Agrees Chapter.titles)
    (values : Substitution.Values) : (p.fill values).Agrees Chapter.titles :=
  h.fill values (by decide)

end Pamphlet.Page
