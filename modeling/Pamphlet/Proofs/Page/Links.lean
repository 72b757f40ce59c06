import Pamphlet.Proofs.Page.Anchors
import Pamphlet.Proofs.Page.Blocks
import Pamphlet.Proofs.Page.NoteText

/-!
# Links inside links

A section puts foreign markup in two places. In its block a link stays as it was; in the entry of
its label it comes to stand inside the link of the entry. So a section has no link inside another
one exactly if there is none in its body, no link at all in its label, and the same holds of the
sections below (`Section.linksApart_iff`). On a page it is the labels of notes that matter: what
begins a note is copied into its entry, links included (`Fragments.links_apart`).
-/

namespace Pamphlet.Markup.Element

/-- Whether an element is a link or holds one. -/
def hasLink (e : Element) : Bool :=
  e.descendants.any (·.hasTag "a")

/-- No link is inside another one. -/
def LinksApart (e : Element) : Prop :=
  ∀ d ∈ e.descendants, d.hasTag "a" = true → ∀ child ∈ d.children, child.hasLink = false

instance (e : Element) : Decidable e.LinksApart :=
  inferInstanceAs
    (Decidable (∀ d ∈ e.descendants, d.hasTag "a" = true →
      ∀ child ∈ d.children, child.hasLink = false))

/-- An element has a link if it is one or one of its children has one. -/
theorem hasLink_eq (e : Element) : e.hasLink = (e.hasTag "a" || e.children.any hasLink) := by
  unfold hasLink
  rw [descendants_eq, List.any_cons, List.any_flatMap]

/-- Links stand apart in an element if they do in its children and, should it be a link, no child
has one. -/
theorem linksApart_iff (e : Element) :
    e.LinksApart ↔
      (e.hasTag "a" = true → ∀ child ∈ e.children, child.hasLink = false) ∧
        ∀ child ∈ e.children, child.LinksApart := by
  have hbelow : (∀ d ∈ e.children.flatMap descendants, d.hasTag "a" = true →
      ∀ child ∈ d.children, child.hasLink = false) ↔ ∀ child ∈ e.children, child.LinksApart := by
    constructor
    · exact fun h child hchild d hd => h d (List.mem_flatMap.2 ⟨child, hchild, hd⟩)
    · intro h d hd
      obtain ⟨child, hchild, hd⟩ := List.mem_flatMap.1 hd
      exact h child hchild d hd
  rw [← hbelow, LinksApart, descendants_eq, List.forall_mem_cons]

/-- Texts and attributes do not matter. -/
theorem linksApart_congr {e e' : Element} (hlabel : e'.label = e.label)
    (hchildren : e'.children = e.children) : e'.LinksApart ↔ e.LinksApart := by
  rw [linksApart_iff, linksApart_iff e, hchildren, hasTag, hasTag, hlabel]

theorem linksApart_of_not_link {e : Element} (h : e.hasTag "a" = false) :
    e.LinksApart ↔ ∀ child ∈ e.children, child.LinksApart := by
  rw [linksApart_iff, h]
  simp

theorem linksApart_of_childless {e : Element} (h : e.children = []) : e.LinksApart := by
  rw [linksApart_iff, h]
  exact ⟨fun _ => List.forall_mem_nil _, List.forall_mem_nil _⟩

/-- Where there are no links, none is inside another one. -/
theorem linksApart_of_not_hasLink {e : Element} (h : e.hasLink = false) : e.LinksApart := by
  intro d hd hlink
  have hnone := List.any_eq_false.1 h d hd
  exact absurd hlink hnone

/-- A link has no link inside if it has none in its children. -/
theorem linksApart_of_link {e : Element} (h : e.hasTag "a" = true) :
    e.LinksApart ↔ ∀ child ∈ e.children, child.hasLink = false := by
  rw [linksApart_iff]
  exact ⟨fun hapart => hapart.1 h, fun hnone => ⟨fun _ => hnone, fun child hchild =>
    linksApart_of_not_hasLink (hnone child hchild)⟩⟩

theorem LinksApart.children {e : Element} (h : e.LinksApart) :
    ∀ child ∈ e.children, child.LinksApart :=
  ((linksApart_iff e).1 h).2

section

variable {f : Element → Element} (hlabel : ∀ e, (f e).label = e.label)
    (hchildren : ∀ e, (f e).children = e.children)

include hlabel hchildren

theorem hasLink_mapAll (e : Element) : (e.mapAll f).hasLink = e.hasLink := by
  induction e using childInduction with
  | node e ih =>
    rw [hasLink_eq, hasLink_eq e, hasTag_mapAll f hlabel, children_mapAll f hchildren, List.any_map]
    congr 1
    rw [Bool.eq_iff_iff, List.any_eq_true, List.any_eq_true]
    refine exists_congr fun child => and_congr_right fun hmem => ?_
    rw [Function.comp_apply, ih child hmem]

/-- What keeps the labels and the children of all elements keeps links apart. -/
theorem linksApart_mapAll (e : Element) : (e.mapAll f).LinksApart ↔ e.LinksApart := by
  induction e using childInduction with
  | node e ih =>
    rw [linksApart_iff, linksApart_iff e, hasTag_mapAll f hlabel, children_mapAll f hchildren,
      List.forall_mem_map, List.forall_mem_map]
    simp only [hasLink_mapAll hlabel hchildren]
    exact and_congr_right fun _ => forall₂_congr fun child hmem => ih child hmem

end

end Pamphlet.Markup.Element

namespace Pamphlet.Page

open Pamphlet.Markup Pamphlet.Release

/-! ## Sections -/

namespace Section

/-- A section whose body has no link inside another one and whose label has no link, and so the
sections below. -/
inductive LinksApart : Section → Prop
  | intro {s : Section} (body : ∀ child ∈ s.body.children, child.LinksApart)
    (label : ∀ l ∈ s.label, ∀ child ∈ l.children, child.hasLink = false)
    (below : ∀ t ∈ s.subsections, t.LinksApart) : s.LinksApart

/-- Links stand apart in an entry exactly if its label, which it wraps in a link, has none. -/
theorem linksApart_entry (s : Section) :
    s.entry.LinksApart ↔ ∀ l ∈ s.label, ∀ child ∈ l.children, child.hasLink = false := by
  obtain ⟨link, hentry, hlinks, hlink, -⟩ := entry_link s
  have hitem : s.entry.hasTag "a" = false := by simp [Element.hasTag, hentry]
  have hlabel : s.entry.children.flatMap (·.children) = s.label.elim [] (·.children) := by
    unfold entry entryOf
    cases s.label with
    | none => rfl
    | some l =>
      have hcopied :=
        appendContent_eq
          (e := (Element.named "a").withAttribute "href" ("#" ++ anchorName s.title)) l
        rfl rfl
      simp only
      rw [hcopied]
      exact List.append_nil _
  have hchildren : link.children = s.label.elim [] (·.children) := by
    rw [← hlabel, hlinks, List.flatMap_singleton]
  rw [Element.linksApart_of_not_link hitem, hlinks, List.forall_mem_singleton,
    Element.linksApart_of_link (by simp [Element.hasTag, hlink]), hchildren]
  cases s.label <;> simp

theorem linksApart_heading (level : Int) (s : Section) : (s.heading level).LinksApart := by
  rw [Element.linksApart_of_not_link (not_hasTag_heading (by decide) level s)]
  exact List.forall_mem_singleton.2 (Element.linksApart_of_childless rfl)

theorem linksApart_blocksOf (ruled : Bool) (level : Int) (ss : List Section) :
    (∀ e ∈ blocksOf ruled level ss, e.LinksApart) ↔ ∀ t ∈ ss, (t.block level).LinksApart := by
  have hlines : ∀ e ∈ (if ruled then [Part.rule] else []), e.LinksApart := by
    intro e he
    cases ruled with
    | true =>
      rw [if_pos rfl, List.mem_singleton] at he
      rw [he]
      exact Element.linksApart_of_childless rfl
    | false => cases he
  induction ss with
  | nil => simp [blocksOf]
  | cons s rest ih =>
    rw [blocksOf, List.forall_mem_append, List.forall_mem_cons, List.forall_mem_cons,
      List.forall_mem_cons]
    constructor
    · exact fun h => ⟨h.2.2.1, ih.1 h.2.2.2⟩
    · exact fun h => ⟨hlines, linksApart_heading level s, h.1, ih.2 h.2⟩

/-- Links stand apart in a block exactly if they do in the body, in the entries and in the blocks
below. -/
theorem linksApart_block (level : Int) (s : Section) :
    (s.block level).LinksApart ↔
      (∀ child ∈ s.body.children, child.LinksApart) ∧
        ∀ t ∈ s.subsections, t.entry.LinksApart ∧ (t.block (level + 1)).LinksApart := by
  have htag : (s.block level).hasTag "a" = false := by
    rw [hasTag_block]
    rfl
  have hlower : (∀ e ∈ s.lower level, e.LinksApart) ↔
      ∀ t ∈ s.subsections, t.entry.LinksApart ∧ (t.block (level + 1)).LinksApart := by
    unfold lower
    split
    · have hlist :
        ∀ entries : List Element, ({ Part.list with children := entries } : Element).LinksApart ↔
          ∀ e ∈ entries, e.LinksApart := fun entries => Element.linksApart_of_not_link rfl
      rw [List.forall_mem_cons, hlist, entriesOf, List.forall_mem_map, linksApart_blocksOf]
      exact ⟨fun h t ht => ⟨h.1 t ht, h.2 t ht⟩,
        fun h => ⟨fun t ht => (h t ht).1, fun t ht => (h t ht).2⟩⟩
    · rename_i hnone
      have hempty : s.subsections = [] := by
        cases hsub : s.subsections with
        | nil => rfl
        | cons t ts => simp [hsub] at hnone
      simp [hempty]
  rw [Element.linksApart_of_not_link htag, block_eq, List.forall_mem_append, hlower]

/-- **Where a section has links inside links**: in its body, in the entry of a label that has links,
or below. -/
theorem linksApart_iff (level : Int) (s : Section) :
    s.entry.LinksApart ∧ (s.block level).LinksApart ↔ s.LinksApart := by
  induction s using belowInduction generalizing level with
  | node s ih =>
    rw [linksApart_entry, linksApart_block]
    constructor
    · rintro ⟨hlabel, hbody, hbelow⟩
      exact .intro hbody hlabel fun t ht => (ih t ht (level + 1)).1 (hbelow t ht)
    · rintro ⟨hbody, hlabel, hbelow⟩
      exact ⟨hlabel, hbody, fun t ht => (ih t ht (level + 1)).2 (hbelow t ht)⟩

end Section

/-! ## Pages -/

/-- Links stand apart on a page exactly if they do in each of its parts. -/
theorem linksApart_root (p : Page) :
    p.root.LinksApart ↔ p.title.LinksApart ∧ (∀ e ∈ p.opening, e.LinksApart) ∧
    p.contents.LinksApart ∧
      ∀ e ∈ p.blocks, e.LinksApart := by
  have hhead : p.head.LinksApart ↔ p.title.LinksApart := by
    rw [Element.linksApart_of_not_link rfl]
    exact List.forall_mem_singleton
  have hbody : p.body.LinksApart ↔ (∀ e ∈ p.opening, e.LinksApart) ∧ p.contents.LinksApart ∧
      ∀ e ∈ p.blocks, e.LinksApart := by
    rw [Element.linksApart_of_not_link rfl, body, List.forall_mem_append, List.forall_mem_cons]
  rw [Element.linksApart_of_not_link rfl, root, List.forall_mem_cons, List.forall_mem_singleton,
    hhead, hbody]

/-- A page is without links inside links if its sections are. -/
theorem linksApart_attach_all (title introduction : String) (ss : List Section) :
    (ss.foldl Page.attach (new title introduction)).root.LinksApart ↔ ∀ s ∈ ss, s.LinksApart := by
  have htitle : (new title introduction).title.LinksApart := Element.linksApart_of_childless rfl
  have hopening : ∀ e ∈ (new title introduction).opening, e.LinksApart :=
    List.forall_mem_cons.2 ⟨Element.linksApart_of_childless rfl,
      List.forall_mem_singleton.2 (Element.linksApart_of_childless rfl)⟩
  have hcontents : (ss.foldl Page.attach (new title introduction)).contents.LinksApart ↔
      ∀ s ∈ ss, s.entry.LinksApart := by
    rw [contents_attach_all, Element.linksApart_of_not_link rfl]
    exact List.forall_mem_map
  have hblocks : (∀ e ∈ (ss.foldl Page.attach (new title introduction)).blocks, e.LinksApart) ↔
      ∀ s ∈ ss, (s.block mainLevel).LinksApart := by
    have hnew : (new title introduction).blocks = [] := rfl
    rw [blocks_attach_all, hnew, List.nil_append, List.forall_mem_flatMap]
    refine forall₂_congr fun s _ => ?_
    rw [List.forall_mem_cons, List.forall_mem_singleton]
    exact and_iff_right (Section.linksApart_heading mainLevel s)
  rw [linksApart_root, title_attach_all, opening_attach_all, hcontents, hblocks,
    and_iff_right htitle, and_iff_right hopening]
  constructor
  · exact fun h s hs => (Section.linksApart_iff mainLevel s).1 ⟨h.1 s hs, h.2 s hs⟩
  · intro h
    have hboth := fun s hs => (Section.linksApart_iff mainLevel s).2 (h s hs)
    exact ⟨fun s hs => (hboth s hs).1, fun s hs => (hboth s hs).2⟩

/-- Filling in variables makes no links. -/
theorem linksApart_fill (values : Substitution.Values) (p : Page) :
    (p.fill values).root.LinksApart ↔ p.root.LinksApart := by
  have htree : ∀ e, (Substitution.fillTree values e).LinksApart ↔ e.LinksApart :=
    Element.linksApart_mapAll (fun _ => rfl) fun _ => rfl
  rw [linksApart_root, linksApart_root, fill]
  simp only [htree, List.forall_mem_map]

/-! ## The chapters -/

/-- A section with nothing below and without a label of its own has what its body has. -/
theorem Section.linksApart_of_body {s : Section} (hlabel : s.label = none)
    (hbelow : s.subsections = []) : s.LinksApart ↔ ∀ child ∈ s.body.children, child.LinksApart := by
  constructor
  · rintro ⟨hbody, -, -⟩
    exact hbody
  · intro hbody
    refine .intro hbody ?_ ?_
    · rw [hlabel]
      exact fun l hl => nomatch hl
    · rw [hbelow]
      exact List.forall_mem_nil _

namespace Chapter

/-- A chapter that copies a fragment nests no links, unless the fragment does. -/
theorem linksApart_ofFragment {title : String} {s : Summary} {t : Topic} {chapter : Section}
    (h : ofFragment title s t = .ok chapter) (hfragment : ∀ e, s.fragment t = .ok e →
      e.LinksApart) :
    chapter.LinksApart := by
  unfold ofFragment at h
  obtain ⟨fragment, hread, h⟩ := bind_ok h
  cases h
  rw [Section.linksApart_of_body rfl rfl, appendContent_eq fragment rfl rfl]
  exact (hfragment fragment hread).children

/-- Elements of another tag whose children have no children of their own. -/
theorem linksApart_of_flat {e : Element} (htag : e.hasTag "a" = false)
    (h : ∀ child ∈ e.children, child.children = []) : e.LinksApart :=
  (Element.linksApart_of_not_link htag).2 fun child hchild => Element.linksApart_of_childless
    (h child hchild)

theorem linksApart_issueRow (lead : String) (i : Issue) : (issueRow lead i).LinksApart := by
  refine (Element.linksApart_of_not_link rfl).2
    (List.forall_mem_cons.2 ⟨?_, List.forall_mem_singleton.2 ?_⟩)
  · exact linksApart_of_flat rfl (List.forall_mem_singleton.2 rfl)
  · exact Element.linksApart_of_childless rfl

/-- The table of bug fixes nests no links. -/
theorem linksApart_bugFixes (x : Subject) (is : List Issue) : (bugFixes x is).LinksApart := by
  have hheadlines :
      ∀ child ∈ (["Issue Id", "Description"].map (Element.ofText "th")), child.children = [] :=
    List.forall_mem_map.2 fun _ _ => rfl
  have htable : (bugFixesTable x is).LinksApart := by
    refine (Element.linksApart_of_not_link rfl).2
      (List.forall_mem_cons.2 ⟨linksApart_of_flat rfl hheadlines, ?_⟩)
    exact List.forall_mem_map.2 fun i _ => linksApart_issueRow x.lead i
  refine (Section.linksApart_of_body rfl rfl).2
    (List.forall_mem_cons.2 ⟨?_, List.forall_mem_singleton.2 htable⟩)
  exact Element.linksApart_of_childless rfl

theorem linksApart_headlinedItem (headline text : String) :
    (Part.headlinedItem headline text).LinksApart := by
  have hitem : Part.headlinedItem headline text =
      (Part.item.append (.ofText "b" headline)).appendText (" - " ++ text) := rfl
  have hchildren :
      (Part.item.append (.ofText "b" headline)).children =
      [] ++ [Element.ofText "b" headline] := rfl
  rw [hitem, Element.appendText_concat hchildren (by simp)]
  exact linksApart_of_flat rfl (List.forall_mem_singleton.2 rfl)

/-- The chapter on the environment nests no links. -/
theorem linksApart_environment (s : Summary) (product : String) :
    (environment s product).LinksApart := by
  refine (Section.linksApart_of_body rfl rfl).2
    (List.forall_mem_cons.2 ⟨Element.linksApart_of_childless rfl,
    List.forall_mem_singleton.2
      ((Element.linksApart_of_not_link rfl).2 (List.forall_mem_cons.2 ⟨?_, ?_⟩))⟩)
  · exact linksApart_headlinedItem _ _
  · exact List.forall_mem_map.2 fun p _ => linksApart_headlinedItem p.1 (s.get p.2)

/-- The section of a note has no links inside links if there are none in the note and no links at
all in its summary. -/
theorem linksApart_noteSection (lead : String) (i : Issue) {n : Note}
    (hsummary : n.summary.LinksApart) (hdetails : n.details.LinksApart) :
    (noteSection lead i n).LinksApart ↔ ∀ child ∈ n.summary.children, child.hasLink = false := by
  have hlead : (noteLead lead i n).children = n.summary.children :=
    Element.children_appendContent rfl n.summary
  have htag : (noteLead lead i n).hasTag "a" = false := by
    rw [Element.hasTag, noteLead, (appendContent_keeps _ _).2]
    rfl
  have hapart : (noteLead lead i n).LinksApart := by
    rw [Element.linksApart_of_not_link htag, hlead]
    exact hsummary.children
  have hparagraph :
      ({ noteLead lead i n with tail := n.details.text.filter (· ≠ "") } : Element).LinksApart := by
    refine (Element.linksApart_congr ?_ ?_).2 hapart
    · rfl
    · rfl
  constructor
  · rintro ⟨-, hlabel, -⟩
    rw [noteSection_label] at hlabel
    have hnone := hlabel _ rfl
    rwa [hlead] at hnone
  · intro hnone
    refine .intro ?_ ?_ (List.forall_mem_nil _)
    · rw [noteSection_body]
      exact List.forall_mem_cons.2 ⟨hparagraph, hdetails.children⟩
    · rw [noteSection_label]
      rintro l ⟨⟩
      exact hlead.symm ▸ hnone

/-- **Links stand apart in the chapter on issues** exactly if no summary of a note that is shown has
one. -/
theorem linksApart_issues {x : Subject} {is : List Issue} {outcomes : List Outcome}
    (hnotes : ∀ s ∈ shownNotes x.lead outcomes is, s.2.summary.LinksApart ∧
      s.2.details.LinksApart) :
    (issues x is outcomes).chapter.LinksApart ↔
      ∀ s ∈ shownNotes x.lead outcomes is,
        ∀ child ∈ s.2.summary.children, child.hasLink = false := by
  have hbody : ∀ child ∈ (issues x is outcomes).chapter.body.children, child.LinksApart :=
    List.forall_mem_singleton.2 (Element.linksApart_of_childless rfl)
  have hsections : (∀ t ∈ (issues x is outcomes).chapter.subsections, t.LinksApart) ↔
      ∀ s ∈ shownNotes x.lead outcomes is,
        ∀ child ∈ s.2.summary.children, child.hasLink = false := by
    rw [subsections_issues, List.forall_mem_map]
    exact forall₂_congr fun s hs =>
      linksApart_noteSection x.lead s.1 (hnotes s hs).1 (hnotes s hs).2
  rw [← hsections]
  constructor
  · rintro ⟨-, -, hbelow⟩
    exact hbelow
  · exact fun hbelow => .intro hbody (fun l hl => nomatch hl) hbelow

end Chapter

namespace Fragments

variable {s : Summary}

/-- **Where a page has links inside links.** If there are none in the fragments of a summary and in
the notes that are shown, the page of all chapters has none exactly if no summary of these notes has
a link at all: it is copied into the link of the note's entry. Filling in variables changes nothing
about it. -/
theorem links_apart (f : Fragments s) (x : Chapter.Subject) (is : List Issue)
    (outcomes : List Outcome) (title introduction : String)
    (hfragments : ∀ t e, t.isFragment = true → s.fragment t = .ok e → e.LinksApart)
    (hnotes : ∀ n ∈ Chapter.shownNotes x.lead outcomes is, n.2.summary.LinksApart ∧
      n.2.details.LinksApart) :
    (((f.chapters x is outcomes).foldl Page.attach (Page.new title introduction)).root.LinksApart ↔
      ∀ n ∈ Chapter.shownNotes x.lead outcomes is,
        ∀ child ∈ n.2.summary.children, child.hasLink = false) ∧
    ∀ values,
      (((f.chapters x is outcomes).foldl Page.attach (Page.new title introduction)).fill
        values).root.LinksApart ↔
        ((f.chapters x is outcomes).foldl Page.attach
          (Page.new title introduction)).root.LinksApart := by
  refine ⟨?_, fun values => linksApart_fill values _⟩
  have hfragment := fun (t : Topic) (ht : t.isFragment = true) {title : String} {chapter : Section}
    (h : Chapter.ofFragment title s t = .ok chapter) => Chapter.linksApart_ofFragment h fun e he =>
      hfragments t e ht he
  rw [linksApart_attach_all, ← Chapter.linksApart_issues hnotes, chapters]
  constructor
  · exact fun h => h _ (by simp)
  · intro hissues chapter hchapter
    simp only [List.mem_cons, List.not_mem_nil, or_false] at hchapter
    rcases hchapter with rfl | rfl | rfl | rfl | rfl | rfl
    · exact hfragment .overview rfl f.overview_eq
    · exact hfragment .newFeatures rfl f.newFeatures_eq
    · exact Chapter.linksApart_bugFixes x is
    · exact hissues
    · exact Chapter.linksApart_environment s x.product
    · exact hfragment .releaseVerification rfl f.verification_eq

/-! ### A sample -/

def linkedIssue : Issue :=
  { key := "1", title := "A", address := "browse/DERBY-1", noteAddress := some "note/1",
    status := .attached }

/-- A summary with a link. -/
def linkedNote : Note where
  summary := { Element.ofText "p" "see " with children := [Part.link "u" "it"] }
  details := .ofText "div" "d"

def linkedOutcome : Outcome :=
  { issue := linkedIssue, note := some linkedNote, incident := none }

theorem links_apart_linked :
    (∀ t e, t.isFragment = true →
      Summary.fragment { releaseId := "2", previousReleaseId := "1" } t = .ok e → e.LinksApart) ∧
    Chapter.shownNotes sampleSubject.lead [linkedOutcome] [linkedIssue] =
    [(linkedIssue, linkedNote)] ∧ linkedNote.summary.LinksApart ∧ linkedNote.details.LinksApart ∧
    ¬((sampleFragments.chapters sampleSubject [linkedIssue] [linkedOutcome]).foldl Page.attach
      (Page.new "T" "I")).root.LinksApart := by
  have hfragments : ∀ t e, t.isFragment = true →
      Summary.fragment { releaseId := "2", previousReleaseId := "1" } t = .ok e → e.LinksApart := by
    intro t e ht he
    have hempty : e = .named "div" := by
      cases t <;> first | (cases ht; done) | exact (Except.ok.inj he).symm
    rw [hempty]
    exact Element.linksApart_of_childless rfl
  have hshown : Chapter.shownNotes sampleSubject.lead [linkedOutcome] [linkedIssue] =
      [(linkedIssue, linkedNote)] :=
    rfl
  have hsummary : linkedNote.summary.LinksApart := by decide
  have hdetails : linkedNote.details.LinksApart := by decide
  obtain ⟨hiff, -⟩ :=
    links_apart sampleFragments sampleSubject [linkedIssue] [linkedOutcome] "T" "I" hfragments
    (hshown ▸ List.forall_mem_singleton.2 ⟨hsummary, hdetails⟩)
  refine ⟨hfragments, hshown, hsummary, hdetails, fun hapart => ?_⟩
  have hnone :=
    hiff.1 hapart (linkedIssue, linkedNote) (by rw [hshown]; exact List.mem_singleton_self _)
  exact absurd hnone (by decide)

end Fragments

end Pamphlet.Page
