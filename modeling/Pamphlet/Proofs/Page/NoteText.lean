import Pamphlet.Proofs.Markup.Cloning
import Pamphlet.Proofs.Page.Blocks
import Pamphlet.Proofs.Page.Rendering
import Pamphlet.Proofs.Page.Treatment

/-!
# What a page says of notes

The section of a note is made by copying: the summary into a paragraph, the details behind that
paragraph, and the paragraph into the entry. The paragraph is the label of the entry, and the text
after it, which belongs to the details, is no part of what the label holds
(`Chapter.noteSection_label`). So the block of a note says what its summary and its details say, and
the entry what the summary says (`Chapter.copied_texts`).
-/

namespace Pamphlet.Page

open Pamphlet.Markup Pamphlet.Release

theorem characters_named (tag : String) : (Element.named tag).characters = "" := rfl

theorem characters_ofText (tag text : String) : (Element.ofText tag text).characters = text := by
  rw [Element.characters_eq]
  exact String.append_empty

theorem characters_item (e : Element) (h : e.tail = none) :
    (Part.item.append e).characters = e.characters := by
  rw [Element.characters_append, h, Part.item, characters_named, String.empty_append]
  exact String.append_empty

/-- An entry reads as the label of its section. -/
theorem Section.characters_entry {s : Section} {label : Element} (h : s.label = some label) :
    s.entry.characters = label.characters := by
  have hlink :
      ((Element.named "a").withAttribute "href" ("#" ++ anchorName s.title)).characters = "" := rfl
  unfold Section.entry Section.entryOf
  rw [h]
  simp only
  rw [characters_item _ (Element.tail_appendContent _ _), Element.characters_appendContent, hlink,
    String.empty_append]

/-- What an only child is followed by, if content is added to its parent. -/
theorem append_appendContent {p e : Element} (hchildren : p.children = []) (htail : e.tail = none)
    (source : Element) :
    (p.append e).appendContent source =
      { p with children := { e with tail := source.text.filter (· ≠ "") } :: source.children } := by
  have hself : { e with tail := none } = e := by
    cases e
    cases htail
    rfl
  unfold Element.appendContent Element.appendText? Element.appendText
  cases source.text with
  | none => simp [Element.append, hchildren, hself]
  | some s =>
    by_cases hs : s = ""
    · simp [Element.append, hchildren, hself, hs, Option.filter]
    · simp [Element.append, hchildren, hs, Option.filter, Element.onLast, Element.addTail, htail]

namespace Chapter

/-- The issues whose notes are shown, with the notes. -/
def shownNotes (lead : String) (outcomes : List Outcome) (is : List Issue) : List (Issue × Note) :=
  is.filterMap fun i => (treat lead outcomes i).note?.map fun n => (i, n)

/-- A note is shown if its issue needs one and the outcome of the issue has it. -/
theorem mem_shownNotes_iff {lead : String} {outcomes : List Outcome} {is : List Issue} {i : Issue}
    {n : Note} : (i, n) ∈ shownNotes lead outcomes is ↔
      i ∈ is ∧ i.status = .attached ∧ ∃ o, outcomeOf outcomes i = some o ∧ o.note = some n := by
  have htreat : (treat lead outcomes i).note? = some n ↔
      i.status = .attached ∧ ∃ o, outcomeOf outcomes i = some o ∧ o.note = some n := by
    unfold treat
    cases i.status with
    | notNeeded | missing => simp [Treatment.note?]
    | attached =>
      cases outcomeOf outcomes i with
      | none => simp [Treatment.note?]
      | some o => cases hnote : o.note <;> simp [Treatment.note?, hnote]
  rw [shownNotes, List.mem_filterMap, ← htreat]
  constructor
  · rintro ⟨j, hj, hn⟩
    obtain ⟨m, hm, he⟩ := Option.map_eq_some_iff.1 hn
    cases he
    exact ⟨hj, hm⟩
  · rintro ⟨hi, hn⟩
    exact ⟨i, hi, by rw [hn]; rfl⟩

/-- Below the chapter on issues stands a section for every note that is shown. -/
theorem subsections_issues (x : Subject) (is : List Issue) (outcomes : List Outcome) :
    (issues x is outcomes).chapter.subsections =
      (shownNotes x.lead outcomes is).map fun s => noteSection x.lead s.1 s.2 := by
  unfold issues shownNotes
  rw [List.map_filterMap]
  refine List.filterMap_congr fun i _ => ?_
  cases treat x.lead outcomes i <;> rfl

section

variable (lead : String) (i : Issue) (n : Note)

theorem tail_noteLead : (noteLead lead i n).tail = none :=
  Element.tail_appendContent _ _

/-- The body of a note's section begins with the paragraph, and the text that the details begin with
follows it. -/
theorem noteSection_body :
    (noteSection lead i n).body = { Element.named "div" with
      children := { noteLead lead i n with
                    tail := n.details.text.filter (· ≠ "") } :: n.details.children } :=
  append_appendContent rfl (tail_noteLead lead i n) n.details

/-- The label is that paragraph. -/
theorem noteSection_label :
    (noteSection lead i n).label =
      some { noteLead lead i n with tail := n.details.text.filter (· ≠ "") } := by
  have hlabel : (noteSection lead i n).label = (noteSection lead i n).body.children.head? := rfl
  rw [hlabel, noteSection_body]
  rfl

/-- A note is led by the name of its issue and the text of its summary. -/
theorem characters_noteLead :
    (noteLead lead i n).characters = "Note for " ++ (lead ++ i.key) ++ ": " ++
    n.summary.characters := by
  rw [noteLead, Element.characters_appendContent, Part.paragraph, characters_ofText, noteTitle,
    Issue.name]

/-- The block of a note reads as its lead and its details. -/
theorem characters_noteSection_block (level : Int) :
    ((noteSection lead i n).block level).characters =
      "Note for " ++ (lead ++ i.key) ++ ": " ++ n.summary.characters ++ n.details.characters := by
  have hblock : (noteSection lead i n).block level =
      (Element.named "blockquote").appendContent (noteSection lead i n).body := by
    rw [noteSection, Section.block]
    rfl
  have hbody : (noteSection lead i n).body =
      ((Element.named "div").append (noteLead lead i n)).appendContent n.details := rfl
  rw [hblock, hbody, Element.characters_appendContent, Element.characters_appendContent,
    Element.characters_append,
    tail_noteLead, characters_noteLead, characters_named, characters_named, String.empty_append,
      String.empty_append]
  rw [Option.getD_none, String.append_empty]

/-- The entry of a note reads as its lead. -/
theorem characters_noteSection_entry :
    (noteSection lead i n).entry.characters =
      "Note for " ++ (lead ++ i.key) ++ ": " ++ n.summary.characters := by
  rw [Section.characters_entry (noteSection_label lead i n), ← characters_noteLead,
    Element.characters_eq, Element.characters_eq (noteLead lead i n)]

end

/-! ## The chapter -/

variable (x : Subject) (is : List Issue) (outcomes : List Outcome) (level : Int)

/-- The block of the chapter: an introduction, the list of the notes, and the notes. -/
theorem children_issues_block :
    ((issues x is outcomes).chapter.block level).children =
      [Part.paragraph (issuesText x),
        { Part.list with
          children := Section.entriesOf (issues x is outcomes).chapter.subsections }] ++
          Section.blocksOf true (level + 1) (issues x is outcomes).chapter.subsections := by
  rw [Section.block_eq]
  rfl

theorem blocks_issues :
    ((issues x is outcomes).chapter.block level).childrenNamed "blockquote" =
      (issues x is outcomes).chapter.subsections.map (Section.block (level + 1)) := by
  rw [Element.childrenNamed, children_issues_block, List.filter_append, blocks_blocksOf]
  rfl

theorem entries_issues :
    ((issues x is outcomes).chapter.block level).grandchildrenNamed "ul" "li" =
      (issues x is outcomes).chapter.subsections.map Section.entry := by
  have hlists : ((issues x is outcomes).chapter.block level).childrenNamed "ul" =
      [{ Part.list with
         children := Section.entriesOf (issues x is outcomes).chapter.subsections }] := by
    rw [Element.childrenNamed, children_issues_block, List.filter_append,
      filter_blocksOf_eq_nil (by decide) (by decide)]
    rfl
  rw [Element.grandchildrenNamed, hlists, List.flatMap_singleton]
  refine List.filter_eq_self.2 fun e he => ?_
  obtain ⟨s, -, rfl⟩ := List.mem_map.1 he
  obtain ⟨-, hentry, -⟩ := entry_link s
  simp [Element.hasTag, hentry]

/-- **What is copied, and what is said of notes.** Content is the joined list of an element's text,
its children and what follows them. Copying the content of a source adds it to that of the target
and leaves the source, and whatever else is apart from the target, as it was; sources can be joined
before they are copied. So in the chapter on issues the block of each note says its title, its
summary and its details, and its entry the title and the summary. -/
theorem copied_texts :
    (∀ e : Element, e.content = Item.merged (.run (e.text.getD "") ::
      e.children.flatMap fun child => [.node child.alone, .run (child.tail.getD "")])) ∧
    (∀ (d : Draft) {source target : Place} {s t : Element}, source.Apart target →
      d.element? source = some s → d.element? target = some t →
        (d.change target (·.appendContent s)).element? source = some s ∧
        (d.change target (·.appendContent s)).element? target = some (t.appendContent s) ∧
        ∀ p : Place, p.Apart target → (d.change target (·.appendContent s)).element? p =
        d.element? p) ∧
    (∀ t s : Element, (t.appendContent s).content = Item.merged (t.content ++ s.content)) ∧
    (∀ (t : Element) (sources : List Element),
      (sources.foldl Element.appendContent t).content =
      Item.merged (t.content ++ sources.flatMap Element.content)) ∧
    (∀ t s s' : Element, (t.appendContent s).appendContent s' =
      t.appendContent (s.appendContent s')) ∧
    ∀ (x : Subject) (is : List Issue) (outcomes : List Outcome) (level : Int),
      (∀ i n, (i, n) ∈ shownNotes x.lead outcomes is ↔
        i ∈ is ∧ i.status = .attached ∧ ∃ o, outcomeOf outcomes i = some o ∧ o.note = some n) ∧
      (((issues x is outcomes).chapter.block level).childrenNamed "blockquote").map
          Element.characters =
        (shownNotes x.lead outcomes is).map (fun s =>
          "Note for " ++ (x.lead ++ s.1.key) ++ ": " ++ s.2.summary.characters ++
          s.2.details.characters) ∧
      (((issues x is outcomes).chapter.block level).grandchildrenNamed "ul" "li").map
          Element.characters =
        (shownNotes x.lead outcomes is).map fun s =>
          "Note for " ++ (x.lead ++ s.1.key) ++ ": " ++ s.2.summary.characters := by
  refine ⟨Element.content_eq_merged, ?_, Element.content_appendContent,
    Element.content_appendContent_all, Element.appendContent_assoc, fun x is outcomes level =>
    ⟨fun _ _ => mem_shownNotes_iff, ?_, ?_⟩⟩
  · intro d source target s t hapart hsource htarget
    have hspared : ∀ p : Place, p.Apart target →
        (d.change target (·.appendContent s)).element? p = d.element? p :=
      fun p hp => d.element?_change_of_apart _ hp
    refine ⟨(hspared source hapart).trans hsource, ?_, hspared⟩
    rw [Draft.element?_change_self, htarget, Option.map_some]
  · rw [blocks_issues, subsections_issues, List.map_map, List.map_map]
    exact List.map_congr_left fun s _ => characters_noteSection_block x.lead s.1 s.2 (level + 1)
  · rw [entries_issues, subsections_issues, List.map_map, List.map_map]
    exact List.map_congr_left fun s _ => characters_noteSection_entry x.lead s.1 s.2

/-! ### A sample -/

/-- A text, a child and a text behind it. -/
def copiedSource : Element :=
  { Element.ofText "p" "s" with children := [{ Element.named "b" with tail := some "t" }] }

/-- A source, and a target that ends with a text. -/
def copiedDraft : Draft where
  trees := [copiedSource, .ofText "p" "r"]

theorem copied_texts_two_trees :
    (⟨0, []⟩ : Place).Apart ⟨1, []⟩ ∧ copiedDraft.element? ⟨0, []⟩ = some copiedSource ∧
      copiedDraft.element? ⟨1, []⟩ = some (.ofText "p" "r") ∧
      (copiedDraft.change ⟨1, []⟩ (·.appendContent copiedSource)).element? ⟨0, []⟩ =
      some copiedSource ∧ ((Element.ofText "p" "r").appendContent copiedSource).content =
        [.run "rs", .node (.named "b"), .run "t"] := by
  have hapart : (⟨0, []⟩ : Place).Apart ⟨1, []⟩ := by
    constructor
    · rintro ⟨⟨⟩, -⟩
    · rintro ⟨⟨⟩, -⟩
  obtain ⟨-, hcopied, hcontent, -⟩ := copied_texts
  refine ⟨hapart, rfl, rfl, (hcopied copiedDraft hapart rfl rfl).1, ?_⟩
  rw [hcontent]
  rfl

end Chapter

end Pamphlet.Page
