import Pamphlet.Proofs.Page.Agreement
import Pamphlet.Proofs.Page.Rendering
import Pamphlet.Proofs.Page.Treatment
import Pamphlet.Proofs.Release.Keys
import Pamphlet.Proofs.Text.Folding

/-!
# Where the links of the contents lead

The anchor of a note's section is made from the key of its issue, with every run of blanks folded
into one mark (`anchorName_noteTitle`). Keys that are spelt differently can fold alike, and then the
links of both notes lead to both headings; the links of the chapters lead to their own headings only
(`chapter_links`).
-/

namespace Pamphlet.Page

open Pamphlet.Text Pamphlet.Markup Pamphlet.Release Pamphlet.Release.BugList

/-! ## Links and headings -/

/-- An entry leads to a heading if their titles have one anchor. -/
theorem leadsTo_iff (s t : Section) (level : Int) :
    LeadsTo s.entry (t.heading level) ↔ anchorName s.title = anchorName t.title := by
  obtain ⟨link, -, hentry, hlink, hhref⟩ := entry_link s
  obtain ⟨anchor, -, hheading, hanchor, hname⟩ := heading_link level t
  have hlinks : s.entry.childrenNamed "a" = [link] := by
    simp [Element.childrenNamed, Element.hasTag, hentry, hlink]
  have hanchors : (t.heading level).childrenNamed "a" = [anchor] := by
    simp [Element.childrenNamed, Element.hasTag, hheading, hanchor]
  unfold LeadsTo
  rw [hlinks, hanchors, List.map_singleton, List.map_singleton, hhref, hname]
  constructor
  · rintro ⟨name, hhref', hname'⟩
    cases hname'
    exact (String.append_right_inj _).1 (Option.some.inj (List.singleton_inj.1 hhref'))
  · exact fun he => ⟨_, by rw [he], rfl⟩

/-- Each entry leads to the heading of its own section, at whatever level, and to no other. -/
def LeadApart (ss : List Section) : Prop :=
  ∀ (i j : Nat) (hi : i < ss.length) (hj : j < ss.length) (level : Int),
    LeadsTo ss[i].entry (ss[j].heading level) ↔ i = j

/-- Entries lead apart if no two sections share an anchor. -/
theorem leadApart_iff (ss : List Section) :
    LeadApart ss ↔ (ss.map fun s => anchorName s.title).Nodup := by
  constructor
  · intro h
    refine List.pairwise_iff_getElem.2 fun i j hi hj hij he => ?_
    rw [List.getElem_map, List.getElem_map] at he
    exact Nat.ne_of_lt hij ((h i j _ _ 0).1 ((leadsTo_iff _ _ 0).2 he))
  · intro h i j hi hj level
    have hlength : (ss.map fun s => anchorName s.title).length = ss.length := List.length_map _
    have hinj := @List.Nodup.getElem_inj_iff _ _ h i (hlength ▸ hi) j (hlength ▸ hj)
    rw [List.getElem_map, List.getElem_map] at hinj
    rw [leadsTo_iff, hinj]

/-! ## Anchors of notes -/

/-- What the anchor of a note's section keeps of the key of its issue. -/
def foldedKey (lead key : String) : List Char :=
  foldRunsFrom '_' (endsBlank true lead.toList) key.toList

/-- What the anchors of all notes begin with. -/
def noteFront : List Char :=
  "Note_for_".toList

/-- What comes before the key in an anchor. -/
def foldedLead (lead : String) : List Char :=
  noteFront ++ foldRunsFrom '_' true lead.toList

/-- The anchor of a note is made of its lead and its key, both folded. -/
theorem anchorName_noteTitle (lead : String) {i : Issue} (hne : i.key ≠ "")
    (hback : ∀ c ∈ i.key.toList.getLast?, isBlank c = false) :
    anchorName (Chapter.noteTitle lead i) =
    String.ofList (foldedLead lead ++ foldedKey lead i.key) := by
  have htitle :
      (Chapter.noteTitle lead i).toList = "Note for ".toList ++ (lead.toList ++ i.key.toList) := by
    rw [Chapter.noteTitle, Issue.name, String.toList_append, String.toList_append]
  have htrimmed : Trimmed ("Note for ".toList ++ (lead.toList ++ i.key.toList)) := by
    constructor
    · intro c hc
      rw [← Option.some.inj (Option.mem_def.1 hc)]
      rfl
    · intro c hc
      have hkey : i.key.toList ≠ [] := fun hnil => hne (String.toList_eq_nil_iff.1 hnil)
      have hlast : i.key.toList.getLast?.isSome = true := List.getLast?_isSome.2 hkey
      rw [List.getLast?_append, List.getLast?_append, Option.or_assoc,
        Option.or_of_isSome hlast] at hc
      exact hback c hc
  rw [anchorName, htitle, htrimmed.trimChars_eq, foldRuns, foldRunsFrom_append, foldRunsFrom_append]
  have hbefore : foldRunsFrom '_' false "Note for ".toList = noteFront := by decide
  have hblank : endsBlank false "Note for ".toList = true := by decide
  rw [hbefore, hblank, ← List.append_assoc]
  rfl

/-- No chapter has the anchor of a note. -/
theorem anchorName_ne_note {title : String} (h : title ∈ Chapter.titles) (lead : String)
    (key : List Char) : anchorName title ≠ String.ofList (foldedLead lead ++ key) := by
  have hfront : ∀ title ∈ Chapter.titles,
      noteFront.isPrefixOf (anchorName title).toList = false := by
    decide +kernel
  intro he
  have hname : (anchorName title).toList = foldedLead lead ++ key :=
    (congrArg String.toList he).trans String.toList_ofList
  have hprefix : noteFront <+: (anchorName title).toList := by
    rw [hname, foldedLead, List.append_assoc]
    exact List.prefix_append _ _
  exact Bool.false_ne_true ((hfront title h).symm.trans (List.isPrefixOf_iff_prefix.2 hprefix))

/-- Anchors are different exactly if the folded keys are: chapters and notes never share one. -/
theorem nodup_anchors_iff (lead : String) (is : List Issue) :
    (Chapter.titles.map anchorName ++
      is.map fun i => String.ofList (foldedLead lead ++ foldedKey lead i.key)).Nodup ↔
      (is.map fun i => foldedKey lead i.key).Nodup := by
  have hinj : Function.Injective fun key => String.ofList (foldedLead lead ++ key) :=
    fun key key' he =>
    List.append_cancel_left (String.ofList_injective he)
  have hnotes : (is.map fun i => String.ofList (foldedLead lead ++ foldedKey lead i.key)) =
      (is.map fun i => foldedKey lead i.key).map fun key =>
          String.ofList (foldedLead lead ++ key) := by
    rw [List.map_map]
    rfl
  rw [hnotes, List.nodup_append, List.nodup_map_iff hinj]
  refine ⟨fun h => h.2.1, fun h => ⟨by decide, h, fun anchor hanchor anchor' hanchor' => ?_⟩⟩
  obtain ⟨title, htitle, rfl⟩ := List.mem_map.1 hanchor
  obtain ⟨key, -, rfl⟩ := List.mem_map.1 hanchor'
  exact anchorName_ne_note htitle lead key

/-! ## The sections of a page -/

/-- Sections and those below them: all that a page has headings and entries for. -/
def withBelow (ss : List Section) : List Section :=
  ss ++ ss.flatMap (·.subsections)

/-- The issues whose notes are on the page. -/
def rendered (x : Chapter.Subject) (is : List Issue) (outcomes : List Outcome) : List Issue :=
  is.filter fun i => (Chapter.treat x.lead outcomes i).note?.isSome

theorem titles_notes (x : Chapter.Subject) (is : List Issue) (outcomes : List Outcome) :
    (Chapter.issues x is outcomes).chapter.subsections.map (·.title) =
      (rendered x is outcomes).map (Chapter.noteTitle x.lead) := by
  unfold Chapter.issues rendered
  induction is with
  | nil => rfl
  | cons i is ih =>
    simp only [List.filterMap_cons, List.filter_cons] at ih ⊢
    cases Chapter.treat x.lead outcomes i with
    | shown n => exact congrArg (Chapter.noteTitle x.lead i :: ·) ih
    | nothing | missing | failed => exact ih

/-- The chapters that are made of the fragments of a summary. -/
structure Fragments (s : Summary) where
  overview : Section
  newFeatures : Section
  verification : Section
  overview_eq : Chapter.overview s = .ok overview
  newFeatures_eq : Chapter.newFeatures s = .ok newFeatures
  verification_eq : Chapter.verification s = .ok verification

namespace Fragments

variable {s : Summary}

/-- The chapters of a page about the issues of a list. -/
def chapters (f : Fragments s) (x : Chapter.Subject) (is : List Issue) (outcomes : List Outcome) :
    List Section :=
  [f.overview, f.newFeatures, Chapter.bugFixes x is, (Chapter.issues x is outcomes).chapter,
    Chapter.environment s x.product, f.verification]

theorem titles_chapters (f : Fragments s) (x : Chapter.Subject) (is : List Issue)
    (outcomes : List Outcome) : (f.chapters x is outcomes).map (·.title) = Chapter.titles := by
  unfold chapters
  simp only [List.map_cons, List.map_nil]
  rw [Chapter.title_of_ofFragment f.overview_eq, Chapter.title_of_ofFragment f.newFeatures_eq,
    Chapter.title_of_ofFragment f.verification_eq]
  rfl

/-- Of the chapters only the one on issues has sections below. -/
theorem below_chapters (f : Fragments s) (x : Chapter.Subject) (is : List Issue)
    (outcomes : List Outcome) :
    (f.chapters x is outcomes).flatMap (·.subsections) =
    (Chapter.issues x is outcomes).chapter.subsections := by
  obtain ⟨overview, newFeatures, verification, hoverview, hnewFeatures, hverification⟩ := f
  obtain ⟨_, rfl⟩ := Chapter.ofFragment_ok hoverview
  obtain ⟨_, rfl⟩ := Chapter.ofFragment_ok hnewFeatures
  obtain ⟨_, rfl⟩ := Chapter.ofFragment_ok hverification
  simp [chapters, Chapter.bugFixes, Chapter.environment]

/-- The titles of a page: those of the chapters and those of the notes. -/
theorem titles_withBelow (f : Fragments s) (x : Chapter.Subject) (is : List Issue)
    (outcomes : List Outcome) : (withBelow (f.chapters x is outcomes)).map (·.title) =
      Chapter.titles ++ (rendered x is outcomes).map (Chapter.noteTitle x.lead) := by
  rw [withBelow, f.below_chapters, List.map_append, f.titles_chapters, titles_notes]

/-- The anchors of a page. -/
theorem anchors_withBelow (f : Fragments s) (x : Chapter.Subject) {is : List Issue}
    (outcomes : List Outcome)
    (hnamed : ∀ i ∈ is, i.key ≠ "" ∧ ∀ c ∈ i.key.toList.getLast?, isBlank c = false) :
    (withBelow (f.chapters x is outcomes)).map (fun s => anchorName s.title) =
      Chapter.titles.map anchorName ++
        (rendered x is outcomes).map fun i =>
        String.ofList (foldedLead x.lead ++ foldedKey x.lead i.key) := by
  have hnotes : (rendered x is outcomes).map (fun i => anchorName (Chapter.noteTitle x.lead i)) =
      (rendered x is outcomes).map fun i =>
        String.ofList (foldedLead x.lead ++ foldedKey x.lead i.key) :=
    List.map_congr_left fun i hi =>
      anchorName_noteTitle x.lead (hnamed i (List.mem_of_mem_filter hi)).1
        (hnamed i (List.mem_of_mem_filter hi)).2
  have htitles := congrArg (List.map anchorName) (f.titles_withBelow x is outcomes)
  rw [List.map_map, List.map_append, List.map_map] at htitles
  rw [← hnotes]
  exact htitles

/-- **Where the links of a page lead.** The link of a chapter leads to the heading of its own title
and to no other. All links of the page lead to their own headings only, those of the notes included,
exactly if no two keys of issues with notes fold alike; keys without blanks never do. -/
theorem chapter_links {path : Disk.Path} {naming : Naming} {bytes : List UInt8} {list : BugList}
    (h : ofBytes path naming bytes = .ok list) (f : Fragments s) (x : Chapter.Subject)
    (outcomes : List Outcome) :
    (∀ c ∈ f.chapters x list.issues outcomes,
      ∀ t ∈ withBelow (f.chapters x list.issues outcomes), ∀ level,
      LeadsTo c.entry (t.heading level) ↔ t.title = c.title) ∧
    (LeadApart (withBelow (f.chapters x list.issues outcomes)) ↔
      ((rendered x list.issues outcomes).map fun i => foldedKey x.lead i.key).Nodup) ∧
    ((∀ i ∈ rendered x list.issues outcomes, ∀ c ∈ i.key.toList, isBlank c = false) →
      LeadApart (withBelow (f.chapters x list.issues outcomes))) := by
  have hnamed := ofBytes_named h
  have hiff : LeadApart (withBelow (f.chapters x list.issues outcomes)) ↔
      ((rendered x list.issues outcomes).map fun i => foldedKey x.lead i.key).Nodup := by
    rw [leadApart_iff, f.anchors_withBelow x outcomes hnamed, nodup_anchors_iff]
  refine ⟨fun c hc t ht level => ?_, hiff, fun hblank => hiff.2 ?_⟩
  · rw [leadsTo_iff]
    have hc : c.title ∈ Chapter.titles :=
      f.titles_chapters x list.issues outcomes ▸ List.mem_map_of_mem hc
    have ht := List.mem_map_of_mem (f := (·.title)) ht
    rw [f.titles_withBelow, List.mem_append] at ht
    refine ⟨fun he => ?_, fun he => by rw [he]⟩
    obtain ht | ht := ht
    · exact (List.inj_on_of_nodup_map (f := anchorName) (by decide) hc ht he).symm
    · obtain ⟨i, hi, hnote⟩ := List.mem_map.1 ht
      have hi := hnamed i (List.mem_of_mem_filter hi)
      rw [← hnote, anchorName_noteTitle x.lead hi.1 hi.2] at he
      exact absurd he (anchorName_ne_note hc _ _)
  · have hkeys : (rendered x list.issues outcomes).map (fun i => foldedKey x.lead i.key) =
        ((rendered x list.issues outcomes).map (·.key)).map String.toList := by
      rw [List.map_map]
      exact List.map_congr_left fun i hi => foldRunsFrom_of_not_blank _ _ (hblank i hi)
    rw [hkeys, List.nodup_map_iff fun _ _ => String.toList_injective]
    exact (ofBytes_distinct h).sublist (List.filter_sublist.map _)

/-! ### A sample -/

/-- The keys of both records fold alike. -/
def aliasedList : String :=
  "DERBY-1 2\tA\t\t1\nDERBY-1_2\tB\t\t2\n"

def aliased : List Issue := [
  { key := "1 2", title := "A", address := "browse/DERBY-1 2", noteAddress := some "note/1",
    status := .attached },
  { key := "1_2", title := "B", address := "browse/DERBY-1_2", noteAddress := some "note/2",
    status := .attached }]

def aliasedOutcomes : List Outcome :=
  aliased.map fun issue =>
    { issue, note := some ⟨.ofText "p" "s", .ofText "div" "d"⟩, incident := none }

def sampleSubject : Chapter.Subject :=
  ⟨"2", "1", "DERBY-", "Derby"⟩

def emptyChapter (title : String) : Section :=
  { title, body := (Element.named "div").appendContent (Element.named "div") }

def sampleFragments : Fragments ⟨"2", "1", "", "", "", "", "", "", "", "", "", "", ""⟩ where
  overview := emptyChapter Chapter.overviewTitle
  newFeatures := emptyChapter Chapter.newFeaturesTitle
  verification := emptyChapter Chapter.verificationTitle
  overview_eq := rfl
  newFeatures_eq := rfl
  verification_eq := rfl

/-- Two keys that differ in a blank and an underscore share an anchor. -/
theorem chapter_links_sample :
    ofBytes (Disk.Path.read "bugs.txt") sampleNaming (Utf8.encode aliasedList) =
    .ok ⟨aliased, none⟩ ∧
      rendered sampleSubject aliased aliasedOutcomes = aliased ∧
      ¬LeadApart (withBelow (sampleFragments.chapters sampleSubject aliased aliasedOutcomes)) := by
  have hlist : ofBytes (Disk.Path.read "bugs.txt") sampleNaming (Utf8.encode aliasedList) =
      .ok ⟨aliased, none⟩ :=
    ok_of_toOption (by decide +kernel)
  have hrendered : rendered sampleSubject aliased aliasedOutcomes = aliased := by decide +kernel
  obtain ⟨-, hiff, -⟩ := chapter_links hlist sampleFragments sampleSubject aliasedOutcomes
  refine ⟨hlist, hrendered, fun hapart => ?_⟩
  rw [hiff, hrendered] at hapart
  exact absurd hapart (by decide +kernel)

end Fragments

end Pamphlet.Page
