import Pamphlet.Proofs.Job.History
import Pamphlet.Proofs.Page.Blocks
import Pamphlet.Proofs.Page.Treatment

/-!
# A delivered page accounts for every issue

Every issue of the bug list has its row in the table of bug fixes, in the order of the list, and is
either a section of the chapter on issues, or among those that still need a note, or needs none; an
issue whose note could not be had is reported once (`Accounts`). `run_accounts` says this of every
run that delivers, whatever the tracker answers.
-/

namespace Pamphlet.Job

open Pamphlet.Release Pamphlet.Page Pamphlet.Markup BugList Act

/-- The links of the cells of a row: where they lead and what they say. -/
def rowLinks (row : Element) : List (Option String × Option String) :=
  (row.grandchildrenNamed "td" "a").map fun link => (link.attributes.get? "href", link.text)

/-- What the links in the elements of a tag inside a block say. -/
def headingTexts (tag : String) (block : Element) : List (Option String) :=
  (block.grandchildrenNamed tag "a").map (·.text)

/-- A page and a result that account for each issue of a list once. The page is the one before its
variables are filled in. -/
structure Accounts (source : Release.Source) (is : List Issue) (p : Page) (r : Result) : Prop where
  distinct : Distinct is
  /-- After its headlines the table has a row for each issue, in their order. -/
  rows : ∃ block headlines rows, p.under? Chapter.bugFixesTitle = some block ∧
    block.grandchildrenNamed "table" "tr" = headlines :: rows ∧ rowLinks headlines = [] ∧
    rows.map rowLinks = is.map fun i => [(some i.address, some (source.lead ++ i.key))]
  /-- The sections of the chapter are the notes that have been fetched and read. -/
  sections : ∃ chapter, p.under? Chapter.issuesTitle = some (Section.block mainLevel chapter) ∧
    chapter.subsections =
      (source.shown is).map (fun s => Chapter.noteSection source.lead s.1 s.2) ∧
    headingTexts "h3" (chapter.block mainLevel) =
      (source.shown is).map fun s => some ("Note for " ++ (source.lead ++ s.1.key))
  missing : r.missing = (source.owed is).map (·.key)
  /-- Each note that could not be had is reported once, by the name of its issue. -/
  incidents : r.incidents = (source.failures is).map fun s =>
    .ofFault ("Unable to read or parse release note for " ++ (source.lead ++ s.1.key)) s.2
  /-- An issue that needs no note is neither shown nor missing, and any other one is either. -/
  once : ∀ i ∈ is,
    (i.status = .notNeeded → (∀ n, (i, n) ∉ source.shown is) ∧ i.key ∉ r.missing) ∧
    (i.status ≠ .notNeeded → ((∃ n, (i, n) ∈ source.shown is) ↔ i.key ∉ r.missing))

/-! ## The table of bug fixes -/

/-- The row of an issue has one link: its name, with its address. -/
theorem rowLinks_issueRow (lead : String) (i : Issue) :
    rowLinks (Chapter.issueRow lead i) = [(some i.address, some (lead ++ i.key))] := rfl

/-- All rows of the table stand in the block of the chapter on bug fixes. -/
theorem bugFixes_rows (x : Chapter.Subject) (is : List Issue) :
    ((Chapter.bugFixes x is).block mainLevel).grandchildrenNamed "table" "tr" =
      { Part.row with children := ["Issue Id", "Description"].map (.ofText "th") } ::
        is.map (Chapter.issueRow x.lead) := by
  have hrows : (is.map (Chapter.issueRow x.lead)).filter (·.hasTag "tr") =
      is.map (Chapter.issueRow x.lead) := by
    rw [List.filter_eq_self]
    intro row hrow
    obtain ⟨i, -, rfl⟩ := List.mem_map.1 hrow
    rfl
  have hblock : ((Chapter.bugFixes x is).block mainLevel).childrenNamed "table" =
      [Chapter.bugFixesTable x is] := rfl
  unfold Element.grandchildrenNamed
  rw [hblock, List.flatMap_singleton]
  unfold Element.childrenNamed Chapter.bugFixesTable
  simp only
  rw [List.filter_append, hrows]
  rfl

/-! ## The chapter on issues -/

/-- The headings in the chapter of issues are the titles of its sections. -/
theorem issues_headings (x : Chapter.Subject) (is : List Issue) (outcomes : List Outcome) :
    headingTexts "h3" ((Chapter.issues x is outcomes).chapter.block mainLevel) =
      (Chapter.issues x is outcomes).chapter.subsections.map fun s => some s.title := by
  have hchildren : ((Chapter.issues x is outcomes).chapter.block mainLevel).childrenNamed "h3" =
      (Section.blocksOf true (mainLevel + 1)
        (Chapter.issues x is outcomes).chapter.subsections).filter (·.hasTag "h3") := rfl
  unfold headingTexts Element.grandchildrenNamed
  rw [hchildren, headings_blocksOf (by decide) (by decide) (by decide), List.flatMap_map,
    List.map_flatMap]
  induction (Chapter.issues x is outcomes).chapter.subsections with
  | nil => rfl
  | cons s rest ih =>
    rw [List.flatMap_cons, ih]
    rfl

/-! ## Runs -/

section

variable {a : Assignment} {disk : Disk} {m : Material}

/-- The chapters have different anchors, so each is found under its own title. -/
theorem under?_chapter (h : m.From a disk) (before : List Page.Section) (chapter : Page.Section)
    {after : List Page.Section} (hchapters : m.chapters a = before ++ chapter :: after) :
    (m.page a).under? chapter.title = some (chapter.block mainLevel) := by
  have hanchors : ((m.chapters a).map fun s => anchorName s.title).Nodup := by
    have htitles : (m.chapters a).map (fun s => anchorName s.title) =
        Chapter.titles.map anchorName := by
      rw [← h.titles, List.map_map]
      rfl
    rw [htitles]
    decide
  rw [hchapters, List.map_append, List.map_cons, List.nodup_append] at hanchors
  unfold Material.page
  rw [under?_attach_all rfl, hchapters, List.find?_append]
  have hbefore : before.find? (fun s => anchorName s.title == anchorName chapter.title) = none := by
    rw [List.find?_eq_none]
    intro s hs
    have hne := hanchors.2.2 _ (List.mem_map_of_mem hs) _ List.mem_cons_self
    simpa using hne
  rw [hbefore]
  simp

theorem issuesChapter_eq (a : Assignment) (m : Material) :
    m.issuesChapter a =
      Chapter.issues (m.subject a) m.list.issues
        (a.source.fetchAll a.settings.concurrency a.picks m.list.issues).outcomes := rfl

theorem subject_lead (a : Assignment) (m : Material) : (m.subject a).lead = a.source.lead := rfl

/-- The table of bug fixes has the rows of the issues. -/
theorem rows_account (h : m.From a disk) :
    ∃ block headlines rows, (m.page a).under? Chapter.bugFixesTitle = some block ∧
      block.grandchildrenNamed "table" "tr" = headlines :: rows ∧ rowLinks headlines = [] ∧
      rows.map rowLinks =
        m.list.issues.map fun i => [(some i.address, some (a.source.lead ++ i.key))] := by
  have hunder : (m.page a).under? Chapter.bugFixesTitle =
      some ((Chapter.bugFixes (m.subject a) m.list.issues).block mainLevel) :=
    under?_chapter h [m.overview, m.newFeatures]
      (Chapter.bugFixes (m.subject a) m.list.issues) rfl
  refine ⟨_, _, _, hunder, bugFixes_rows (m.subject a) m.list.issues, rfl, ?_⟩
  rw [List.map_map]
  refine List.map_congr_left fun i _ => ?_
  rw [← subject_lead a m]
  exact rowLinks_issueRow (m.subject a).lead i

/-- The chapter on issues has the notes that are shown. -/
theorem sections_account (h : m.From a disk) (hdistinct : Distinct m.list.issues) :
    ∃ chapter, (m.page a).under? Chapter.issuesTitle = some (Section.block mainLevel chapter) ∧
      chapter.subsections =
        (a.source.shown m.list.issues).map
          (fun s => Chapter.noteSection a.source.lead s.1 s.2) ∧
      headingTexts "h3" (chapter.block mainLevel) =
        (a.source.shown m.list.issues).map
          fun s => some ("Note for " ++ (a.source.lead ++ s.1.key)) := by
  have hunder : (m.page a).under? Chapter.issuesTitle =
      some ((m.issuesChapter a).chapter.block mainLevel) :=
    under?_chapter h
      [m.overview, m.newFeatures, Chapter.bugFixes (m.subject a) m.list.issues]
      (m.issuesChapter a).chapter rfl
  have hsections : (m.issuesChapter a).chapter.subsections = _ :=
    issues_subsections hdistinct (subject_lead a m)
  refine ⟨(m.issuesChapter a).chapter, hunder, hsections, ?_⟩
  rw [issuesChapter_eq, issues_headings, ← issuesChapter_eq, hsections, List.map_map]
  rfl

/-- **A delivered page accounts for every issue**: a run that delivers has read a summary and a bug
list, its page is made of them, and the table of bug fixes, the notes shown, the issues that still
need one and the incidents are those of the issues of the list. -/
theorem run_accounts {r : Result} {k : Job} (h : run a (.new disk) = (.ok r, k)) :
    ∃ m : Material, m.From a disk ∧ k.page = some (m.filledPage a) ∧
      Accounts a.source m.list.issues (m.page a) r := by
  obtain ⟨m, hm, rfl, w, -⟩ := delivered_work h
  obtain ⟨bytes, -, hlist⟩ := hm.list
  have hdistinct : Distinct m.list.issues := ofBytes_distinct hlist
  have hmissing : k.missing = a.source.owed m.list.issues := by
    rw [show k.missing = (m.issuesChapter a).missing from congrArg Work.missing w,
      issuesChapter_eq, issues_missing hdistinct (subject_lead a m)]
  have hincidents : k.incidents = (a.source.failures m.list.issues).map fun s =>
      .ofFault (unreadable a.source.lead s.1) s.2 := by
    rw [show k.incidents = (m.issuesChapter a).incidents from congrArg Work.incidents w,
      issuesChapter_eq, issues_incidents hdistinct (subject_lead a m)]
  have hkeys : (k.result a).missing = (a.source.owed m.list.issues).map (·.key) := by
    rw [← hmissing]
    rfl
  refine ⟨m, hm, congrArg Work.page w, hdistinct, rows_account hm, sections_account hm hdistinct,
    hkeys, hincidents, ?_⟩
  intro i hi
  rw [hkeys, key_mem_owed_iff hdistinct hi]
  exact treated_once hi

end

/-- A bug list with an issue of each kind: two with notes, of which one can be had, one without its
note and one that needs none. -/
def sampleDisk : Disk where
  home := []
  files := [
    (["summary.xml"], Text.Utf8.encode
      "<summary><releaseID>2</releaseID><previousReleaseID>1</previousReleaseID></summary>"),
    (["bugs.txt"], Text.Utf8.encode "1\tA\t\t7\n2\tB\t\tmissing\n3\tC\n4\tD\t\t8\n")]
  folders := []

def sampleAssignment : Assignment where
  name := "sample"
  summaryPath := ⟨"", ["summary.xml"]⟩
  bugListPath := ⟨"", ["bugs.txt"]⟩
  outputPath := ⟨"", ["notes.html"]⟩
  settings := .standard
  tracker := .steady fun address =>
    if address = "https://issues.apache.org/jira/secure/attachment/7/releaseNote.html" then
      .reply
        { body :=
            Text.Utf8.encode "<body><h4>Summary of Change</h4><p>New.</p><p>More.</p></body>" }
    else .lost "ConnectError" "All connection attempts failed"
  followed := true
  picks := []
  threads := .absent

/-- A run with one note that is fetched and shown. -/
theorem run_accounts_sample :
    ∃ r k, run sampleAssignment (.new sampleDisk) = (.ok r, k) ∧
      ∃ m : Material, m.From sampleAssignment sampleDisk ∧
        k.page = some (m.filledPage sampleAssignment) ∧
        Accounts sampleAssignment.source m.list.issues (m.page sampleAssignment) r := by
  have hok : (run sampleAssignment (.new sampleDisk)).1.isOk = true := by
    decide +kernel
  rcases hrun : run sampleAssignment (.new sampleDisk) with ⟨result, k⟩
  rw [hrun] at hok
  cases result with
  | error e => cases hok
  | ok r => exact ⟨r, k, rfl, run_accounts hrun⟩

end Pamphlet.Job
