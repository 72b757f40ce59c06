import Pamphlet.Proofs.Job.Accounts
import Pamphlet.Proofs.Job.Likeness
import Pamphlet.Proofs.Page.Omission
import Pamphlet.Proofs.Release.Requests

/-!
# One note does not affect another

Two runs over the same files whose trackers answer alike all requests made for the noted issues of
the bug list, but for one issue, differ in nothing but the parts that are this issue's own
(`run_isolates`): they end the same way; without the entry, the line, the heading and the block of
its note their pages are the same when variables have been filled in; and without its entries among
the missing notes and the incidents so are their results, the timings and the digest apart.

How the runs end does not even depend on the other answers (`run_ends_alike`). The pages are made of
one material, and only the notes that are shown tell them apart (`Material.pageWith`).
-/

namespace Pamphlet

open Pamphlet.Release Pamphlet.Page Pamphlet.Markup BugList Act

namespace Material

variable {a : Assignment} {disk : Disk} {m m' : Material}

/-- Files say one thing. -/
theorem From.unique (h : m.From a disk) (h' : m'.From a disk) : m' = m := by
  obtain ⟨summary, list, warnings, overview, newFeatures, verification⟩ := m
  obtain ⟨summary', list', warnings', overview', newFeatures', verification'⟩ := m'
  obtain ⟨⟨bytes, hbytes, hsummary⟩, ⟨lines, hlines, hlist⟩, hwarnings, ho, hn, hv⟩ := h
  obtain ⟨⟨bytes', hbytes', hsummary'⟩, ⟨lines', hlines', hlist'⟩, hwarnings', ho', hn', hv'⟩ := h'
  obtain rfl := Except.ok.inj (hbytes.symm.trans hbytes')
  obtain rfl := Except.ok.inj (hsummary.symm.trans hsummary')
  obtain rfl := Except.ok.inj (hlines.symm.trans hlines')
  obtain rfl := Except.ok.inj (hlist.symm.trans hlist')
  obtain rfl := Except.ok.inj (hwarnings.symm.trans hwarnings')
  obtain rfl := Except.ok.inj (ho.symm.trans ho')
  obtain rfl := Except.ok.inj (hn.symm.trans hn')
  obtain rfl := Except.ok.inj (hv.symm.trans hv')
  rfl

/-- The list of a material is the one that its file holds. -/
theorem From.list_eq {bytes : List UInt8} {list : BugList} (h : m.From a disk)
    (hread : disk.read a.bugListPath = .ok bytes)
    (hlist : BugList.ofBytes a.bugListPath a.settings.naming bytes = .ok list) : m.list = list := by
  obtain ⟨bytes', hbytes', hlist'⟩ := h.list
  obtain rfl := Except.ok.inj (hread.symm.trans hbytes')
  exact Except.ok.inj (hlist'.symm.trans hlist)

/-- A material does not depend on the tracker. -/
theorem From.answered {tracker : Tracker} {picks : List Nat}
    (h : m.From (a.answered tracker picks) disk) : m.From a disk :=
  ⟨h.summary, h.list, h.previous, h.overview, h.newFeatures, h.verification⟩

variable (a m)

/-- The chapter on issues, with given notes. -/
def issuesWith (x : Chapter.Subject) (notes : List Page.Section) : Page.Section where
  title := Chapter.issuesTitle
  body := (Element.named "div").append (Part.paragraph (Chapter.issuesText x))
  subsections := notes
  hasContents := true
  ruled := true

/-- The chapter of issues differs from run to run in its sections only. -/
theorem chapter_issues (x : Chapter.Subject) (is : List Issue) (outcomes : List Outcome) :
    (Chapter.issues x is outcomes).chapter =
      issuesWith x (Chapter.issues x is outcomes).chapter.subsections := rfl

/-- The page with given notes, when its variables have been filled in. -/
def pageWith (notes : List Page.Section) : Page :=
  ([m.overview, m.newFeatures, Chapter.bugFixes (m.subject a) m.list.issues,
    issuesWith (m.subject a) notes, Chapter.environment m.summary a.settings.product,
    m.verification].foldl Page.attach (.new pageTitle introduction)).fill
    (m.summary.values a.settings.product)

theorem filledPage_eq : m.filledPage a = m.pageWith a (m.issuesChapter a).chapter.subsections := by
  have hchapter : (m.issuesChapter a).chapter =
      issuesWith (m.subject a) (m.issuesChapter a).chapter.subsections := chapter_issues ..
  unfold filledPage page pageWith chapters
  rw [← hchapter]

theorem pageWith_answered (tracker : Tracker) (picks : List Nat) (notes : List Page.Section) :
    m.pageWith (a.answered tracker picks) notes = m.pageWith a notes := rfl

/-- A page without one note is the page of the other notes. -/
theorem omitNote_pageWith (n : Nat) (notes : List Page.Section) :
    (m.pageWith a notes).omitNote n = m.pageWith a (notes.eraseIdx n) := by
  have hblock : omitAt n (Substitution.fillTree (m.summary.values a.settings.product)
      (Section.block mainLevel (issuesWith (m.subject a) notes))) = _ :=
    omitAt_block (.filled (m.summary.values a.settings.product)) mainLevel
      (issuesWith (m.subject a) notes) rfl rfl rfl n
  have hplace : issuesPlace = 7 := by decide
  unfold omitNote pageWith Page.fill
  simp only [blocks_attach_all, hplace]
  simp only [List.flatMap_cons, List.map_cons, List.cons_append, List.nil_append,
    List.modify_succ_cons, List.modify_zero_cons, Page.new, hblock]
  rfl

/-- The elements of a note on a page are those that show its section. -/
theorem noteParts_pageWith (n : Nat) (notes : List Page.Section) :
    (m.pageWith a notes).noteParts n =
      notes[n]?.toList.flatMap fun t =>
        ((Wording.filled (m.summary.values a.settings.product)).shown (mainLevel + 1) t).parts := by
  have hblock : partsAt n (Substitution.fillTree (m.summary.values a.settings.product)
      (Section.block mainLevel (issuesWith (m.subject a) notes))) = _ :=
    partsAt_block (.filled (m.summary.values a.settings.product)) mainLevel
      (issuesWith (m.subject a) notes) rfl rfl rfl n
  have hplace : issuesPlace = 7 := by decide
  unfold noteParts pageWith Page.fill
  simp only [blocks_attach_all, hplace]
  simp only [List.flatMap_cons, List.map_cons, List.cons_append, List.nil_append, Page.new,
    List.getElem?_cons_succ, List.getElem?_cons_zero, Option.elim_some]
  exact hblock

end Material

/-! ## The note of an issue on a page -/

/-- What a page shows of the note of an issue of a list: nothing if the note cannot be had. -/
def noteElements (source : Release.Source) (is : List Issue) (k : Issue)
    (values : Substitution.Values) : List Element :=
  (source.noteFor is k).toOption.toList.flatMap fun n =>
    ((Wording.filled values).shown (mainLevel + 1) (Chapter.noteSection source.lead k n)).parts

namespace Material

variable {a : Assignment} {m : Material} {k : Issue}

/-- The chapter of issues has a section for each note that can be shown, in the order of the
list. -/
theorem subsections_eq (hdistinct : Distinct m.list.issues) :
    (m.issuesChapter a).chapter.subsections =
      (a.source.shown m.list.issues).map fun s => Chapter.noteSection a.source.lead s.1 s.2 :=
  issues_subsections hdistinct rfl

/-- At the place of an issue a page shows its note. -/
theorem noteParts_filledPage (hdistinct : Distinct m.list.issues) (hk : k ∈ m.list.issues)
    (hnote : k.hasNote = true) :
    (m.filledPage a).noteParts (a.source.placeOf m.list.issues k) =
      noteElements a.source m.list.issues k (m.summary.values a.settings.product) := by
  rw [filledPage_eq, noteParts_pageWith, subsections_eq hdistinct, List.getElem?_map,
    shown_placeOf hdistinct hk hnote]
  unfold noteElements
  cases a.source.noteFor m.list.issues k <;> rfl

/-- The rest of the page is made of the notes of the other issues. -/
theorem omitNote_filledPage (hdistinct : Distinct m.list.issues) :
    (m.filledPage a).omitNote (a.source.placeOf m.list.issues k) =
      m.pageWith a (((a.source.shown m.list.issues).filter (·.1.key ≠ k.key)).map fun s =>
        Chapter.noteSection a.source.lead s.1 s.2) := by
  rw [filledPage_eq, omitNote_pageWith, subsections_eq hdistinct, List.eraseIdx_map,
    shown_eraseIdx hdistinct]

end Material

/-! ## Results -/

/-- The message about a note tells which issue it is about. -/
theorem unreadable_inj {lead : String} {i k : Issue} :
    unreadable lead i = unreadable lead k ↔ i.key = k.key := by
  unfold unreadable Issue.name
  simp

/-- A result without what it says of one issue; the timings and the digest are left out, too. -/
def Result.without (lead : String) (k : Issue) (r : Result) : Result :=
  { r with
    digest := ""
    timings := []
    missing := r.missing.filter (· ≠ k.key)
    incidents := r.incidents.filter (·.message ≠ unreadable lead k) }

namespace Job

section

variable {a : Assignment} {tracker : Tracker} {is : List Issue} {k : Issue}

/-- What a result says of the other issues, by what a run has worked on. -/
theorem result_without {m : Material} {j : Job} {page : Option Page} {output : String}
    (hdistinct : Distinct m.list.issues)
    (w : j.work = { m.composed a j.disk with page, output }) :
    (j.result a).without a.source.lead k =
      { job := a.name
        output := a.outputPath.text
        sections := Chapter.titles
        issueCount := m.list.issues.length
        missing := ((a.source.owed m.list.issues).filter (·.key ≠ k.key)).map (·.key)
        warnings := m.warnings
        incidents := ((a.source.failures m.list.issues).filter (·.1.key ≠ k.key)).map fun s =>
          .ofFault (unreadable a.source.lead s.1) s.2 } := by
  have hissues : j.issues = m.list.issues := congrArg Work.issues w
  have htitles : j.titles = Chapter.titles := congrArg Work.titles w
  have hwarnings : j.warnings = m.warnings := congrArg Work.warnings w
  have hmissing : j.missing = a.source.owed m.list.issues :=
    (congrArg Work.missing w).trans (issues_missing hdistinct rfl)
  have hincidents : j.incidents = (a.source.failures m.list.issues).map fun s =>
      .ofFault (unreadable a.source.lead s.1) s.2 :=
    (congrArg Work.incidents w).trans (issues_incidents hdistinct rfl)
  unfold Result.without result
  simp only [hissues, htitles, hwarnings, hmissing, hincidents, List.filter_map]
  congr 2
  refine List.filter_congr fun s _ => ?_
  simp [Incident.ofFault, unreadable_inj]

/-- Trackers that answer the requests made for other issues alike give the same notes of these. -/
theorem sameBut_answered (picks : List Nat)
    (same : ∀ i ∈ is, i.hasNote = true → i.key ≠ k.key → ∀ r ∈ a.source.requestsFor is i,
      tracker.answer r = a.tracker.answer r) :
    SameBut k is a.source (a.answered tracker picks).source :=
  fun i hi hnote hkey => noteFor_congr (same i hi hnote hkey)

end

/-- The page of a job is the note of an issue and a rest. -/
def Parted (a : Assignment) (is : List Issue) (k : Issue) (j : Job) (rest : Page) : Prop :=
  ∃ p s, j.page = some p ∧ j.summary = some s ∧
    p.noteParts (a.source.placeOf is k) =
      noteElements a.source is k (s.values a.settings.product) ∧
    p.omitNote (a.source.placeOf is k) = rest

/-- Two runs over the same files that differ in nothing but the note of an issue. -/
structure Isolated (a a' : Assignment) (disk : Disk) (is : List Issue) (k : Issue) : Prop where
  /-- They end the same way, and their results say the same of the other issues. -/
  ends :
    (∃ r j r' j', run a (.new disk) = (.ok r, j) ∧ run a' (.new disk) = (.ok r', j') ∧
      r'.without a'.source.lead k = r.without a.source.lead k) ∨
    ∃ e j j', run a (.new disk) = (.error e, j) ∧ run a' (.new disk) = (.error e, j')
  /-- When variables have been filled in, their pages have the same rest. -/
  pages : ∀ j, (performAll a planBefore).on (.new disk) = (.ok (), j) →
    ∃ j' rest, (performAll a' planBefore).on (.new disk) = (.ok (), j') ∧
      Parted a is k j rest ∧ Parted a' is k j' rest

/-- **The note of one issue does not affect another.** If two trackers answer alike all requests
that are made for the other noted issues of a bug list that is read, then whatever they answer for
one issue, and in whatever order the downloads end, the runs differ in nothing but what they say of
this issue. -/
theorem run_isolates {a : Assignment} {disk : Disk} {bytes : List UInt8} {list : BugList}
    {k : Issue} (tracker : Tracker) (picks : List Nat) (hread : disk.read a.bugListPath = .ok bytes)
    (hlist : BugList.ofBytes a.bugListPath a.settings.naming bytes = .ok list)
    (hk : k ∈ list.issues) (hnote : k.hasNote = true)
    (same : ∀ i ∈ list.issues, i.hasNote = true → i.key ≠ k.key →
      ∀ r ∈ a.source.requestsFor list.issues i, tracker.answer r = a.tracker.answer r) :
    Isolated a (a.answered tracker picks) disk list.issues k where
  ends := by
    rcases run_ends_alike a tracker picks (.new disk) with ⟨r, j, r', j', hrun, hrun'⟩ | hfails
    · refine .inl ⟨r, j, r', j', hrun, hrun', ?_⟩
      obtain ⟨m, hm, rfl, w, -⟩ := delivered_work hrun
      obtain ⟨m', hm', rfl, w', -⟩ := delivered_work hrun'
      obtain rfl := hm.unique hm'.answered
      obtain rfl := hm.list_eq hread hlist
      have hdistinct := ofBytes_distinct hlist
      have hsame : SameBut k _ _ _ := sameBut_answered picks same
      rw [result_without hdistinct w, result_without hdistinct w', hsame.owed, hsame.failures]
      rfl
    · exact .inr hfails
  pages := by
    intro j h
    have hlikewise :=
      performAll_likewise a tracker picks write_not_mem_planBefore (.refl (.new disk))
    rw [h] at hlikewise
    obtain ⟨u, j', h'⟩ := hlikewise.of_ok
    obtain ⟨m, hm, w⟩ := filled_work h
    obtain ⟨m', hm', w'⟩ := filled_work h'
    obtain rfl := hm.unique hm'.answered
    obtain rfl := hm.list_eq hread hlist
    have hdistinct := ofBytes_distinct hlist
    have hsame : SameBut k _ _ _ := sameBut_answered picks same
    refine ⟨j', _, h', ⟨_, _, congrArg Work.page w, congrArg Work.summary w,
      m'.noteParts_filledPage hdistinct hk hnote, rfl⟩,
      ⟨_, _, congrArg Work.page w', congrArg Work.summary w',
      m'.noteParts_filledPage hdistinct hk hnote, ?_⟩⟩
    rw [m'.omitNote_filledPage hdistinct, m'.omitNote_filledPage hdistinct, hsame.shown,
      Material.pageWith_answered]
    rfl

/-- The tracker of the sample, but the second download finds a note. -/
def kinderTracker : Tracker where
  answer r :=
    if r.place = 1 then
      .reply
        { body :=
            Text.Utf8.encode "<body><h4>Summary of Change</h4><p>Old.</p><p>Less.</p></body>" }
    else sampleAssignment.tracker.answer r

/-- Two trackers that differ in the note of one issue. -/
theorem run_isolates_sample :
    ∃ bytes list k, sampleDisk.read sampleAssignment.bugListPath = .ok bytes ∧
      BugList.ofBytes sampleAssignment.bugListPath sampleAssignment.settings.naming bytes =
      .ok list ∧ k ∈ list.issues ∧ k.hasNote = true ∧
      (∀ i ∈ list.issues, i.hasNote = true → i.key ≠ k.key →
        ∀ r ∈ sampleAssignment.source.requestsFor list.issues i,
          kinderTracker.answer r = sampleAssignment.tracker.answer r) ∧
      Isolated sampleAssignment (sampleAssignment.answered kinderTracker []) sampleDisk list.issues
        k := by
  have hall : ((sampleDisk.read sampleAssignment.bugListPath).toOption.any fun bytes =>
      (BugList.ofBytes sampleAssignment.bugListPath sampleAssignment.settings.naming
        bytes).toOption.any fun list =>
          list.issues.any fun k => k.hasNote && list.issues.all fun i =>
            !i.hasNote || i.key = k.key || (list.issues.filter Issue.hasNote).idxOf i ≠ 1) =
      true := by
    decide +kernel
  rcases hread : sampleDisk.read sampleAssignment.bugListPath with problem | bytes
  · rw [hread] at hall
    cases hall
  rw [hread, Except.toOption, Option.any_some] at hall
  rcases hlist :
    BugList.ofBytes sampleAssignment.bugListPath sampleAssignment.settings.naming bytes with
    f | list
  · rw [hlist] at hall
    cases hall
  rw [hlist, Except.toOption, Option.any_some, List.any_eq_true] at hall
  obtain ⟨k, hk, hall⟩ := hall
  rw [Bool.and_eq_true, List.all_eq_true] at hall
  obtain ⟨hnote, hothers⟩ := hall
  have same : ∀ i ∈ list.issues, i.hasNote = true → i.key ≠ k.key →
      ∀ r ∈ sampleAssignment.source.requestsFor list.issues i,
        kinderTracker.answer r = sampleAssignment.tracker.answer r := by
    intro i hi hnoted hkey r hr
    have hplace : r.place ≠ 1 := by
      rw [Tracker.place_of_mem_requests hr]
      simpa [hnoted, hkey] using hothers i hi
    exact if_neg hplace
  exact ⟨bytes, list, k, rfl, hlist, hk, hnote, same,
    run_isolates kinderTracker [] hread hlist hk hnote same⟩

end Job

end Pamphlet
