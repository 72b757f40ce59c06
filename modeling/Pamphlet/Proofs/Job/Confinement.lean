import Pamphlet.Proofs.Disk.Shape
import Pamphlet.Proofs.Job.Completion
import Pamphlet.Proofs.Page.OneText

/-!
# One text of the files changes one place of the page

Titles of issues and texts on the build environment are foreign texts. Two runs over files that
differ in one such text write pages that differ in one place, where the text stands with its
variables filled in and escaped (`run_confines`): it can neither open nor close a tag, and nothing
else on the page depends on it. The page is made of a material in which only this text is another
one (`From.retitled`, `From.retold`), and attaching the chapters keeps it in its place
(`text_attach_all`).
-/

namespace Pamphlet

open Pamphlet.Release Pamphlet.Page Pamphlet.Markup Pamphlet.Text BugList Act Disk

/-! ## Materials that differ in one text -/

namespace Material

variable {a : Assignment} {disk disk' : Disk} {m : Material}

/-- The material with other issues. -/
def listing (m : Material) (issues : List Issue) : Material :=
  { m with list := { m.list with issues } }

/-- The material with another text on a topic. -/
def retold (m : Material) (t : Topic) (text : String) : Material :=
  { m with summary := m.summary.retold t text }

/-- Another title in the bug list makes the same material but for this title. -/
theorem From.retitled (hm : m.From a disk) {t : Slot} {title : List Char} {bytes : List UInt8}
    (hread : disk.read a.bugListPath = .ok bytes) (htitles : t.Titles title bytes) :
    ∃ before i after, m.list.issues = before ++ i :: after ∧ ∀ disk' title' bytes',
      disk'.read a.summaryPath = disk.read a.summaryPath → disk'.read a.bugListPath = .ok bytes' →
        '\t' ∉ title' → t.Holds title' bytes' →
          (m.listing (before ++ { i with title := String.ofList (trimChars title') } ::
            after)).From a disk' := by
  obtain ⟨bytes', hbytes', hlist⟩ := hm.list
  obtain rfl := Except.ok.inj (hread.symm.trans hbytes')
  obtain ⟨before, i, after, hissues, hothers⟩ := ofBytes_retitled htitles hlist
  refine ⟨before, i, after, hissues, fun disk' title' bytes' hsummary hread' htab hholds => ?_⟩
  refine ⟨?_, ⟨bytes', hread', hothers title' bytes' htab hholds⟩, hm.previous, hm.overview,
    hm.newFeatures, hm.verification⟩
  rw [hsummary]
  exact hm.summary

/-- The page with another title has that title in one place. -/
theorem text_listing (a : Assignment) (m : Material) {before : List Issue} {i : Issue}
    {after : List Issue} (hdistinct : Distinct (before ++ i :: after)) :
    ∃ first last, ∀ title, ((m.listing (before ++ { i with title } :: after)).filledPage a).text =
      first ++ escapeText (Substitution.fill (m.summary.values a.settings.product) title) ++
      last := by
  let notes := (a.source.shown (before ++ i :: after)).map fun s =>
      Chapter.noteSection a.source.lead s.1 s.2
  have hnotes : ∀ title, (m.listing (before ++ { i with title } :: after)).filledPage a =
      (m.listing (before ++ { i with title } :: after)).pageWith a notes := by
    intro title
    have hretitled := map_retitled title hdistinct
    have hdistinct' : Distinct (before ++ { i with title } :: after) :=
      hretitled ▸ distinct_retitled i.key title hdistinct
    have hshown := @map_shown_retitled a.source _ i.key title hdistinct a.source.lead
    rw [hretitled] at hshown
    rw [filledPage_eq, subsections_eq hdistinct']
    exact congrArg _ hshown
  obtain ⟨first, last, htext⟩ :=
    text_attach_all (.new pageTitle introduction) [m.overview, m.newFeatures]
    [issuesWith (m.subject a) notes, Chapter.environment m.summary a.settings.product,
      m.verification]
    Chapter.bugFixesTitle (fun _ => rfl) (fun _ => rfl)
    (showsFilled_bugFixes (m.summary.values a.settings.product) (m.subject a) before i after)
  refine ⟨first, last, fun title => ?_⟩
  rw [hnotes]
  exact htext title

/-- A chapter depends on its own fragment alone. -/
theorem ofFragment_congr {s s' : Summary} {t : Topic} (title : String) (h : s'.get t = s.get t) :
    Chapter.ofFragment title s' t = Chapter.ofFragment title s t := by
  unfold Chapter.ofFragment Summary.fragment
  rw [h]

/-- Another text for one topic of the environment makes the same material but for this text. -/
theorem From.retold (hm : m.From a disk) {t : Topic} (ht : t ∈ Chapter.environmentTopics.map (·.2))
    {text : String} (hlist : disk'.read a.bugListPath = disk.read a.bugListPath)
    (hsummary : ∃ bytes, disk'.read a.summaryPath = .ok bytes ∧
      Summary.ofBytes a.summaryPath bytes = .ok (m.summary.retold t text)) :
    (m.retold t text).From a disk' := by
  have hget := fun t' ht' => get_retold_environment m.summary ht t' ht' text
  refine ⟨hsummary, ?_, ?_, ?_, ?_, ?_⟩
  · rw [hlist]
    exact hm.list
  · change checkPrevious m.list.previous (m.summary.retold t text).previousReleaseId = _
    rw [previousReleaseId_retold m.summary ht]
    exact hm.previous
  · exact (ofFragment_congr _ (hget .overview (by decide))).trans hm.overview
  · exact (ofFragment_congr _ (hget .newFeatures (by decide))).trans hm.newFeatures
  · exact (ofFragment_congr _ (hget .releaseVerification (by decide))).trans hm.verification

/-- The page with another text on the build environment has that text in one place. -/
theorem text_retold (a : Assignment) (m : Material) {t : Topic}
    (ht : t ∈ Chapter.environmentTopics.map (·.2)) :
    ∃ first last, ∀ text, ((m.retold t text).filledPage a).text =
      first ++ escapeText (Substitution.fill (m.summary.values a.settings.product) text) ++
      last := by
  obtain ⟨first, last, htext⟩ := text_attach_all (.new pageTitle introduction)
    [m.overview, m.newFeatures, Chapter.bugFixes (m.subject a) m.list.issues,
      (m.issuesChapter a).chapter]
    [m.verification] Chapter.environmentTitle (fun _ => rfl) (fun _ => rfl)
    (showsFilled_environment (m.summary.values a.settings.product) m.summary a.settings.product ht)
  refine ⟨first, last, fun text => ?_⟩
  have hsubject : subjectOf a (m.summary.retold t text) = subjectOf a m.summary := by
    unfold subjectOf
    rw [releaseId_retold m.summary ht, previousReleaseId_retold m.summary ht]
  have hchapters : (m.retold t text).chapters a =
      [m.overview, m.newFeatures, Chapter.bugFixes (m.subject a) m.list.issues,
        (m.issuesChapter a).chapter, Chapter.environment
        (m.summary.retold t text) a.settings.product, m.verification] := by
    unfold chapters subject issuesChapter builtIssues retold
    rw [hsubject]
  have hvalues :
      (m.retold t text).summary.values a.settings.product = m.summary.values a.settings.product :=
    values_retold m.summary ht a.settings.product text
  rw [filledPage, page, hvalues, hchapters]
  exact htext text

end Material

/-! ## Runs -/

namespace Job

open Material

/-- What a page shows for a text: the text with its variables filled in, escaped. -/
def shown (a : Assignment) (s : Summary) (text : String) : String :=
  escapeText (Substitution.fill (s.values a.settings.product) text)

/-- Foreign texts in the files of a run are confined to their places on the page. The disks that are
compared differ in the bytes of files only. -/
structure Confined (a : Assignment) (disk : Disk) (s : Summary) : Prop where
  /-- With any other title in the place of that of a record, the run writes the same page but for
  the title. -/
  titles : ∀ t title bytes, disk.read a.bugListPath = .ok bytes → Slot.Titles t title bytes →
    ∃ first last, ∀ disk' title' bytes', SameShape disk disk' →
      disk'.read a.summaryPath = disk.read a.summaryPath → disk'.read a.bugListPath = .ok bytes' →
        '\t' ∉ title' → t.Holds title' bytes' →
          Writes a disk' (first ++ shown a s (String.ofList (trimChars title')) ++ last)
  /-- Any title without line ends can be put there. -/
  writable : ∀ t title bytes, Slot.Titles t title bytes →
    ∀ title', (∀ c ∈ title', isLineEnd c = false) → t.Holds title' (t.bytes title')
  /-- With any other text on one topic of the build environment, the run writes the same page but
  for the text. -/
  environment : ∀ t ∈ [Topic.machine, .antVersion, .jdk14, .java6, .compilers, .jsr169],
    ∃ first last, ∀ disk' bytes s', SameShape disk disk' →
      disk'.read a.bugListPath = disk.read a.bugListPath →
      disk'.read a.summaryPath = .ok bytes → Summary.ofBytes a.summaryPath bytes = .ok s' →
        (∀ t', t' ≠ t → s'.get t' = s.get t') →
          Writes a disk' (first ++ shown a s (s'.get t) ++ last)
  /-- No text can open or close a tag. -/
  plain : ∀ text, '<' ∉ (shown a s text).toList ∧ '>' ∉ (shown a s text).toList

/-- **A foreign text changes one place of the page and cannot become markup.** For a run that
delivers, with another title of a record or another text on a topic of the build environment the run
delivers, too, and the page it writes differs in nothing but the place of this text, which shows it
filled in and escaped. -/
theorem run_confines {a : Assignment} {disk : Disk} {r : Result} {k : Job}
    (h : run a (.new disk) = (.ok r, k)) : ∃ s, k.summary = some s ∧ Confined a disk s := by
  obtain ⟨m, hm, -, w, hwritten⟩ := delivered_work h
  have hwrites : ∀ {disk' : Disk}, SameShape disk disk' → ∀ page,
      (disk'.write a.outputPath (Utf8.encode page)).1 = .ok () := by
    intro disk' hshape page
    rw [hshape.write a.outputPath (Utf8.encode (m.filledPage a).text), hwritten]
  refine ⟨m.summary, congrArg Work.summary w, ?_, ?_, ?_, fun text => angle_not_mem_escapeText _⟩
  · intro t title bytes hread htitles
    obtain ⟨before, i, after, hissues, hfrom⟩ := hm.retitled hread htitles
    have hdistinct : Distinct (before ++ i :: after) := by
      obtain ⟨bytes', -, hlist⟩ := hm.list
      exact hissues ▸ ofBytes_distinct hlist
    obtain ⟨first, last, htext⟩ := text_listing a m hdistinct
    refine ⟨first, last, fun disk' title' bytes' hshape hsummary hread' htab hholds => ?_⟩
    have hwritten' :=
      writes_of_from (hfrom disk' title' bytes' hsummary hread' htab hholds) (hwrites hshape _)
    rwa [htext] at hwritten'
  · exact fun t title bytes htitles title' hends => htitles.holds.1.retitled hends
  · intro t ht
    obtain ⟨first, last, htext⟩ := text_retold a m ht
    refine ⟨first, last, fun disk' bytes s' hshape hlist hbytes hs hothers => ?_⟩
    rw [Summary.eq_retold hothers] at hs
    have hwritten' := writes_of_from (hm.retold ht hlist ⟨bytes, hbytes, hs⟩) (hwrites hshape _)
    rwa [htext] at hwritten'

/-- The place of the title of the first issue of the sample. -/
def sampleSlot : Slot where
  before := []
  key := ['1']
  more := [[], ['7']]
  after := ["2\tB\t\tmissing".toList, "3\tC".toList, "4\tD\t\t8".toList]

/-- A title that tries to be markup and holds a variable. -/
def hostileTitle : String :=
  "<b>\x7b\x7b releaseID \x7d\x7d & co"

/-- The sample with that title in the place. -/
def hostileDisk : Disk :=
  sampleDisk.putFile ["bugs.txt"] (sampleSlot.bytes hostileTitle.toList)

theorem titles_sampleSlot : sampleSlot.Titles ['A'] (sampleSlot.bytes ['A']) := by
  have hends :
      (sampleSlot.before ++ sampleSlot.line ['A'] :: sampleSlot.after).all (·.all (!isLineEnd ·)) =
      true := by
    decide
  simp only [List.all_eq_true, Bool.not_eq_true'] at hends
  obtain ⟨cs, hdecode, hlines⟩ := Slot.holds_bytes hends
  exact ⟨cs, _, hdecode, hlines, by decide⟩

/-- A title with markup in it stands on the page escaped. -/
theorem run_confines_sample :
    ∃ r k, run sampleAssignment (.new sampleDisk) = (.ok r, k) ∧
      (∃ s, k.summary = some s ∧ Confined sampleAssignment sampleDisk s) ∧
      ∃ first last, Writes sampleAssignment sampleDisk (first ++ "A" ++ last) ∧
        Writes sampleAssignment hostileDisk (first ++ "&lt;b&gt;2 &amp; co" ++ last) := by
  have hall : ((run sampleAssignment (.new sampleDisk)).1.isOk &&
      (run sampleAssignment (.new sampleDisk)).2.summary.all fun s =>
        shown sampleAssignment s "A" = "A" &&
          shown sampleAssignment s hostileTitle = "&lt;b&gt;2 &amp; co") = true := by
    decide +kernel
  rcases hrun : run sampleAssignment (.new sampleDisk) with ⟨result, k⟩
  rw [hrun] at hall
  cases result with
  | error e => cases hall
  | ok r =>
    obtain ⟨s, hs, hconfined⟩ := run_confines hrun
    refine ⟨r, k, rfl, ⟨s, hs, hconfined⟩, ?_⟩
    rw [hs] at hall
    obtain ⟨hplain, hhostile⟩ : shown sampleAssignment s "A" = "A" ∧
        shown sampleAssignment s hostileTitle = "&lt;b&gt;2 &amp; co" := by
      simpa [Except.isOk, Except.toBool] using hall
    have hread : sampleDisk.read sampleAssignment.bugListPath = .ok (sampleSlot.bytes ['A']) := by
      decide +kernel
    obtain ⟨first, last, hwrites⟩ := hconfined.titles sampleSlot ['A'] _ hread titles_sampleSlot
    refine ⟨first, last, ?_, ?_⟩
    · have hwritten :=
        hwrites sampleDisk ['A'] _ (.refl sampleDisk) rfl hread (by decide)
        titles_sampleSlot.holds.1
      rwa [show String.ofList (trimChars ['A']) = "A" from by decide, hplain] at hwritten
    · have hread' : hostileDisk.read sampleAssignment.bugListPath =
          .ok (sampleSlot.bytes hostileTitle.toList) := by
        decide +kernel
      have hwritten :=
        hwrites hostileDisk hostileTitle.toList _ (.of_putFile (by decide) _)
          (by decide +kernel) hread'
        (by decide) (titles_sampleSlot.holds.1.retitled (forall_of_all (by decide)))
      rwa [show String.ofList (trimChars hostileTitle.toList) = hostileTitle from by decide,
        hhostile] at hwritten

end Job

end Pamphlet
