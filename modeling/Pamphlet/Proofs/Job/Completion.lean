import Pamphlet.Proofs.Job.Isolation
import Pamphlet.Proofs.Job.Timings

/-!
# When a run delivers

If the files of an assignment say what its page is made of and the disk lets the page be written,
the run delivers, and what it writes is the page (`writes_of_from`): of the steps that may fail,
those that read find what they need (`act_ok_of_from`), and the last one writes what the material
makes.
-/

namespace Pamphlet.Job

open Pamphlet.Release Pamphlet.Page Act

/-- The run delivers, and this page is what it has written. -/
def Writes (a : Assignment) (disk : Disk) (page : String) : Prop :=
  ∃ r k place, run a (.new disk) = (.ok r, k) ∧ k.disk.locate a.outputPath = .ok place ∧
    k.disk.file? place = some (Text.Utf8.encode page)

variable {a : Assignment} {disk : Disk} {m : Material}

/-! ## Steps -/

/-- A step that may fail goes well if it finds the material, unless it writes. -/
theorem act_ok_of_from (hm : m.From a disk) {s : Step} {i : Job} (hs : s ∈ Step.fallible)
    (hwrite : s ≠ .write)
    (hdisk : i.disk = disk) (hmade : s ≠ .loadSummary → i.summary = some m.summary ∧
      ∃ p, i.page = some p) :
    ∃ detail i', (s.act a).on i = (.ok detail, i') := by
  cases s with
  | beginOutput | bugFixes | issues | environment | check | substitute | serialize | report =>
    exact absurd hs (by decide)
  | write => exact absurd rfl hwrite
  | loadSummary =>
    obtain ⟨bytes, hbytes, hsummary⟩ := hm.summary
    rw [Step.act, on_loadSummary, hdisk, hbytes]
    simp only [hsummary]
    exact ⟨_, _, rfl⟩
  | overview =>
    obtain ⟨hsummary, p, hp⟩ := hmade (by decide)
    rw [Step.act, on_addChapter, hsummary, hp]
    simp only [hm.overview]
    exact ⟨_, _, rfl⟩
  | newFeatures =>
    obtain ⟨hsummary, p, hp⟩ := hmade (by decide)
    rw [Step.act, on_addChapter, hsummary, hp]
    simp only [hm.newFeatures]
    exact ⟨_, _, rfl⟩
  | verification =>
    obtain ⟨hsummary, p, hp⟩ := hmade (by decide)
    rw [Step.act, on_addChapter, hsummary, hp]
    simp only [hm.verification]
    exact ⟨_, _, rfl⟩
  | loadIssues =>
    obtain ⟨hsummary, -⟩ := hmade (by decide)
    obtain ⟨bytes, hbytes, hlist⟩ := hm.list
    rw [Step.act, on_loadIssues, hdisk, hbytes]
    simp only [hlist, hsummary, hm.previous]
    exact ⟨_, _, rfl⟩

/-- Only loading changes the summary. -/
theorem perform_summary {s : Step} {i k : Job} {u : Unit} (h : (s.perform a).on i = (.ok u, k))
    (hs : s ≠ .loadSummary) : k.summary = i.summary := by
  obtain ⟨detail, i', hact, rfl⟩ := Step.perform_ok h
  have hkeeps := (Step.act_keeps a s i).summary hs
  rw [hact] at hkeeps
  exact hkeeps

/-- Once it has been read, the summary is that of the material. -/
theorem summary_of_performAll (hm : m.From a disk) {more : List Step} {i : Job} {u : Unit}
    (hmore : Step.loadSummary ∉ more)
    (h : (performAll a (.loadSummary :: more)).on (.new disk) = (.ok u, i)) :
    i.summary = some m.summary := by
  obtain ⟨j, hload, hrest⟩ := performAll_cons_ok h
  obtain ⟨bytes, s, hbytes, hs, w⟩ := loadSummary_work hload
  obtain ⟨bytes', hbytes', hs'⟩ := hm.summary
  obtain rfl := Except.ok.inj (hbytes.symm.trans hbytes')
  obtain rfl := Except.ok.inj (hs.symm.trans hs')
  have hstart : j.summary = some m.summary := congrArg Work.summary w
  refine performAll_induct (P := fun i => i.summary = some m.summary)
    (fun s' hs' i i' hi hperform => ?_) hstart hrest
  rw [perform_summary hperform fun he => hmore (he ▸ hs'), hi]

/-! ## Runs -/

/-- With a material and a disk that takes the page, a run delivers. -/
theorem run_completes (hm : m.From a disk)
    (hwrite : (disk.write a.outputPath (Text.Utf8.encode (m.filledPage a).text)).1 = .ok ()) :
    ∃ r k, run a (.new disk) = (.ok r, k) := by
  rcases run_cases a (.new disk) with ⟨k, -, hrun⟩ | ⟨f, k, hsteps, -⟩
  · exact ⟨_, _, hrun⟩
  obtain ⟨done, s, rest, i, hplan, hdone, hs⟩ := performAll_error hsteps
  obtain ⟨i', hact, -⟩ := Step.perform_error hs
  have hfallible := fallible_of_plan hplan hdone hact
  have hdisk : i.disk = disk := performAll_disk (write_not_mem_of_plan hplan) hdone
  by_cases hlast : s = .write
  · subst hlast
    have hbefore : planBefore ++ [.serialize] = done := by
      have hplan' : (planBefore ++ [.serialize]) ++ .write :: [] = done ++ .write :: rest := hplan
      rw [List.append_cons_inj_of_notMem (by decide) (by decide)] at hplan'
      exact hplan'.1
    rw [← hbefore] at hdone
    obtain ⟨j, hfilled, hserialize⟩ := performAll_append_ok hdone
    obtain ⟨j', hserialize, hnil⟩ := performAll_cons_ok hserialize
    cases hnil
    obtain ⟨m', hm', w⟩ := filled_work hfilled
    obtain rfl := hm.unique hm'
    obtain ⟨p, hp, w'⟩ := serialize_work hserialize
    rw [w] at hp w'
    cases hp
    have houtput : i.output = (m'.filledPage a).text := congrArg Work.output w'
    rw [Step.act, on_write, hdisk, houtput] at hact
    split at hact
    · rename_i problem disk' hresult
      rw [hresult] at hwrite
      cases hwrite
    · cases hact
  · have hmade : s ≠ .loadSummary → i.summary = some m.summary ∧ ∃ p, i.page = some p := by
      intro hfirst
      rcases cases_of_plan hplan with ⟨-, hs⟩ | ⟨-, rfl⟩ | ⟨more, rfl, hmore⟩
      · exact absurd hs hfirst
      · exact absurd hfallible (by decide)
      · have honce : Step.loadSummary ∉ .beginOutput :: more := by
          intro hmem
          rcases List.mem_cons.1 hmem with he | hmem
          · cases he
          · have hlater : Step.loadSummary ∈ laterSteps := hmore ▸ List.mem_append_left _ hmem
            exact absurd hlater (by decide)
        exact ⟨summary_of_performAll hm honce hdone, (ready_of_begun hdone).page⟩
    obtain ⟨detail, i'', hok⟩ := act_ok_of_from hm hfallible hlast hdisk hmade
    rw [hok] at hact
    cases hact

/-- What such a run writes is the page of the material. -/
theorem writes_of_from (hm : m.From a disk)
    (hwrite : (disk.write a.outputPath (Text.Utf8.encode (m.filledPage a).text)).1 = .ok ()) :
    Writes a disk (m.filledPage a).text := by
  obtain ⟨r, k, hrun⟩ := run_completes hm hwrite
  obtain ⟨m', hm', -, -, hwritten⟩ := delivered_work hrun
  obtain rfl := hm.unique hm'
  obtain ⟨place, hplace, hbytes, -⟩ := Disk.write_ok hwritten
  exact ⟨r, k, place, hrun, hplace, hbytes⟩

end Pamphlet.Job
