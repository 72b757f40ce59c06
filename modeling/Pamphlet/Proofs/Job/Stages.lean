import Mathlib.Data.List.Destutter
import Pamphlet.Proofs.Job.History

/-!
# The stages of a run

`Job.history` is a run moment by moment: the job before its first step, after each action, after it
has been noted what became of the action, and at the end. No action changes the stage
(`Step.act_stage`), so the stages of a history are told by the steps that went well
(`stages_moments`), and what an action does is done in the stage in which its step began. The plan
has one step that asks the tracker and one that writes, each at its own stage (`plan_placed`). Hence
`run_stages`: a run passes through the stages in their order up to its end, it asks and writes in
one stage each, and it does not ask at all unless both of its files have been read and agree.
-/

namespace Pamphlet

open Pamphlet.Release Act

namespace Step

/-- An action leaves the stage as it is; finishing its step moves it on. -/
theorem act_stage {a : Assignment} {s : Step} {j i : Job} {result : Except Fault String}
    (h : (s.act a).on j = (result, i)) : i.stage = j.stage := by
  have hkeeps := (act_keeps a s j).stage
  rwa [h] at hkeeps

end Step

namespace Job

/-! ## Histories -/

/-- A job after each action of some steps and after what became of it has been noted, up to the
first fault. -/
def moments (a : Assignment) : List Step → Job → List Job
  | [], _ => []
  | s :: rest, j =>
    match (s.act a).on j with
    | (.ok detail, i) => i :: s.finished detail i :: moments a rest (s.finished detail i)
    | (.error f, i) => [i, s.refused f i]

/-- A run moment by moment. -/
def history (a : Assignment) (j : Job) : List Job :=
  (j :: moments a plan j) ++ [(run a j).2]

/-- The stages of a history, each listed once as long as it lasts. -/
def stages (jobs : List Job) : List Stage :=
  (jobs.map (·.stage)).destutter (· ≠ ·)

/-- The stages before the last one. -/
def chain : List Stage :=
  [.received, .summaryLoaded, .shellCreated, .overviewBuilt, .newFeaturesBuilt, .issuesLoaded,
    .bugFixesBuilt, .issuesBuilt, .environmentBuilt, .verificationBuilt, .substituted, .serialized]

theorem chain_eq : chain = .received :: plan.filterMap Step.stage? := rfl

/-- The last moment is the job that the steps leave. -/
theorem getLast?_moments (a : Assignment) (steps : List Step) (j : Job) :
    (j :: moments a steps j).getLast? = some ((performAll a steps).on j).2 := by
  induction steps generalizing j with
  | nil => rfl
  | cons s rest ih =>
    rw [on_performAll_cons, Step.on_perform]
    unfold moments
    rcases (s.act a).on j with ⟨result, i⟩
    cases result with
    | error f => rfl
    | ok detail =>
      simp only [List.getLast?_cons_cons]
      exact ih (s.finished detail i)

/-! ## Stages -/

/-- The stages of some moments, with anything after them, are the stages of the steps that went
well. -/
theorem stages_moments (a : Assignment) (steps : List Step) (j : Job) (after : List Stage) :
    ∃ done, done <+: steps ∧ (((performAll a steps).on j).1 = .ok () → done = steps) ∧
      ((moments a steps j).map (·.stage) ++ after).destutter' (· ≠ ·) j.stage =
        (done.filterMap Step.stage? ++ after).destutter' (· ≠ ·) j.stage := by
  induction steps generalizing j with
  | nil => exact ⟨[], List.prefix_rfl, fun _ => rfl, rfl⟩
  | cons s rest ih =>
    rw [on_performAll_cons, Step.on_perform]
    unfold moments
    rcases hact : (s.act a).on j with ⟨result, i⟩
    have hstage : i.stage = j.stage := Step.act_stage hact
    cases result with
    | error f =>
      have hrefused : (s.refused f i).stage = j.stage := hstage
      refine ⟨[], List.nil_prefix, ?_, ?_⟩
      · intro h
        cases h
      · simp [hstage, hrefused]
    | ok detail =>
      obtain ⟨done, hpart, hall, hdone⟩ := ih (s.finished detail i)
      refine ⟨s :: done, (List.prefix_cons_inj s).2 hpart, fun h => ?_, ?_⟩
      · rw [hall h]
      · have hfinished : (s.finished detail i).stage = s.stage?.getD j.stage := by
          rw [← hstage]
          rfl
        rw [hfinished] at hdone
        simp only [List.map_cons, List.cons_append, hstage, hfinished, ne_eq, not_true_eq_false,
          not_false_eq_true, List.destutter'_cons_neg]
        cases hs : s.stage? with
        | none =>
          rw [hs] at hdone
          simpa [hs] using hdone
        | some stage =>
          rw [hs] at hdone
          simp only [Option.getD_some] at hdone ⊢
          rw [List.filterMap_cons, hs, List.destutter'_cons]
          simp only [List.cons_append]
          rw [List.destutter'_cons, hdone]
          split
          · rfl
          · rename_i hsame
            simp only [not_not] at hsame
            rw [hsame, hdone]

/-- What is listed before the end of a run in order is part of the chain, and is not listed
twice. -/
theorem destutter_chain {done : List Step} (h : done <+: plan) (last : Stage)
    (hlast : last ∉ chain) : (done.filterMap Step.stage? ++ [last]).destutter' (· ≠ ·) .received =
      .received :: done.filterMap Step.stage? ++ [last] := by
  have hpart : .received :: done.filterMap Step.stage? <+: chain := by
    rw [chain_eq]
    exact (List.prefix_cons_inj _).2 (h.filterMap _)
  have hnodup : (chain ++ [last]).Nodup := by
    rw [List.nodup_append]
    refine ⟨by decide, List.nodup_singleton last, ?_⟩
    rintro x hx y hy rfl
    rw [List.mem_singleton] at hy
    exact hlast (hy ▸ hx)
  refine List.destutter'_of_isChain_cons (R := (· ≠ ·)) _ ?_
  exact List.Pairwise.isChain (hnodup.sublist (hpart.sublist.append_right [last]))

/-! ## Asking and writing -/

/-- What may happen between one moment of a run and the next: addresses are asked for, or a file
becomes another one, at one stage each. -/
structure Passage (j k : Job) : Prop where
  asks : k.asked ≠ j.asked → j.stage = .bugFixesBuilt ∧ k.stage = .bugFixesBuilt
  writes : k.disk.files ≠ j.disk.files → j.stage = .serialized ∧ k.stage = .serialized

/-- Steps that ask and write at their stages, beginning with a stage. -/
def Placed : Stage → List Step → Prop
  | _, [] => True
  | stage, s :: rest =>
    (s = .issues → stage = .bugFixesBuilt) ∧ (s = .write → stage = .serialized) ∧
      Placed (s.stage?.getD stage) rest

/-- The steps of the plan move a job on in the order of the stages. -/
theorem plan_placed : Placed .received plan := by
  simp [plan, Placed, Step.stage?]

/-- A moment at which nothing is asked and written, and the stage stays. -/
theorem passage_same {j k : Job} (hasked : k.asked = j.asked) (hdisk : k.disk = j.disk) :
    Passage j k where
  asks h := absurd hasked h
  writes h := absurd (congrArg Disk.files hdisk) h

/-- An action of a step that stands at its stage. -/
theorem passage_act {a : Assignment} {s : Step} {j i : Job} {result : Except Fault String}
    (hissues : s = .issues → j.stage = .bugFixesBuilt) (hwrite : s = .write → j.stage = .serialized)
    (h : (s.act a).on j = (result, i)) : Passage j i where
  asks hasked := by
    have hs : s = .issues := by
      by_contra hne
      have hkeeps := (Step.act_keeps a s j).asked hne
      rw [h] at hkeeps
      exact hasked hkeeps
    exact ⟨hissues hs, (Step.act_stage h).trans (hissues hs)⟩
  writes hfiles := by
    have hs : s = .write := by
      by_contra hne
      have hkeeps := Step.act_disk a j hne
      rw [h] at hkeeps
      exact hfiles (congrArg Disk.files hkeeps)
    exact ⟨hwrite hs, (Step.act_stage h).trans (hwrite hs)⟩

/-- From each moment to the next there is a passage. -/
theorem isChain_moments {a : Assignment} {steps : List Step} {j : Job} (h : Placed j.stage steps) :
    (j :: moments a steps j).IsChain Passage := by
  induction steps generalizing j with
  | nil => exact .singleton j
  | cons s rest ih =>
    obtain ⟨hissues, hwrite, hrest⟩ := h
    unfold moments
    rcases hact : (s.act a).on j with ⟨result, i⟩
    have hpassage := passage_act hissues hwrite hact
    cases result with
    | error f => exact .cons_cons hpassage (.cons_cons (passage_same rfl rfl) (.singleton _))
    | ok detail =>
      have hfinished : (s.finished detail i).stage = s.stage?.getD j.stage := by
        rw [← Step.act_stage hact]
        rfl
      rw [← hfinished] at hrest
      exact .cons_cons hpassage (.cons_cons (passage_same rfl rfl) (ih hrest))

/-! ## What must have been read before anything is asked -/

/-- The two files of a job have been read, and they do not name different previous releases. -/
structure Admits (a : Assignment) (disk : Disk) (s : Summary) (list : BugList) : Prop where
  summary_read : ∃ bytes, disk.read a.summaryPath = .ok bytes ∧
    Summary.ofBytes a.summaryPath bytes = .ok s
  list_read : ∃ bytes, disk.read a.bugListPath = .ok bytes ∧
    BugList.ofBytes a.bugListPath a.settings.naming bytes = .ok list
  previous : list.previous = none ∨ list.previous = some s.previousReleaseId

theorem checkPrevious_ok {previous : Option String} {expected : String} {warnings : List String}
    (h : BugList.checkPrevious previous expected = .ok warnings) :
    previous = none ∨ previous = some expected := by
  unfold BugList.checkPrevious at h
  split at h
  · exact .inl rfl
  · split at h
    · rename_i hfound
      exact .inr (congrArg some hfound)
    · cases h

/-- The steps up to the one that reads the bug list. -/
def reading : List Step :=
  [.loadSummary, .beginOutput, .overview, .newFeatures, .loadIssues]

/-- A run that has read both files has been let go on by them. -/
theorem admits_of_reading {a : Assignment} {disk : Disk} {k : Job} {u : Unit}
    (h : (performAll a reading).on (.new disk) = (.ok u, k)) : ∃ s list, Admits a disk s list := by
  obtain ⟨j₁, h₁, h⟩ := performAll_cons_ok h
  obtain ⟨j₂, h₂, h⟩ := performAll_cons_ok h
  obtain ⟨j₃, h₃, h⟩ := performAll_cons_ok h
  obtain ⟨j₄, h₄, h⟩ := performAll_cons_ok h
  obtain ⟨j₅, h₅, -⟩ := performAll_cons_ok h
  obtain ⟨bytes, s, hbytes, hsummary, w₁⟩ := loadSummary_work h₁
  have w₂ := beginOutput_work h₂
  obtain ⟨_, _, _, -, -, -, w₃⟩ := chapter_work rfl h₃
  obtain ⟨_, _, _, -, -, -, w₄⟩ := chapter_work rfl h₄
  obtain ⟨bytes', list, _, warnings, hbytes', hlist, hs, hprevious, -⟩ := loadIssues_work h₅
  rw [w₄, w₃, w₂, w₁] at hbytes' hs
  cases hs
  exact ⟨s, list, ⟨bytes, hbytes, hsummary⟩, ⟨bytes', hbytes', hlist⟩, checkPrevious_ok hprevious⟩

/-- Only fetching notes asks. -/
theorem performAll_asked (a : Assignment) {steps : List Step} (h : Step.issues ∉ steps) (j : Job) :
    ((performAll a steps).on j).2.asked = j.asked := by
  induction steps generalizing j with
  | nil => rfl
  | cons s rest ih =>
    rw [List.mem_cons, not_or] at h
    have hasked := (Step.act_keeps a s j).asked (Ne.symm h.1)
    rw [on_performAll_cons, Step.on_perform]
    rcases hact : (s.act a).on j with ⟨result, i⟩
    rw [hact] at hasked
    cases result with
    | error f => exact hasked
    | ok detail => exact (ih h.2 (s.finished detail i)).trans hasked

/-- The end of a run asks for nothing and leaves the disk as it is. -/
theorem passage_end (a : Assignment) (j : Job) :
    (run a j).2.asked = ((performAll a plan).on j).2.asked ∧
      (run a j).2.disk = ((performAll a plan).on j).2.disk := by
  rcases run_cases a j with ⟨k, hsteps, hrun⟩ | ⟨f, k, hsteps, hrun⟩
  · rw [hsteps, hrun]
    exact ⟨rfl, rfl⟩
  · rw [hsteps, hrun]
    exact ⟨rfl, rfl⟩

/-- Nothing is asked for before both files have been read. -/
theorem asked_or_admits (a : Assignment) (disk : Disk) :
    (run a (.new disk)).2.asked = [] ∨ ∃ s list, Admits a disk s list := by
  rcases hreading : (performAll a reading).on (.new disk) with ⟨result, i⟩
  cases result with
  | ok u => exact .inr (admits_of_reading hreading)
  | error f =>
    -- the run has ended before the step that asks
    have hasked := performAll_asked a (show Step.issues ∉ reading by decide) (.new disk)
    have hplan : (performAll a plan).on (.new disk) = (.error f, i) := by
      rw [show plan = reading ++ plan.drop reading.length from rfl, on_performAll_append, hreading]
    rw [hreading] at hasked
    rw [(passage_end a (.new disk)).1, hplan]
    exact .inl hasked

/-! ## Runs -/

/-- A whole run is a chain of passages, also where it fails. -/
theorem isChain_history (a : Assignment) (disk : Disk) :
    (history a (.new disk)).IsChain Passage := by
  obtain ⟨hasked, hdisk⟩ := passage_end a (.new disk)
  unfold history
  rw [List.isChain_append]
  refine ⟨isChain_moments plan_placed, .singleton _, ?_⟩
  rw [getLast?_moments]
  rintro x ⟨⟩ y ⟨⟩
  exact passage_same hasked hdisk

/-- The stages of a run are those of its moments, each told once. -/
theorem stages_history (a : Assignment) (disk : Disk) :
    stages (history a (.new disk)) =
      ((moments a plan (.new disk)).map (·.stage) ++
        [(run a (.new disk)).2.stage]).destutter' (· ≠ ·) .received := by
  unfold stages history
  rw [List.map_append]
  rfl

/-- **A run passes through its stages in their order**, all of them and then it has delivered, or
some of the first of them and then it has failed. It asks the tracker only when the table of bug
fixes has been built, and so not at all unless the summary and the bug list have been read and do
not name different previous releases; and files are made, changed or removed only when the page has
been written out as a text. -/
theorem run_stages (a : Assignment) (disk : Disk) :
    (∃ k, (.new disk :: moments a plan (.new disk)).getLast? = some k ∧
      ((∃ r, run a (.new disk) = (.ok r, k.deliver) ∧
          stages (history a (.new disk)) = chain ++ [.delivered]) ∨
        ∃ f before, run a (.new disk) = (.error ⟨f⟩, k.fail a f) ∧ before ≠ [] ∧ before <+: chain ∧
          stages (history a (.new disk)) = before ++ [.failed])) ∧
    (history a (.new disk)).IsChain Passage ∧
    ((run a (.new disk)).2.asked = [] ∨ ∃ s list, Admits a disk s list) := by
  refine ⟨?_, isChain_history a disk, asked_or_admits a disk⟩
  rw [stages_history, getLast?_moments]
  obtain ⟨done, hpart, hall, hdone⟩ :=
    stages_moments a plan (.new disk) [(run a (.new disk)).2.stage]
  rcases run_cases a (.new disk) with ⟨k, hsteps, hrun⟩ | ⟨f, k, hsteps, hrun⟩
  · rw [hsteps] at hall ⊢
    rw [hrun] at hdone ⊢
    refine ⟨k, rfl, .inl ⟨_, rfl, hdone.trans ?_⟩⟩
    have hchain := destutter_chain hpart .delivered (by decide)
    rw [hall rfl, ← chain_eq] at hchain
    rw [hall rfl]
    exact hchain
  · rw [hsteps]
    rw [hrun] at hdone ⊢
    refine ⟨k, rfl,
      .inr ⟨f, .received :: done.filterMap Step.stage?, rfl, List.cons_ne_nil _ _, ?_, ?_⟩⟩
    · rw [chain_eq]
      exact (List.prefix_cons_inj _).2 (hpart.filterMap _)
    · exact hdone.trans (destutter_chain hpart .failed (by decide))

end Job

end Pamphlet
