import Pamphlet.Job.Run

/-!
# Actions by what they do to a job

`Act.on` applies an action to a job and gives its result and the job as it then is. The first part
has one equation for each way to make an action, so that an action is computed by rewriting. The
second part says the same of the steps of a job (`on_perform`), of several steps in a row
(`performAll_ok`, `performAll_error`) and of a run (`run_ok`, `run_error`).
-/

namespace Pamphlet

namespace Act

variable {α β : Type}

/-- The result of an action and the job after it. -/
def on (m : Act α) (j : Job) : Except Fault α × Job :=
  m.run.run j

/-! ## Equations -/

@[simp] theorem on_pure (x : α) (j : Job) : (pure x : Act α).on j = (.ok x, j) := rfl

@[simp] theorem on_throw (f : Fault) (j : Job) : (throw f : Act α).on j = (.error f, j) := rfl

@[simp] theorem on_get (j : Job) : (get : Act Job).on j = (.ok j, j) := rfl

@[simp] theorem on_set (k j : Job) : (set k : Act Unit).on j = (.ok (), k) := rfl

@[simp] theorem on_modify (f : Job → Job) (j : Job) :
    (modify f : Act Unit).on j = (.ok (), f j) := rfl

@[simp] theorem on_lift (e : Except Fault α) (j : Job) : (lift e).on j = (e, j) := rfl

/-- What comes after a fault is not done; what came before it stays done. -/
@[simp] theorem on_bind (m : Act α) (f : α → Act β) (j : Job) :
    (m >>= f).on j =
      match m.on j with
      | (.ok x, k) => (f x).on k
      | (.error e, k) => (.error e, k) := by
  unfold on
  simp only [ExceptT.run_bind, StateT.run_bind]
  change (match m.run.run j with | (x, s) => _) = _
  rcases m.run.run j with ⟨result, k⟩
  cases result <;> rfl

@[simp] theorem on_map (f : α → β) (m : Act α) (j : Job) :
    (f <$> m).on j =
      match m.on j with
      | (.ok x, k) => (.ok (f x), k)
      | (.error e, k) => (.error e, k) := by
  rw [map_eq_pure_bind, on_bind]
  rfl

/-- The state that a handler begins with is the one in which the fault came up. -/
@[simp] theorem on_tryCatch (m : Act α) (h : Fault → Act α) (j : Job) :
    (tryCatch m h).on j =
      match m.on j with
      | (.ok x, k) => (.ok x, k)
      | (.error e, k) => (h e).on k := by
  unfold on ExceptT.run StateT.run
  simp only [tryCatch, tryCatchThe, MonadExceptOf.tryCatch, ExceptT.tryCatch, ExceptT.mk, bind,
    StateT.bind]
  rcases m j with ⟨result, k⟩
  cases result <;> rfl

@[simp] theorem on_say (lines : List LogLine) (j : Job) :
    (say lines).on j = (.ok (), { j with log := j.log ++ lines }) := rfl

@[simp] theorem on_record (step status detail : String) (j : Job) :
    (record step status detail).on j =
      (.ok (), { j with timings := j.timings ++ [⟨step, 0, status, detail⟩] }) := rfl

end Act

open Act

/-! ## Steps -/

namespace Step

/-- A job of which it has been noted that a step is done. -/
def finished (s : Step) (detail : String) (j : Job) : Job :=
  { j with
    stage := s.stage?.getD j.stage
    timings := j.timings ++ if s.isRecorded then [⟨s.name, 0, "ok", detail⟩] else [] }

/-- A job of which it has been noted that a step has failed. -/
def refused (s : Step) (f : Fault) (j : Job) : Job :=
  { j with timings := j.timings ++ if s.recordsFault then [⟨s.name, 0, "failed", f.text⟩] else [] }

/-- Finishing a step moves the job on and records the step. -/
theorem on_finish (s : Step) (detail : String) (j : Job) :
    (s.finish detail).on j = (.ok (), s.finished detail j) := by
  unfold finish finished
  cases s <;> simp [stage?, isRecorded, name]

/-- Giving a step up records the fault and passes it on. -/
theorem on_giveUp (s : Step) (f : Fault) (j : Job) :
    (s.giveUp f).on j = (.error f, s.refused f j) := by
  unfold giveUp refused
  cases s.recordsFault <;> simp

/-- A step does what its action does, and what became of it is noted. -/
theorem on_perform (a : Assignment) (s : Step) (j : Job) :
    (s.perform a).on j =
      match (s.act a).on j with
      | (.ok detail, k) => (.ok (), s.finished detail k)
      | (.error f, k) => (.error f, s.refused f k) := by
  unfold perform
  rw [on_tryCatch, on_bind]
  rcases (s.act a).on j with ⟨result, k⟩
  cases result with
  | error f => exact on_giveUp s f k
  | ok detail =>
    simp only
    rw [on_finish]

/-- A step that goes well is its action, finished. -/
theorem perform_ok {a : Assignment} {s : Step} {j k : Job} {u : Unit}
    (h : (s.perform a).on j = (.ok u, k)) :
    ∃ detail i, (s.act a).on j = (.ok detail, i) ∧ k = s.finished detail i := by
  rw [on_perform] at h
  split at h
  · rename_i detail i hact
    cases h
    exact ⟨detail, i, hact, rfl⟩
  · cases h

/-- A step that fails is its action, given up. -/
theorem perform_error {a : Assignment} {s : Step} {j k : Job} {f : Fault}
    (h : (s.perform a).on j = (.error f, k)) :
    ∃ i, (s.act a).on j = (.error f, i) ∧ k = s.refused f i := by
  rw [on_perform] at h
  split at h
  · cases h
  · rename_i i hact
    cases h
    exact ⟨i, hact, rfl⟩

end Step

/-! ## Runs -/

namespace Job

theorem performAll_cons_ok {a : Assignment} {s : Step} {rest : List Step} {j k : Job} {u : Unit}
    (h : (performAll a (s :: rest)).on j = (.ok u, k)) :
    ∃ i, (s.perform a).on j = (.ok (), i) ∧ (performAll a rest).on i = (.ok (), k) := by
  unfold performAll at h
  rw [on_bind] at h
  split at h
  · rename_i i hs
    exact ⟨i, hs, h⟩
  · cases h

theorem performAll_append_ok {a : Assignment} {first rest : List Step} {j k : Job} {u : Unit}
    (h : (performAll a (first ++ rest)).on j = (.ok u, k)) :
    ∃ i, (performAll a first).on j = (.ok (), i) ∧ (performAll a rest).on i = (.ok (), k) := by
  induction first generalizing j with
  | nil => exact ⟨j, rfl, h⟩
  | cons s first ih =>
    obtain ⟨i, hs, hmore⟩ := performAll_cons_ok h
    obtain ⟨i', hfirst, hrest⟩ := ih hmore
    refine ⟨i', ?_, hrest⟩
    unfold performAll
    rw [on_bind, hs]
    exact hfirst

theorem on_performAll_cons (a : Assignment) (s : Step) (rest : List Step) (j : Job) :
    (performAll a (s :: rest)).on j =
      match (s.perform a).on j with
      | (.ok _, i) => (performAll a rest).on i
      | (.error f, i) => (.error f, i) := by
  rw [performAll, on_bind]
  rcases (s.perform a).on j with ⟨result, i⟩
  cases result <;> rfl

theorem on_performAll_append (a : Assignment) (first rest : List Step) (j : Job) :
    (performAll a (first ++ rest)).on j =
      match (performAll a first).on j with
      | (.ok _, i) => (performAll a rest).on i
      | (.error f, i) => (.error f, i) := by
  induction first generalizing j with
  | nil => rfl
  | cons s first ih =>
    rw [List.cons_append, on_performAll_cons, on_performAll_cons]
    rcases (s.perform a).on j with ⟨result, i⟩
    cases result with
    | ok u => exact ih i
    | error f => rfl

/-- Steps that go well keep what each of them keeps. -/
theorem performAll_induct {a : Assignment} {P : Job → Prop} {steps : List Step}
    {j k : Job} {u : Unit}
    (step : ∀ s ∈ steps, ∀ i i', P i → (s.perform a).on i = (.ok (), i') → P i') (start : P j)
    (h : (performAll a steps).on j = (.ok u, k)) : P k := by
  induction steps generalizing j with
  | nil =>
    cases h
    exact start
  | cons s rest ih =>
    obtain ⟨i, hs, hrest⟩ := performAll_cons_ok h
    refine ih (fun s' hs' => step s' (List.mem_cons_of_mem s hs')) ?_ hrest
    exact step s List.mem_cons_self j i start hs

/-- Steps in a row end in a fault at one of them; those before it went well. -/
theorem performAll_error {a : Assignment} {steps : List Step} {j k : Job} {f : Fault}
    (h : (performAll a steps).on j = (.error f, k)) :
    ∃ before s after i, steps = before ++ s :: after ∧ (performAll a before).on j = (.ok (), i) ∧
      (s.perform a).on i = (.error f, k) := by
  induction steps generalizing j with
  | nil => cases h
  | cons s rest ih =>
    unfold performAll at h
    rw [on_bind] at h
    split at h
    · rename_i i hs
      obtain ⟨before, s', after, i', rfl, hbefore, hs'⟩ := ih h
      refine ⟨s :: before, s', after, i', rfl, ?_, hs'⟩
      unfold performAll
      rw [on_bind, hs]
      exact hbefore
    · rename_i f' i hs
      cases h
      exact ⟨[], s, rest, j, rfl, rfl, hs⟩

/-- A run does all steps and is delivered, or it fails with the first fault. -/
theorem run_cases (a : Assignment) (j : Job) :
    (∃ k, (performAll a plan).on j = (.ok (), k) ∧
      run a j = (.ok (k.deliver.result a), k.deliver)) ∨
    ∃ f k, (performAll a plan).on j = (.error f, k) ∧ run a j = (.error ⟨f⟩, k.fail a f) := by
  unfold run runBy
  rcases h : (performAll a plan).on j with ⟨result, k⟩
  unfold on at h
  rw [h]
  cases result with
  | ok u => exact .inl ⟨k, rfl, rfl⟩
  | error f => exact .inr ⟨f, k, rfl, rfl⟩

/-- A run that tells a result has done all its steps. -/
theorem run_ok {a : Assignment} {j k : Job} {r : Result} (h : run a j = (.ok r, k)) :
    ∃ i, (performAll a plan).on j = (.ok (), i) ∧ k = i.deliver ∧ r = i.deliver.result a := by
  rcases run_cases a j with ⟨i, hsteps, hrun⟩ | ⟨f, i, -, hrun⟩
  · rw [hrun] at h
    cases h
    exact ⟨i, hsteps, rfl, rfl⟩
  · rw [hrun] at h
    cases h

/-- A run that fails has failed with the fault of its steps. -/
theorem run_error {a : Assignment} {j k : Job} {e : GenerationError} (h : run a j = (.error e, k)) :
    ∃ i, (performAll a plan).on j = (.error e.cause, i) ∧ k = i.fail a e.cause := by
  rcases run_cases a j with ⟨i, -, hrun⟩ | ⟨f, i, hsteps, hrun⟩
  · rw [hrun] at h
    cases h
  · rw [hrun] at h
    cases h
    exact ⟨i, hsteps, rfl⟩

end Job

end Pamphlet
