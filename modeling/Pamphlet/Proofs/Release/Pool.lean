import Mathlib.Data.List.Induction
import Mathlib.Data.List.Perm.Basic
import Mathlib.Logic.Relation
import Pamphlet.Release.Pool

/-!
# The order of downloads does not matter

`Pool.Step` is one event of a pool, whoever chooses it: a download that waits is started if there is
room, or one in flight ends. Along every sequence of events, and so for every order in which
downloads end, no more downloads are in flight than there is room for and each noted issue has one
download that waits, is in flight or is done (`Sound`). A pool of which no download is left to do
has the outcomes of its issues in their order (`Sound.outcomes_eq`), and a pool that has some left
can always go on (`Sound.goes_on`), for a number of events that is known from the start
(`Step.left`).

`Source.fetchAll` is one such sequence of events, which its picks choose (`reached_fetchAll`).
-/

namespace Pamphlet.Release

/-- The flight of an issue by itself. -/
def Source.attempt (source : Source) (i : Issue) : Outcome :=
  (Pool.depart source (0, i)).outcome source.lead

namespace Pool

/-! ## Events -/

inductive Step (source : Source) : Pool → Pool → Prop
  | start {p : Pool} {before after : List (Nat × Issue)} {w : Nat × Issue}
      (room : p.flying.length < p.capacity) (waits : p.waiting = before ++ w :: after) :
      Step source p
        { p with
          waiting := before ++ after
          flying := p.flying ++ [depart source w]
          asked := p.asked ++ (depart source w).download.asked }
  | land {p : Pool} {before after : List Flight} {f : Flight}
      (flies : p.flying = before ++ f :: after) :
      Step source p { p with flying := before ++ after, done := p.done ++ [f] }

/-- Events in any number and in any order. -/
abbrev Reaches (source : Source) : Pool → Pool → Prop :=
  Relation.ReflTransGen (Step source)

structure Finished (p : Pool) : Prop where
  waiting : p.waiting = []
  flying : p.flying = []

/-- How many events are still to come. -/
def left (p : Pool) : Nat :=
  2 * p.waiting.length + p.flying.length

/-- A step leaves one landing less to do. -/
theorem Step.left {source : Source} {p q : Pool} (h : Step source p q) : p.left = q.left + 1 := by
  cases h with
  | start room waits =>
    unfold Pool.left
    rw [waits]
    simp only [List.length_append, List.length_cons, List.length_nil]
    omega
  | land flies =>
    unfold Pool.left
    rw [flies]
    simp only [List.length_append, List.length_cons]
    omega

/-! ## What every event preserves -/

/-- The flights of all issues of a list, in their order. -/
def flights (source : Source) (issues : List Issue) : List Flight :=
  ((List.range issues.length).zip issues).map (depart source)

/-- The downloads of a list of issues are all in the pool and each of them once; no more of them are
in flight than there is room for, and what was asked for is what those begun have asked for. -/
structure Sound (source : Source) (room : Nat) (issues : List Issue) (p : Pool) : Prop where
  capacity : p.capacity = room
  few : p.flying.length ≤ room
  all : (p.waiting.map (depart source) ++ (p.flying ++ p.done)).Perm (flights source issues)
  asked : p.asked.Perm ((p.flying ++ p.done).flatMap (·.download.asked))

section

variable {source : Source} {room : Nat} {issues : List Issue} {p q : Pool}

theorem sound_ofIssues (source : Source) (room : Nat) (issues : List Issue) :
    Sound source room issues (ofIssues room issues) where
  capacity := rfl
  few := Nat.zero_le _
  all := by
    unfold ofIssues flights
    rw [List.append_nil, List.append_nil]
  asked := List.Perm.refl _

/-- A download that starts moves from those that wait to those in flight. -/
theorem Sound.start {before after : List (Nat × Issue)} {w : Nat × Issue}
    (h : Sound source room issues p) (hroom : p.flying.length < p.capacity)
    (waits : p.waiting = before ++ w :: after) :
    Sound source room issues
      { p with
        waiting := before ++ after
        flying := p.flying ++ [depart source w]
        asked := p.asked ++ (depart source w).download.asked } := by
  have hcapacity := h.capacity
  refine ⟨h.capacity, ?_, ?_, ?_⟩
  · simp only [List.length_append, List.length_singleton]
    omega
  · refine List.Perm.trans ?_ h.all
    rw [waits]
    simp only [List.map_append, List.map_cons, List.append_assoc, List.cons_append, List.nil_append]
    refine List.Perm.append_left _ ?_
    rw [← List.append_assoc]
    refine List.perm_middle.trans ?_
    rw [List.append_assoc]
  · have hasked := h.asked
    simp only [List.flatMap_append, List.flatMap_cons, List.flatMap_nil, List.append_nil]
      at hasked ⊢
    refine (hasked.append_right _).trans ?_
    rw [List.append_assoc, List.append_assoc]
    exact List.Perm.append_left _ List.perm_append_comm

/-- A download that ends moves from those in flight to those that are done. -/
theorem Sound.land {before after : List Flight} {f : Flight} (h : Sound source room issues p)
    (flies : p.flying = before ++ f :: after) :
    Sound source room issues { p with flying := before ++ after, done := p.done ++ [f] } := by
  have hmoved : (before ++ after ++ (p.done ++ [f])).Perm (p.flying ++ p.done) := by
    rw [flies]
    simp only [List.append_assoc, List.cons_append]
    refine List.Perm.append_left _ ?_
    rw [← List.append_assoc]
    exact List.perm_append_singleton f _
  refine ⟨h.capacity, ?_, ?_, ?_⟩
  · have hfew := h.few
    rw [flies] at hfew
    simp only [List.length_append, List.length_cons] at hfew ⊢
    omega
  · exact (List.Perm.append_left _ hmoved).trans h.all
  · exact h.asked.trans (hmoved.symm.flatMap_right _)

/-- A step keeps a pool sound, whichever flight lands. -/
theorem Sound.step (h : Sound source room issues p) (hstep : Step source p q) :
    Sound source room issues q := by
  cases hstep with
  | start hroom waits => exact h.start hroom waits
  | land flies => exact h.land flies

/-- **A pool stays sound** in all the states it can reach. -/
theorem Sound.reaches (h : Sound source room issues p) (hsteps : Reaches source p q) :
    Sound source room issues q := by
  induction hsteps with
  | refl => exact h
  | tail _ hstep ih => exact ih.step hstep

/-- A pool with something left to do is never stuck: a download in flight can end, and if none is in
flight there is room for another one. -/
theorem Sound.goes_on (h : Sound source room issues p) (hroom : 0 < room)
    (hleft : ¬p.Finished) : ∃ q, Step source p q := by
  cases hflying : p.flying with
  | cons f rest => exact ⟨_, .land (show p.flying = [] ++ f :: rest from hflying)⟩
  | nil =>
    cases hwaiting : p.waiting with
    | nil => exact absurd ⟨hwaiting, hflying⟩ hleft
    | cons w rest =>
      refine ⟨_, .start ?_ (show p.waiting = [] ++ w :: rest from hwaiting)⟩
      rw [hflying, h.capacity]
      exact hroom

/-! ## Outcomes -/

theorem length_flights (source : Source) (issues : List Issue) :
    (flights source issues).length = issues.length := by
  simp [flights]

theorem getElem_flights {n : Nat} (hn : n < (flights source issues).length)
    (hn' : n < issues.length) : (flights source issues)[n] = depart source (n, issues[n]) := by
  simp only [flights, List.getElem_map, List.getElem_zip, List.getElem_range]

/-- The flight of a place is found among those that are done, wherever it is listed. -/
theorem Sound.find?_done (h : Sound source room issues p) (hend : p.Finished) {n : Nat}
    (hn : n < (flights source issues).length) :
    p.done.find? (·.place == n) = some (flights source issues)[n] := by
  have hall := h.all
  rw [hend.waiting, hend.flying, List.map_nil, List.nil_append, List.nil_append] at hall
  have hlength := length_flights source issues
  have hplace : (flights source issues)[n].place = n := by
    rw [getElem_flights hn (by omega)]
    rfl
  cases hfound : p.done.find? (·.place == n) with
  | none =>
    have hmem : (flights source issues)[n] ∈ p.done := hall.mem_iff.2 (List.getElem_mem hn)
    have hnot := List.find?_eq_none.1 hfound _ hmem
    rw [hplace] at hnot
    simp at hnot
  | some f =>
    have hf : f.place = n := by simpa using List.find?_some hfound
    have hmem : f ∈ flights source issues := hall.mem_iff.1 (List.mem_of_find?_eq_some hfound)
    obtain ⟨m, hm, rfl⟩ := List.getElem_of_mem hmem
    -- only one flight has a place
    rw [getElem_flights hm (by omega)] at hf
    change m = n at hf
    subst hf
    rfl

private theorem filterMap_range_getElem? {α : Type} (xs : List α) :
    (List.range xs.length).filterMap (fun n => xs[n]?) = xs := by
  induction xs using List.reverseRecOn with
  | nil => rfl
  | append_singleton xs x ih =>
    rw [List.length_append, List.length_singleton, List.range_succ, List.filterMap_append]
    congr 1
    · refine Eq.trans (List.filterMap_congr fun n hn => ?_) ih
      rw [List.getElem?_append_left (List.mem_range.1 hn)]
    · simp

/-- The outcomes of a pool with nothing left to do are those of all flights, in the order of the
issues. -/
theorem Sound.outcomes_eq (h : Sound source room issues p) (hend : p.Finished) (lead : String) :
    p.outcomes lead issues.length = (flights source issues).map (·.outcome lead) := by
  unfold outcomes
  rw [← filterMap_range_getElem? ((flights source issues).map (·.outcome lead)), List.length_map,
    length_flights]
  refine List.filterMap_congr fun n hn => ?_
  have hn' : n < (flights source issues).length := by
    rw [length_flights]
    exact List.mem_range.1 hn
  rw [h.find?_done hend hn', List.getElem?_map, List.getElem?_eq_getElem hn']

end

/-! ## Picks choose a sequence of events -/

section

variable {source : Source}

/-- Some waiting downloads, at most as many as there is room for, start one after the other. -/
theorem reaches_starts (p : Pool) (n : Nat) (hn : n ≤ p.capacity - p.flying.length) :
    Reaches source p
      { p with
        waiting := p.waiting.drop n
        flying := p.flying ++ (p.waiting.take n).map (depart source)
        asked :=
        p.asked ++ ((p.waiting.take n).map (depart source)).flatMap (·.download.asked) } := by
  induction n with
  | zero =>
    simp only [List.drop_zero, List.take_zero, List.map_nil, List.flatMap_nil, List.append_nil]
    exact .refl
  | succ n ih =>
    refine Relation.ReflTransGen.trans (ih (by omega)) ?_
    cases hdrop : p.waiting.drop n with
    | nil =>
      have hlength : p.waiting.length ≤ n := List.drop_eq_nil_iff.1 hdrop
      rw [List.take_of_length_le hlength, List.take_of_length_le (by omega),
        List.drop_of_length_le (by omega)]
    | cons w rest =>
      have hlength : n < p.waiting.length := by
        by_contra hle
        rw [List.drop_of_length_le (by omega)] at hdrop
        cases hdrop
      have hw : p.waiting[n] = w := by
        rw [List.drop_eq_getElem_cons hlength] at hdrop
        exact (List.cons.inj hdrop).1
      have hrest : p.waiting.drop (n + 1) = rest := by
        rw [List.drop_eq_getElem_cons hlength] at hdrop
        exact (List.cons.inj hdrop).2
      have htake : p.waiting.take (n + 1) = p.waiting.take n ++ [w] := by
        rw [List.take_succ_eq_append_getElem hlength, hw]
      let q : Pool :=
        { p with
          waiting := w :: rest
          flying := p.flying ++ (p.waiting.take n).map (depart source)
          asked := p.asked ++
            ((p.waiting.take n).map (depart source)).flatMap (·.download.asked) }
      have hroom : q.flying.length < q.capacity := by
        simp only [q, List.length_append, List.length_map, List.length_take]
        omega
      have hstart : Step source q _ := .start hroom (show q.waiting = [] ++ w :: rest from rfl)
      refine .single ?_
      simpa [q, htake, hrest] using hstart

/-- Filling up the room of a pool is a row of steps. -/
theorem reaches_fill (p : Pool) : Reaches source p (p.fill source) :=
  reaches_starts p _ (Nat.le_refl _)

theorem step_land (p : Pool) (pick : Nat) (h : p.flying ≠ []) : Step source p (p.land pick) := by
  have hlength := List.length_pos_iff.2 h
  have hindex : pick % p.flying.length < p.flying.length := Nat.mod_lt _ hlength
  unfold land
  simp only
  rw [List.getElem?_eq_getElem hindex, Option.toList_some, List.eraseIdx_eq_take_drop_succ]
  refine .land ?_
  rw [← List.drop_eq_getElem_cons hindex, List.take_append_drop]

/-- If there is something left to do, something is in flight after all that can start has
started. -/
theorem flying_fill (source : Source) {p : Pool} (hcapacity : 0 < p.capacity)
    (hleft : ¬p.Finished) : (p.fill source).flying ≠ [] := by
  intro hnone
  unfold fill at hnone
  simp only [List.append_eq_nil_iff, List.map_eq_nil_iff, List.take_eq_nil_iff] at hnone
  obtain ⟨hflying, hroom | hwaiting⟩ := hnone
  · rw [hflying, List.length_nil] at hroom
    omega
  · exact hleft ⟨hwaiting, hflying⟩

/-- The downloads that are not done. -/
def undone (p : Pool) : Nat :=
  p.waiting.length + p.flying.length

theorem undone_fill (p : Pool) : (p.fill source).undone = p.undone := by
  unfold undone fill
  simp only [List.length_drop, List.length_append, List.length_map, List.length_take]
  omega

theorem undone_land {p : Pool} (pick : Nat) (h : p.flying ≠ []) :
    (p.land pick).undone + 1 = p.undone := by
  have hlength := List.length_pos_iff.2 h
  have hindex : pick % p.flying.length < p.flying.length := Nat.mod_lt _ hlength
  unfold undone land
  simp only [List.length_eraseIdx, if_pos hindex]
  omega

/-- A run of as many rounds as there are downloads is a sequence of events after which none is
left. -/
theorem reaches_run (source : Source) (p : Pool) (picks : List Nat) (hcapacity : 0 < p.capacity) :
    Reaches source p (p.run source p.undone picks) ∧ (p.run source p.undone picks).Finished := by
  induction hcount : p.undone generalizing p picks with
  | zero =>
    unfold undone at hcount
    have hwaiting : p.waiting.length = 0 := by omega
    have hflying : p.flying.length = 0 := by omega
    exact ⟨.refl, List.length_eq_zero_iff.1 hwaiting, List.length_eq_zero_iff.1 hflying⟩
  | succ count ih =>
    have hleft : ¬p.Finished := by
      intro hend
      unfold undone at hcount
      rw [hend.waiting, hend.flying] at hcount
      simp at hcount
    have hflying := flying_fill source hcapacity hleft
    have hrest : ((p.fill source).land (picks.headD 0)).undone = count := by
      have hland := undone_land (picks.headD 0) hflying
      rw [undone_fill] at hland
      omega
    obtain ⟨hreaches, hend⟩ :=
      ih ((p.fill source).land (picks.headD 0)) (picks.drop 1) hcapacity hrest
    refine ⟨?_, hend⟩
    exact (reaches_fill p).trans (.head (step_land _ _ hflying) hreaches)

theorem undone_ofIssues (room : Nat) (issues : List Issue) :
    (ofIssues room issues).undone = issues.length := by
  simp [undone, ofIssues]

end

/-! ## Fetching all notes -/

/-- Fetching all notes is a sequence of events of a pool, up to the last one. -/
theorem reached_fetchAll (source : Source) (requested : Int) (picks : List Nat)
    (issues : List Issue) :
    ∃ p, Reaches source (ofIssues (capacityFor requested) (issues.filter Issue.hasNote)) p ∧
      p.Finished ∧
      source.fetchAll requested picks issues =
        { outcomes := p.outcomes source.lead (issues.filter Issue.hasNote).length
          asked := p.asked
          incidents := p.done.filterMap fun f => (f.outcome source.lead).incident } := by
  obtain ⟨hreaches, hend⟩ := reaches_run source
    (ofIssues (capacityFor requested) (issues.filter Issue.hasNote)) picks
    (capacityFor_pos requested)
  rw [undone_ofIssues] at hreaches hend
  exact ⟨_, hreaches, hend, rfl⟩

/-- What fetching all notes gives, whatever the tracker answers and however the downloads are
scheduled. -/
theorem fetchAll_outcomes (source : Source) (requested : Int) (picks : List Nat)
    (issues : List Issue) :
    (source.fetchAll requested picks issues).outcomes =
      (flights source (issues.filter Issue.hasNote)).map (·.outcome source.lead) := by
  obtain ⟨p, hreaches, hend, hfetch⟩ := reached_fetchAll source requested picks issues
  rw [hfetch]
  exact ((sound_ofIssues source _ _).reaches hreaches).outcomes_eq hend source.lead

theorem outcome_issue (lead : String) (f : Flight) : (f.outcome lead).issue = f.issue := by
  unfold Flight.outcome
  split <;> rfl

/-- There is either a note or an incident. -/
theorem outcome_either (lead : String) (f : Flight) :
    (f.outcome lead).note.isSome = !(f.outcome lead).incident.isSome := by
  unfold Flight.outcome
  split <;> rfl

/-! ## Trackers with fixed answers -/

section

variable {source : Source} {answers : String → Tracker.Answer}

/-- If each address has its answer, the place of an issue does not matter. -/
theorem download_steady (h : source.tracker = .steady answers) (i : Issue) (place : Nat) :
    source.download i place = source.download i := by
  unfold Source.download Tracker.fetch Tracker.answersTo
  rw [h]
  rfl

/-- With a steady tracker, the outcomes do not depend on when the flights land. -/
theorem flights_steady (h : source.tracker = .steady answers) (issues : List Issue) :
    (flights source issues).map (·.outcome source.lead) = issues.map source.attempt := by
  have hone : ∀ w : Nat × Issue,
      (depart source w).outcome source.lead = source.attempt w.2 := by
    intro w
    unfold Source.attempt depart Flight.outcome
    simp only [download_steady h w.2 w.1]
  unfold flights
  rw [List.map_map]
  calc ((List.range issues.length).zip issues).map ((·.outcome source.lead) ∘ depart source)
      = ((List.range issues.length).zip issues).map (source.attempt ∘ Prod.snd) :=
        List.map_congr_left fun w _ => hone w
    _ = (((List.range issues.length).zip issues).map Prod.snd).map source.attempt := by
        rw [List.map_map]
    _ = issues.map source.attempt := by
        rw [List.map_snd_zip (by simp)]

end

/-- What holds at every moment while the notes of some issues are fetched. -/
structure Orderly (source : Source) (requested : Int) (noted : List Issue) (p : Pool) : Prop where
  few : (p.flying.length : Int) ≤ max requested 1
  /-- Each of the issues waits or has been attempted once, and no other one has. -/
  once : (p.waiting.map (·.2) ++ (p.flying ++ p.done).map (·.issue)).Perm noted
  /-- An attempt is the download of its own issue, and nothing else is asked for. -/
  own : ∀ f ∈ p.flying ++ p.done, f.download = source.download f.issue
  asked : p.asked.Perm ((p.flying ++ p.done).flatMap (·.download.asked))
  /-- There is an event to come until no download is left, and their number is known. -/
  goes_on : ¬p.Finished → ∃ q, Step source p q
  ends : ∀ q, Step source p q → p.left = q.left + 1

theorem flights_issues (source : Source) (issues : List Issue) :
    (flights source issues).map (·.issue) = issues := by
  unfold flights
  rw [List.map_map]
  exact List.map_snd_zip (by simp)

theorem Sound.orderly {source : Source} {answers : String → Tracker.Answer} {requested : Int}
    {noted : List Issue} {p : Pool} (hsteady : source.tracker = .steady answers)
    (h : Sound source (capacityFor requested) noted p) : Orderly source requested noted p where
  few := by
    have hfew := h.few
    unfold capacityFor at hfew
    omega
  once := by
    have hissues := h.all.map (·.issue)
    rw [flights_issues, List.map_append, List.map_map] at hissues
    exact hissues
  own := by
    intro f hf
    have hmem : f ∈ flights source noted := h.all.mem_iff.1 (List.mem_append_right _ hf)
    unfold flights at hmem
    obtain ⟨w, -, rfl⟩ := List.mem_map.1 hmem
    exact download_steady hsteady w.2 w.1
  asked := h.asked
  goes_on := h.goes_on (capacityFor_pos requested)
  ends := fun _ hstep => hstep.left

/-- **The schedule of downloads does not matter.** For trackers that answer each address in a fixed
way, with a page, any other reply or a failure of any kind: at every moment of every schedule at
most `max requested 1` downloads are in flight and each noted issue has been attempted once or still
waits; every schedule ends, with one outcome for each noted issue, in the order of the issues, which
carries its issue and either a note or an incident. So fetching all notes gives the same outcomes
whatever the concurrency and whatever is picked. -/
theorem fetchAll_any_order (answers : String → Tracker.Answer) (followed : Bool) (lead : String)
    (requested : Int) (issues : List Issue) :
    let source : Source := ⟨.steady answers, followed, lead⟩
    let noted := issues.filter Issue.hasNote
    let start := ofIssues (capacityFor requested) noted
    (∀ p, Reaches source start p →
      Orderly source requested noted p ∧
        (p.Finished → p.outcomes lead noted.length = noted.map source.attempt)) ∧
    (∀ i, (source.attempt i).issue = i ∧
      (source.attempt i).note.isSome = !(source.attempt i).incident.isSome) ∧
    ∀ picks, (source.fetchAll requested picks issues).outcomes = noted.map source.attempt ∧
      ∃ p, Reaches source start p ∧ p.Finished ∧
        (source.fetchAll requested picks issues).outcomes = p.outcomes lead noted.length ∧
        (source.fetchAll requested picks issues).asked = p.asked := by
  intro source noted start
  have hsteady : source.tracker = .steady answers := rfl
  have hsound : ∀ p, Reaches source start p → Sound source (capacityFor requested) noted p :=
    fun p => (sound_ofIssues source (capacityFor requested) noted).reaches
  refine ⟨?_, ?_, ?_⟩
  · intro p hreaches
    refine ⟨(hsound p hreaches).orderly hsteady, fun hend => ?_⟩
    rw [(hsound p hreaches).outcomes_eq hend lead]
    exact flights_steady hsteady noted
  · intro i
    exact ⟨outcome_issue lead _, outcome_either lead _⟩
  · intro picks
    refine ⟨?_, ?_⟩
    · rw [fetchAll_outcomes]
      exact flights_steady hsteady noted
    · obtain ⟨p, hreaches, hend, hfetch⟩ := reached_fetchAll source requested picks issues
      rw [hfetch]
      exact ⟨p, hreaches, hend, rfl, rfl⟩

end Pool

end Pamphlet.Release
