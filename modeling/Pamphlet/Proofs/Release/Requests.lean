import Pamphlet.Proofs.Page.Treatment

/-!
# What a download depends on

A download makes its requests one after the other, each because of what the one before was answered.
So trackers that answer these requests alike make the same download, whatever else they answer
(`download_congr`), and the notes of a list of issues depend on one tracker only through the
requests made for them (`noteFor_congr`).
-/

namespace Pamphlet

namespace Tracker

variable {answers answers' : Nat → String → Answer} {followed : Bool}

theorem ask_congr {here here' : String → Answer} {u : Url} (h : here' u.text = here u.text) :
    ask here' followed u = ask here followed u := by
  unfold ask
  rw [h]

/-- Only the answers to the addresses that are asked for, each at its turn, matter. -/
theorem follow_congr (redirects : Nat) {turn : Nat} {u : Url}
    (h : ∀ r ∈ (follow answers followed turn redirects u).2.zipIdx turn,
      answers' r.2 r.1 = answers r.2 r.1) :
    follow answers' followed turn redirects u = follow answers followed turn redirects u := by
  induction redirects generalizing turn u with
  | zero =>
    unfold follow at h ⊢
    have hfirst : answers' turn u.text = answers turn u.text := by
      refine h (u.text, turn) ?_
      split <;> exact List.mem_cons_self
    rw [ask_congr hfirst]
  | succ redirects ih =>
    unfold follow at h ⊢
    have hfirst : answers' turn u.text = answers turn u.text := by
      refine h (u.text, turn) ?_
      split <;> exact List.mem_cons_self
    rw [ask_congr hfirst]
    cases hask : ask (answers turn) followed u with
    | settled f => rfl
    | elsewhere next =>
      rw [hask] at h
      have hrest : follow answers' followed (turn + 1) redirects next =
          follow answers followed (turn + 1) redirects next :=
        ih fun r hr => h r (List.mem_cons_of_mem _ hr)
      simp only [hrest]

/-- The addresses that a download asks for, as requests. -/
def requests (place : Nat) (asked : List String) : List Request :=
  asked.zipIdx.map fun r => ⟨place, r.2, r.1⟩

theorem place_of_mem_requests {place : Nat} {asked : List String} {r : Request}
    (h : r ∈ requests place asked) : r.place = place := by
  obtain ⟨_, -, rfl⟩ := List.mem_map.1 h
  rfl

/-- A fetch depends only on the answers to what it asks. -/
theorem fetch_congr {tracker tracker' : Tracker} {place : Nat} {address : String}
    (h : ∀ r ∈ requests place (fetch tracker followed place address).2,
      tracker'.answer r = tracker.answer r) :
    fetch tracker' followed place address = fetch tracker followed place address := by
  unfold fetch at h ⊢
  cases hparse : Url.parse address with
  | error problem => rfl
  | ok u =>
    rw [hparse] at h
    exact follow_congr maxRedirects fun r hr => h _ (List.mem_map_of_mem hr)

end Tracker

namespace Release

open Tracker BugList

/-- The requests that the download of an issue makes at a place. -/
def Source.requests (source : Source) (i : Issue) (place : Nat) : List Request :=
  Tracker.requests place (source.download i place).asked

/-- A download depends only on the answers to what it asks. -/
theorem download_congr {source : Source} {tracker : Tracker} {i : Issue} {place : Nat}
    (h : ∀ r ∈ source.requests i place, tracker.answer r = source.tracker.answer r) :
    { source with tracker }.download i place = source.download i place := by
  unfold Source.requests at h
  unfold Source.download at h ⊢
  cases haddress : i.noteAddress.filter (· ≠ "") with
  | none => rfl
  | some address =>
    rw [haddress] at h
    simp only at h ⊢
    rw [fetch_congr h]

/-- The requests made for an issue of a list. -/
def Source.requestsFor (source : Source) (is : List Issue) (i : Issue) : List Request :=
  source.requests i ((is.filter Issue.hasNote).idxOf i)

/-- The note of an issue depends only on the answers to what is asked for it. -/
theorem noteFor_congr {source : Source} {tracker : Tracker} {is : List Issue} {i : Issue}
    (h : ∀ r ∈ source.requestsFor is i, tracker.answer r = source.tracker.answer r) :
    { source with tracker }.noteFor is i = source.noteFor is i := by
  unfold Source.noteFor
  rw [download_congr h]

/-! ## A list without one of its issues -/

theorem eraseIdx_findIdx {α : Type} {f : α → String} {x : String} {as : List α}
    (h : (as.map f).Nodup) : as.eraseIdx (as.findIdx (f · = x)) = as.filter (f · ≠ x) := by
  induction as with
  | nil => rfl
  | cons a as ih =>
    obtain ⟨hfirst, hrest⟩ := List.nodup_cons.1 h
    rw [List.findIdx_cons, List.filter_cons]
    by_cases hx : f a = x
    · have hothers : ∀ b ∈ as, decide (f b ≠ x) = true := by
        intro b hb
        rw [decide_eq_true_iff]
        rintro rfl
        exact hfirst (hx ▸ List.mem_map_of_mem hb)
      simp only [hx, decide_true, cond_true, List.eraseIdx_cons_zero, ne_eq, not_true_eq_false,
        decide_false, Bool.false_eq_true, if_false]
      exact (List.filter_eq_self.2 hothers).symm
    · simp only [hx, decide_false, cond_false, List.eraseIdx_cons_succ, ih hrest, ne_eq,
        not_false_eq_true, decide_true, if_true]

section

variable {source source' : Source} {is : List Issue} {k : Issue}

/-- The place of an issue among the notes that are shown; if it is not shown, none of them has
it. -/
def Source.placeOf (source : Source) (is : List Issue) (k : Issue) : Nat :=
  (source.shown is).findIdx (·.1.key = k.key)

theorem shown_keys_nodup (h : Distinct is) : ((source.shown is).map (·.1.key)).Nodup := by
  unfold Source.shown List.Nodup
  rw [List.pairwise_map, List.pairwise_filterMap]
  refine ((List.pairwise_map.1 h).filter _).imp ?_
  intro i j hne s hs t ht
  obtain ⟨_, -, rfl⟩ := Option.map_eq_some_iff.1 hs
  obtain ⟨_, -, rfl⟩ := Option.map_eq_some_iff.1 ht
  exact hne

/-- What is left of the notes that are shown without that of an issue. -/
theorem shown_eraseIdx (h : Distinct is) :
    (source.shown is).eraseIdx (source.placeOf is k) =
      (source.shown is).filter (·.1.key ≠ k.key) :=
  eraseIdx_findIdx (f := fun s : Issue × Note => s.1.key) (shown_keys_nodup h)

/-- At the place of an issue stands its note, if that could be had. -/
theorem shown_placeOf (h : Distinct is) (hk : k ∈ is) (hnote : k.hasNote = true) :
    (source.shown is)[source.placeOf is k]? =
      (source.noteFor is k).toOption.map fun n => (k, n) := by
  unfold Source.placeOf
  rw [← List.find?_eq_getElem?_findIdx]
  have hown : ∀ s ∈ source.shown is, s.1.key = k.key → s.1 = k ∧ source.noteFor is k = .ok s.2 := by
    rintro ⟨i, n⟩ hs hkey
    obtain ⟨hi, -, hread⟩ := mem_shown_iff.1 hs
    obtain rfl : i = k := h.eq_of_key hi hk hkey
    exact ⟨rfl, hread⟩
  cases hfound : (source.shown is).find? (·.1.key = k.key) with
  | some s =>
    obtain ⟨hkey, hread⟩ :=
      hown s (List.mem_of_find?_eq_some hfound) (by simpa using List.find?_some hfound)
    rw [hread, ← hkey]
    rfl
  | none =>
    cases hread : source.noteFor is k with
    | error f => rfl
    | ok n =>
      have hmem := mem_shown_iff.2 ⟨hk, hasNote_iff.1 hnote, hread⟩
      simpa using List.find?_eq_none.1 hfound _ hmem

/-- Two sources from which the notes of all issues of a list but one come alike. -/
def SameBut (k : Issue) (is : List Issue) (source source' : Source) : Prop :=
  ∀ i ∈ is, i.hasNote = true → i.key ≠ k.key → source'.noteFor is i = source.noteFor is i

theorem SameBut.shown (h : SameBut k is source source') :
    (source'.shown is).filter (·.1.key ≠ k.key) = (source.shown is).filter (·.1.key ≠ k.key) := by
  unfold Source.shown
  rw [List.filter_filterMap, List.filter_filterMap]
  refine List.filterMap_congr fun i hi => ?_
  obtain ⟨hi, hnote⟩ := List.mem_filter.1 hi
  by_cases hkey : i.key = k.key
  · cases source.noteFor is i <;> cases source'.noteFor is i <;> simp [hkey, Except.toOption,
      Option.filter]
  · rw [h i hi hnote hkey]

theorem SameBut.failures (h : SameBut k is source source') :
    (source'.failures is).filter (·.1.key ≠ k.key) =
      (source.failures is).filter (·.1.key ≠ k.key) := by
  unfold Source.failures
  rw [List.filter_filterMap, List.filter_filterMap]
  refine List.filterMap_congr fun i hi => ?_
  obtain ⟨hi, hnote⟩ := List.mem_filter.1 hi
  by_cases hkey : i.key = k.key
  · cases source.noteFor is i <;> cases source'.noteFor is i <;> simp [hkey, Option.filter]
  · rw [h i hi hnote hkey]

theorem SameBut.owed (h : SameBut k is source source') :
    (source'.owed is).filter (·.key ≠ k.key) = (source.owed is).filter (·.key ≠ k.key) := by
  unfold Source.owed
  rw [List.filter_filter, List.filter_filter]
  refine List.filter_congr fun i hi => ?_
  by_cases hkey : i.key = k.key
  · simp [hkey]
  · cases hnote : i.hasNote with
    | false => rfl
    | true => rw [h i hi hnote hkey]

end

end Release

end Pamphlet
