import Pamphlet.Proofs.Job.Steps

/-!
# Only the check finds a page broken

Reading a summary or a bug list, building a chapter and writing a page can fail in many ways, but
never as a failure of the program itself: `act_unbroken`.
-/

namespace Pamphlet

open Pamphlet.Release Pamphlet.Page Pamphlet.Job

/-- What may fail, but not as a broken page. -/
def Unbroken {α : Type} (e : Except Fault α) : Prop :=
  ∀ f, e = .error f → isBroken f = false

namespace Unbroken

variable {α β : Type}

theorem ok (x : α) : Unbroken (.ok x) := by
  intro f h
  cases h

theorem error {f : Fault} (h : isBroken f = false) : Unbroken (.error f : Except Fault α) := by
  intro f' he
  cases he
  exact h

/-- Two parts that do not break do not break one after the other. -/
theorem bind {e : Except Fault α} {g : α → Except Fault β} (he : Unbroken e)
    (hg : ∀ x, Unbroken (g x)) : Unbroken (e >>= g) := by
  cases e with
  | error f => exact error (he f rfl)
  | ok x => exact hg x

theorem map {e : Except Fault α} {g : α → β} (he : Unbroken e) : Unbroken (g <$> e) := by
  cases e with
  | error f => exact error (he f rfl)
  | ok x => exact ok (g x)

theorem mapError {ε : Type} {e : Except ε α} {g : ε → Fault} (h : ∀ x, isBroken (g x) = false) :
    Unbroken (e.mapError g) := by
  cases e with
  | error x => exact error (h x)
  | ok x => exact ok x

end Unbroken

/-! ## Reading -/

theorem Release.Summary.ofPayload_unbroken (fields : Record.Fields) :
    Unbroken (Summary.ofPayload fields) := by
  unfold Summary.ofPayload
  refine Unbroken.bind ?_ fun fields => ?_
  · unfold Summary.checkPayload
    split
    · exact .ok _
    · exact .error rfl
  · split
    · exact .ok _
    · exact .error rfl

theorem Release.Summary.ofBytes_unbroken (path : Disk.Path) (bytes : List UInt8) :
    Unbroken (Summary.ofBytes path bytes) := by
  unfold Summary.ofBytes
  split
  · exact .error rfl
  · exact .error rfl
  · simp only
    split
    · exact ofPayload_unbroken _
    · exact .error rfl

theorem Release.BugList.readRecord_unbroken (naming : Naming) (fields : List (List Char)) :
    Unbroken (BugList.readRecord naming fields) := by
  unfold BugList.readRecord
  split
  · simp only
    split
    · exact .ok _
    · split
      · split
        · refine Unbroken.bind (.map (.mapError fun _ => rfl)) fun noteAddress => ?_
          exact Unbroken.bind (.mapError fun _ => rfl) fun address => .ok _
        · refine Unbroken.bind (.ok none) fun noteAddress => ?_
          exact Unbroken.bind (.mapError fun _ => rfl) fun address => .ok _
      · exact .ok _
  · exact .ok _

/-- Whatever stands in the lines of a bug list, reading them does not break. -/
theorem Release.BugList.readLines_unbroken (path : Disk.Path) (naming : Naming)
    (lines : List (List Char)) (number : Nat) (list : BugList) :
    Unbroken (BugList.readLines path naming number list lines) := by
  induction lines generalizing number list with
  | nil => exact .ok _
  | cons line rest ih =>
    unfold BugList.readLines
    split
    · exact ih _ _
    · exact ih _ _
    · refine Unbroken.bind (readRecord_unbroken _ _) fun read => ?_
      split
      · exact .error rfl
      · exact ih _ _

theorem Release.BugList.ofBytes_unbroken (path : Disk.Path) (naming : Naming)
    (bytes : List UInt8) : Unbroken (BugList.ofBytes path naming bytes) := by
  unfold BugList.ofBytes
  split
  · exact readLines_unbroken _ _ _ _ _
  · exact Unbroken.bind (readLines_unbroken _ _ _ _ _) fun _ => .error rfl

theorem Release.BugList.checkPrevious_unbroken (previous : Option String) (expected : String) :
    Unbroken (BugList.checkPrevious previous expected) := by
  unfold BugList.checkPrevious
  split
  · exact .ok _
  · split
    · exact .ok _
    · exact .error rfl

theorem Page.Chapter.ofFragment_unbroken (title : String) (s : Summary) (t : Topic) :
    Unbroken (Chapter.ofFragment title s t) := by
  unfold Chapter.ofFragment Summary.fragment
  exact Unbroken.bind (.mapError fun _ => rfl) fun fragment => .ok _

/-! ## Steps -/

namespace Step

open Act

/-- Adding a chapter does not break if building it does not. -/
theorem addChapter_unbroken {field : String} {build : Summary → Except Fault Page.Section}
    (h : ∀ s, Unbroken (build s)) (j : Job) : Unbroken ((addChapter field build).on j).1 := by
  rw [on_addChapter]
  split
  · exact .error rfl
  · rename_i s hs
    split
    · rename_i f hf
      exact .error (h s f hf)
    · split
      · exact .error rfl
      · exact .ok _

/-- A step other than the check may fail, but not as a failure of the program itself. -/
theorem act_unbroken {s : Step} (a : Assignment) (j : Job) (hs : s ≠ .check) :
    Unbroken ((s.act a).on j).1 := by
  cases s with
  | check => exact absurd rfl hs
  | beginOutput | report => exact .ok _
  | loadSummary =>
    rw [act, on_loadSummary]
    split
    · rename_i problem hproblem
      refine .error ?_
      unfold readingFault
      split <;> rfl
    · rename_i bytes hbytes
      split
      · rename_i f hf
        exact .error (Summary.ofBytes_unbroken _ _ f hf)
      · exact .ok _
  | overview => exact addChapter_unbroken (fun s => Chapter.ofFragment_unbroken _ s _) j
  | newFeatures => exact addChapter_unbroken (fun s => Chapter.ofFragment_unbroken _ s _) j
  | verification => exact addChapter_unbroken (fun s => Chapter.ofFragment_unbroken _ s _) j
  | environment => exact addChapter_unbroken (fun _ => .ok _) j
  | loadIssues =>
    rw [act, on_loadIssues]
    split
    · exact .error rfl
    · split
      · rename_i f hf
        exact .error (BugList.ofBytes_unbroken _ _ _ f hf)
      · split
        · exact .error rfl
        · split
          · rename_i f hf
            exact .error (BugList.checkPrevious_unbroken _ _ f hf)
          · exact .ok _
  | bugFixes =>
    rw [act, on_bugFixes]
    split
    · exact .error rfl
    · split
      · exact .error rfl
      · exact .ok _
  | issues =>
    rw [act, on_issues]
    split
    · exact .error rfl
    · split
      · exact .error rfl
      · exact .ok _
  | substitute =>
    rw [act, on_substitute]
    split
    · exact .error rfl
    · split
      · exact .error rfl
      · exact .ok _
  | serialize =>
    rw [act, on_serialize]
    split
    · exact .error rfl
    · exact .ok _
  | write =>
    rw [act, on_write]
    split
    · exact .error rfl
    · exact .ok _

end Step

end Pamphlet
