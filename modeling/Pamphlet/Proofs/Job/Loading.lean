import Pamphlet.Proofs.Disk.Place
import Pamphlet.Proofs.Fault
import Pamphlet.Proofs.Job.Steps
import Pamphlet.Proofs.Markup.Labels
import Pamphlet.Proofs.Release.Required

/-!
# Loading the summary

How the first step can end, for every path and whatever the bytes of the file are
(`loadSummary_endings`). A file that cannot be read or is no summary document and one that leaves a
required element out are faults of the catalog. There are three other faults, which the catalog does
not know: a path has a null character, so that no disk is asked for the file; a file declares an
encoding without a table of characters; a file names a release in more characters than a summary has
room for.
-/

namespace Pamphlet.Release.Summary

open Pamphlet.Text Pamphlet.Markup Pamphlet.Record Pamphlet.Record.Intake

/-! ## Files -/

/-- The file is a summary document; its root counts without namespaces. -/
inductive Document (disk : Disk) (path : Disk.Path) : Element → Prop
  | intro {bytes : List UInt8} {root : Element} (read : disk.read path = .ok bytes)
      (parsed : parse (.bytes bytes) false = .ok root) (tag : root.plain.tag? = some "summary") :
      Document disk path root.plain

/-- The disk does not give the file, or it is not well-formed, or has another root. -/
inductive Unfit (disk : Disk) (path : Disk.Path) : Prop
  | unreadable {problem : Disk.FileProblem} (asked : path.hasNull = false)
      (read : disk.read path = .error problem)
  | malformed {bytes : List UInt8} {complaint : Complaint} (read : disk.read path = .ok bytes)
      (parsed : parse (.bytes bytes) false = .error (.complaint complaint))
  | foreign {bytes : List UInt8} {root : Element} (read : disk.read path = .ok bytes)
      (parsed : parse (.bytes bytes) false = .ok root) (tag : root.plain.tag? ≠ some "summary")

/-- The path has a null character; or the file declares an encoding without a table of characters,
or tells all that it has to tell and a name of a release that is too long. -/
inductive Unforeseen (disk : Disk) (path : Disk.Path) : Prop
  | null (unasked : path.hasNull = true)
  | label {bytes : List UInt8} {failure : Failure} (read : disk.read path = .ok bytes)
      (declared : Unsupported bytes failure)
  | length {root : Element} {t : Topic} (document : Document disk path root) (told : Told root)
      (overlong : Overlong root t)

/-- What a document makes is what its payload makes. -/
theorem Document.ofBytes {disk : Disk} {path : Disk.Path} {root : Element}
    (h : Document disk path root) :
    ∃ bytes, disk.read path = .ok bytes ∧ ofBytes path bytes = ofPayload (payload root) := by
  obtain ⟨read, parsed, tag⟩ := h
  refine ⟨_, read, ?_⟩
  rw [Summary.ofBytes, parsed]
  simp only [tag]

/-- Each path leads to one of four kinds of files. -/
theorem file_kinds (disk : Disk) (path : Disk.Path) :
    (∃ root, Document disk path root ∧ Told root ∧ ∀ t, ¬Overlong root t) ∨ Unfit disk path ∨
      (∃ root, Document disk path root ∧ ∃ t, Lacking root t) ∨ Unforeseen disk path := by
  cases hread : disk.read path with
  | error problem =>
    cases hnull : path.hasNull with
    | true => exact .inr (.inr (.inr (.null hnull)))
    | false => exact .inr (.inl (.unreadable hnull hread))
  | ok bytes =>
    obtain ⟨root, hparse⟩ | ⟨c, hparse⟩ | ⟨failure, hlabel⟩ := parse_kinds bytes false
    · by_cases htag : root.plain.tag? = some "summary"
      · have hdocument := Document.intro hread hparse htag
        by_cases hlacking : ∃ t, Lacking root.plain t
        · exact .inr (.inr (.inl ⟨_, hdocument, hlacking⟩))
        · have htold : Told root.plain := fun t ht => hlacking ⟨t, ht⟩
          by_cases hlong : ∃ t, Overlong root.plain t
          · obtain ⟨t, ht⟩ := hlong
            exact .inr (.inr (.inr (.length hdocument htold ht)))
          · exact .inl ⟨_, hdocument, htold, fun t ht => hlong ⟨t, ht⟩⟩
      · exact .inr (.inl (.foreign hread hparse htag))
    · exact .inr (.inl (.malformed hread hparse))
    · exact .inr (.inr (.inr (.label hread hlabel)))

end Pamphlet.Release.Summary

/-! ## The step -/

namespace Pamphlet.Act

open Pamphlet.Markup Pamphlet.Release Pamphlet.Release.Summary

variable {a : Assignment} {j : Job}

/-- What is no summary document fails under the code for such files. -/
theorem loadSummary_of_unfit (h : Unfit j.disk a.summaryPath) :
    FailsWith ((loadSummary a).on j).1 (some "SUMMARY_INVALID") := by
  rw [on_loadSummary]
  cases h with
  | @unreadable problem asked read =>
    have htrouble : problem.trouble ≠ .null := fun htrouble =>
      Bool.false_ne_true (asked.symm.trans ((Disk.read_error read).1 htrouble))
    rw [read]
    simp only [readingFault, if_neg htrouble]
    exact ⟨_, rfl, rfl⟩
  | malformed read parsed =>
    rw [read]
    simp only
    rw [ofBytes, parsed]
    exact ⟨_, rfl, rfl⟩
  | @foreign bytes root read parsed tag =>
    rw [read]
    simp only
    rw [ofBytes, parsed]
    simp only
    exact ⟨_, rfl, rfl⟩

/-- Three kinds of files fail under no code. -/
theorem loadSummary_of_unforeseen (h : Unforeseen j.disk a.summaryPath) :
    FailsWith ((loadSummary a).on j).1 none := by
  cases h with
  | null unasked =>
    cases hread : j.disk.read a.summaryPath with
    | ok bytes => exact absurd unasked (Bool.eq_false_iff.1 (Disk.read_ok hread))
    | error problem =>
      have htrouble := (Disk.read_error hread).2 unasked
      rw [on_loadSummary, hread]
      simp only [readingFault, if_pos htrouble]
      exact ⟨_, rfl, rfl⟩
  | @label bytes failure read declared =>
    have hparse : parse (.bytes bytes) false = .error failure :=
      (parse_eq_error_iff declared.ne_complaint).2 declared
    rw [on_loadSummary, read]
    simp only
    rw [ofBytes, hparse]
    cases declared with
    | unknown | notText | multiByte | broken => exact ⟨_, rfl, rfl⟩
  | length document told overlong =>
    obtain ⟨bytes, read, hbytes⟩ := document.ofBytes
    obtain ⟨vs, hpayload⟩ := told.ofPayload_of_overlong overlong
    rw [on_loadSummary, read]
    simp only [hbytes, hpayload]
    exact ⟨_, rfl, rfl⟩

/-- A document that leaves a required element out is incomplete. -/
theorem loadSummary_of_lacking {root : Element} {t : Topic} (h : Document j.disk a.summaryPath root)
    (hlacking : Lacking root t) :
    FailsWith ((loadSummary a).on j).1 (some "VALIDATION_FAILED") := by
  obtain ⟨bytes, read, hbytes⟩ := h.ofBytes
  obtain ⟨problems, hpayload⟩ := ofPayload_of_lacking hlacking
  rw [on_loadSummary, read]
  simp only [hbytes, hpayload]
  exact ⟨_, rfl, rfl⟩

/-- All else is a summary. -/
theorem loadSummary_of_told {root : Element} (h : Document j.disk a.summaryPath root)
    (htold : Told root) (hshort : ∀ t, ¬Overlong root t) :
    ∃ s, (loadSummary a).on j = (.ok "", { j with summary := some s }) := by
  obtain ⟨bytes, read, hbytes⟩ := h.ofBytes
  obtain ⟨s, hpayload⟩ := htold.ofPayload_ok hshort
  refine ⟨s, ?_⟩
  rw [on_loadSummary, read]
  simp only [hbytes, hpayload]

/-- **How loading a summary ends**, for every path and every content of the file: in a summary, in
the two faults of the catalog, or in a fault that is not in it, and each of them exactly in its own
case. How deep elements may stand in each other is left aside: there is no limit here, where a
reader that calls itself for each element would have one. -/
theorem loadSummary_endings (a : Assignment) (j : Job) :
    ((∃ s, (loadSummary a).on j = (.ok "", { j with summary := some s })) ↔
      ∃ root, Document j.disk a.summaryPath root ∧ Told root ∧ ∀ t, ¬Overlong root t) ∧
    (FailsWith ((loadSummary a).on j).1 (some "SUMMARY_INVALID") ↔ Unfit j.disk a.summaryPath) ∧
    (FailsWith ((loadSummary a).on j).1 (some "VALIDATION_FAILED") ↔
      ∃ root, Document j.disk a.summaryPath root ∧ ∃ t, Lacking root t) ∧
    (FailsWith ((loadSummary a).on j).1 none ↔ Unforeseen j.disk a.summaryPath) := by
  refine endings_iff (by decide) ?_ ?_ loadSummary_of_unfit ?_ loadSummary_of_unforeseen
    (file_kinds _ _)
  · rintro ⟨s, hs⟩
    exact ⟨_, congrArg Prod.fst hs⟩
  · rintro ⟨root, h, htold, hshort⟩
    exact loadSummary_of_told h htold hshort
  · rintro ⟨root, h, t, hlacking⟩
    exact loadSummary_of_lacking h hlacking

end Pamphlet.Act
