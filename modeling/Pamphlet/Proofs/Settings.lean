import Pamphlet.Proofs.Release.BugList
import Pamphlet.Proofs.Text.Characters
import Pamphlet.Proofs.Text.Template
import Pamphlet.Settings

/-!
# Settings that a job can run with

What is looked for in settings is that the name of a field, in braces, occurs in each address
template. If the templates are plain then nothing more is needed (`accepted_runs`): every issue and
every note has an address that holds its id and belongs to it alone, and a bug list is never refused
for a template.
-/

namespace Pamphlet

open Pamphlet.Text Pamphlet.Release

namespace Release.BugList

variable {naming : Naming}

/-- The issue that a record describes is found by its name. -/
theorem readRecord_address {fields : List (List Char)} {i : Issue}
    (h : readRecord naming fields = .ok (.ok i)) :
    fillUrl naming.browseUrl "issue_id" (i.name naming.lead) = .ok i.address := by
  unfold readRecord at h
  split at h
  · simp only at h
    split at h
    · cases h
    · split at h
      · split at h
        all_goals
          obtain ⟨noteAddress, -, h⟩ := bind_ok h
          obtain ⟨address, haddress, h⟩ := bind_ok h
          cases h
          exact mapError_ok haddress
      · cases h
  · cases h

/-- Reading a line keeps it so that the address of each issue is the filled template. -/
theorem Reads.address {list next : BugList} {line : List Char} (h : Reads naming list line next)
    (hlist : ∀ i ∈ list.issues, fillUrl naming.browseUrl "issue_id" (i.name naming.lead) =
      .ok i.address) :
    ∀ i ∈ next.issues, fillUrl naming.browseUrl "issue_id" (i.name naming.lead) =
    .ok i.address := by
  cases h with
  | blank kind | comment kind => exact hlist
  | record kind read new =>
    intro i hi
    rcases List.mem_append.1 hi with hi | hi
    · exact hlist i hi
    · rw [List.mem_singleton.1 hi]
      exact readRecord_address read

/-- In a list that has been read, the address of each issue is the template filled with its name. -/
theorem ofBytes_address {path : Disk.Path} {bytes : List UInt8} {list : BugList}
    (h : ofBytes path naming bytes = .ok list) :
    ∀ i ∈ list.issues, fillUrl naming.browseUrl "issue_id" (i.name naming.lead) =
    .ok i.address := by
  obtain ⟨cs, -, hlist⟩ := ofBytes_ok h
  refine readLines_induct (P := fun list => ∀ i ∈ list.issues, _) Reads.address hlist ?_
  exact fun i hi => absurd hi List.not_mem_nil

/-! ## Templates that cannot fail -/

/-- Where templates can be filled, no record ends in a fault of a template. -/
theorem readRecord_ok_of_tells (hissue : Template.Tells naming.browseUrl "issue_id")
    (hnote : Template.Tells naming.attachmentUrl "attachment_id") (fields : List (List Char)) :
    ∃ read, readRecord naming fields = .ok read := by
  unfold readRecord
  split
  · rename_i first title hfields
    simp only
    split
    · exact ⟨_, rfl⟩
    · obtain ⟨address, haddress, -⟩ :=
        hissue.fill (naming.lead ++ String.ofList (keyOf naming.lead first))
      rw [fillUrl, haddress]
      split
      · split
        · rename_i digits hmark
          obtain ⟨noteAddress, hnoteAddress, -⟩ := hnote.fill (String.ofList digits)
          rw [fillUrl, hnoteAddress]
          exact ⟨_, rfl⟩
        · exact ⟨_, rfl⟩
      · exact ⟨_, rfl⟩
  · exact ⟨_, rfl⟩

theorem readLines_ne_template (hissue : Template.Tells naming.browseUrl "issue_id")
    (hnote : Template.Tells naming.attachmentUrl "attachment_id") (path : Disk.Path)
    (lines : List (List Char)) (number : Nat) (list : BugList) (problem : Template.Problem) :
    readLines path naming number list lines ≠ .error (.template problem) := by
  induction lines generalizing number list with
  | nil => exact fun h => nomatch h
  | cons line rest ih =>
    unfold readLines
    cases hline : Line.read line with
    | blank => exact ih _ _
    | comment previous => exact ih _ _
    | record fields =>
      obtain ⟨read, hread⟩ := readRecord_ok_of_tells hissue hnote fields
      simp only [hread, ok_bind]
      cases hcheck : read.bind (checkNew naming.lead list.issues) with
      | error problem => exact fun h => nomatch h
      | ok i => exact ih _ _

/-- Where templates can be filled, whatever is wrong with a bug list is not wrong with a
template. -/
theorem ofBytes_ne_template (hissue : Template.Tells naming.browseUrl "issue_id")
    (hnote : Template.Tells naming.attachmentUrl "attachment_id") (path : Disk.Path)
    (bytes : List UInt8)
    (problem : Template.Problem) : ofBytes path naming bytes ≠ .error (.template problem) := by
  have hlines (ls : List (List Char)) : ofLines path naming ls ≠ .error (.template problem) :=
    readLines_ne_template hissue hnote path _ _ _ problem
  unfold ofBytes
  split
  · exact hlines _
  · rename_i before fault hdecode
    have hended := hlines (Text.endedLines before)
    cases hread : ofLines path naming (Text.endedLines before) with
    | ok list => exact fun h => nomatch h
    | error f => exact fun h => hended (hread.trans h)

end Release.BugList

namespace Settings

theorem holds_iff (part cs : List Char) : holds part cs = true ↔ part <:+: cs := by
  induction cs with
  | nil => rw [holds, List.isEmpty_iff, List.infix_nil]
  | cons c cs ih => rw [holds, Bool.or_eq_true, List.isPrefixOf_iff_prefix, ih, List.infix_cons_iff]

/-- Accepted templates hold the texts of their fields somewhere. -/
theorem holds_of_accepted {s : Settings} (h : s.problems = []) :
    issueField.toList <:+: s.naming.browseUrl.toList ∧
      attachmentField.toList <:+: s.naming.attachmentUrl.toList := by
  simp only [problems, List.append_eq_nil_iff, ite_eq_left_iff, List.cons_ne_nil, imp_false,
    not_not] at h
  obtain ⟨⟨⟨⟨-, hissue⟩, hnote⟩, -⟩, -⟩ := h
  exact ⟨(holds_iff _ _).1 hissue, (holds_iff _ _).1 hnote⟩

theorem isName_issue : Template.IsName "issue_id".toList where
  ne_nil := List.cons_ne_nil _ _
  unmarked := forall_of_all (by decide)
  no_number := forall_of_all (by decide)

theorem isName_attachment : Template.IsName "attachment_id".toList where
  ne_nil := List.cons_ne_nil _ _
  unmarked := forall_of_all (by decide)
  no_number := forall_of_all (by decide)

/-- What settings promise to whoever reads a bug list. -/
structure Runs (naming : Naming) : Prop where
  /-- The address of an issue holds its name and belongs to no other name. -/
  issue : Template.Tells naming.browseUrl "issue_id"
  /-- The address of a note holds its number and belongs to no other number. -/
  note : Template.Tells naming.attachmentUrl "attachment_id"
  /-- Reading a bug list does not fail for a template. -/
  reads : ∀ path bytes problem, BugList.ofBytes path naming bytes ≠ .error (.template problem)
  /-- No two issues of a bug list have one address. -/
  addresses : ∀ path bytes list, BugList.ofBytes path naming bytes = .ok list →
    (list.issues.map (·.address)).Nodup

/-- **Accepted settings with plain templates are settings that a job can run with.** -/
theorem accepted_runs {s : Settings} (accepted : s.problems = [])
    (hissue : Template.Plain "issue_id" s.naming.browseUrl)
    (hnote : Template.Plain "attachment_id" s.naming.attachmentUrl) : Runs s.naming := by
  obtain ⟨hissueField, hnoteField⟩ := holds_of_accepted accepted
  have hissues := hissue.tells isName_issue hissueField
  have hnotes := hnote.tells isName_attachment hnoteField
  refine ⟨hissues, hnotes, BugList.ofBytes_ne_template hissues hnotes, ?_⟩
  intro path bytes list hlist
  have hkeys := BugList.ofBytes_distinct hlist
  refine List.Nodup.map_on ?_ (List.Nodup.of_map _ hkeys)
  intro i hi j hj he
  have hi' := BugList.ofBytes_address hlist i hi
  have hj' := BugList.ofBytes_address hlist j hj
  rw [← he] at hj'
  have hname := hissues.injective _ _ _ hi' hj'
  refine hkeys.eq_of_key hi hj ?_
  exact String.append_right_inj _ |>.1 hname

/-- The usual settings are accepted, and each template has one field and no other braces. -/
theorem accepted_runs_standard :
    standard.problems = [] ∧ Template.Plain "issue_id" standard.naming.browseUrl ∧
      Template.Plain "attachment_id" standard.naming.attachmentUrl ∧ Runs standard.naming := by
  have haccepted : standard.problems = [] := by decide +kernel
  have hissue : Template.Plain "issue_id" standard.naming.browseUrl :=
    Template.plain_of_field "https://issues.apache.org/jira/browse/".toList []
      (by decide +kernel) (forall_of_all (by decide +kernel)) (List.forall_mem_nil _)
  have hnote : Template.Plain "attachment_id" standard.naming.attachmentUrl :=
    Template.plain_of_field "https://issues.apache.org/jira/secure/attachment/".toList
      "/releaseNote.html".toList (by decide +kernel) (forall_of_all (by decide +kernel))
      (forall_of_all (by decide +kernel))
  exact ⟨haccepted, hissue, hnote, accepted_runs haccepted hissue hnote⟩

end Settings

end Pamphlet
