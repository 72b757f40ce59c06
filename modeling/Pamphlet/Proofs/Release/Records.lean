import Pamphlet.Proofs.Release.Grammar

/-!
# Good and bad records

A line of a bug list that is neither blank nor a comment is a record, and a record may be `Bad` in
four ways. What one record comes to, after the records before it, is `readRecord_verdict`: it is
refused for its first problem, or it has none and becomes an issue. So a list is refused exactly if
it has a bad record, for the first problem of the first one, and otherwise has an issue for each
record, in order (`ofBytes_verdict`).
-/

namespace Pamphlet.Release.BugList

open Pamphlet.Text

/-! ## Records -/

/-- A line that is neither blank nor a comment. -/
def IsRecord (line : List Char) : Prop :=
  (∃ c ∈ line, isBlank c = false) ∧ ¬commentMark <+: line

instance : DecidablePred IsRecord := fun line =>
  have : Decidable (∃ c ∈ line, isBlank c = false) := List.decidableBEx _ _
  inferInstanceAs (Decidable (_ ∧ _))

/-- The records among some lines. -/
def records (rows : List (List Char)) : List (List Char) :=
  rows.filter (IsRecord ·)

/-- The key that a record gives to its issue. -/
def keyIn (lead : String) (line : List Char) : List Char :=
  keyOf lead ((splitOn '\t' line).headD [])

/-- What a record says of the release note. -/
def noteIn (line : List Char) : List Char :=
  trimChars ((splitOn '\t' line)[3]?.getD [])

/-- What a record is an entry for. -/
def entryIn (lead : String) (line : List Char) (mark : NoteMark) : Entry where
  key := keyIn lead line
  title := trimChars ((splitOn '\t' line)[1]?.getD [])
  versions := ((splitOn ',' ((splitOn '\t' line)[2]?.getD [])).map trimChars).filter (!·.isEmpty)
  note := mark

/-- A record has become an issue. -/
def Recorded (naming : Naming) (line : List Char) (i : Issue) : Prop :=
  ∃ mark, NoteMark.Says (noteIn line) mark ∧ (entryIn naming.lead line mark).Describes naming i

theorem Recorded.key_eq {naming : Naming} {line : List Char} {i : Issue}
    (h : Recorded naming line i) : i.key = String.ofList (keyIn naming.lead line) := by
  obtain ⟨mark, -, hdescribes⟩ := h
  exact hdescribes.key

/-- The addresses that a record needs can be made. -/
structure Formats (naming : Naming) (line : List Char) : Prop where
  browse : ∃ address,
    fillUrl naming.browseUrl "issue_id" (naming.lead ++ String.ofList (keyIn naming.lead line)) =
      .ok address
  attachment : ∀ digits, NoteMark.Says (noteIn line) (.id digits) →
    ∃ address, fillUrl naming.attachmentUrl "attachment_id" (String.ofList digits) = .ok address

/-! ## Problems -/

/-- A record has a problem, where `earlier` are the records before it. -/
inductive Bad (lead : String) (earlier : List (List Char)) (line : List Char) : RecordProblem → Prop
  | tooFewFields (h : (splitOn '\t' line).length < 2) : Bad lead earlier line .tooFewFields
  | emptyKey (h : keyIn lead line = []) : Bad lead earlier line .emptyKey
  | badAttachment (h : ∀ mark, ¬NoteMark.Says (noteIn line) mark) :
    Bad lead earlier line (.badAttachment (String.ofList (noteIn line)))
  | duplicate (h : ∃ other ∈ earlier, keyIn lead other = keyIn lead line) :
    Bad lead earlier line (.duplicate (lead ++ String.ofList (keyIn lead line)))

/-- The order of the problems of one record. -/
def rank : RecordProblem → Nat
  | .tooFewFields => 0
  | .emptyKey => 1
  | .badAttachment _ => 2
  | .duplicate _ => 3

/-- A line has at most one problem of each rank. -/
theorem Bad.eq_of_rank {lead : String} {earlier : List (List Char)} {line : List Char}
    {p q : RecordProblem}
    (hp : Bad lead earlier line p) (hq : Bad lead earlier line q) (h : rank p = rank q) :
    p = q := by
  cases hp <;> cases hq <;> first | rfl | cases h

/-- The line of a number is a record with a problem. -/
def BadAt (lead : String) (rows : List (List Char)) (number : Nat)
    (problem : RecordProblem) : Prop :=
  ∃ before line after, rows = before ++ line :: after ∧ number = before.length + 1 ∧ IsRecord line ∧
    Bad lead (records before) line problem

/-- The first problem of the first bad record. -/
structure FirstBad (lead : String) (rows : List (List Char)) (number : Nat)
    (problem : RecordProblem) : Prop where
  bad : BadAt lead rows number problem
  first_line : ∀ n p, BadAt lead rows n p → number ≤ n
  first_problem : ∀ p, BadAt lead rows number p → rank problem ≤ rank p

section

variable {lead : String} {rows before after : List (List Char)} {line : List Char}
    {p : RecordProblem}

/-- The problems of the line between given lines. -/
theorem badAt_iff : BadAt lead (before ++ line :: after) (before.length + 1) p ↔
    IsRecord line ∧ Bad lead (records before) line p := by
  constructor
  · rintro ⟨before', line', after', hrows, hnumber, hline, hbad⟩
    obtain ⟨rfl, htail⟩ := List.append_inj hrows (Nat.succ.inj hnumber)
    cases htail
    exact ⟨hline, hbad⟩
  · rintro ⟨hline, hbad⟩
    exact ⟨before, line, after, rfl, rfl, hline, hbad⟩

theorem BadAt.le_length {n : Nat} (h : BadAt lead rows n p) : n ≤ rows.length := by
  obtain ⟨before, line, after, rfl, rfl, -⟩ := h
  rw [List.length_append, List.length_cons]
  omega

/-- There is one first bad record, with one problem. -/
theorem FirstBad.unique {n m : Nat} {q : RecordProblem} (hn : FirstBad lead rows n p)
    (hm : FirstBad lead rows m q) : n = m ∧ p = q := by
  have hline : n = m := Nat.le_antisymm (hn.first_line m q hm.bad) (hm.first_line n p hn.bad)
  subst hline
  refine ⟨rfl, ?_⟩
  obtain ⟨before, line, after, rfl, rfl, hline, hp⟩ := hn.bad
  have hq := (badAt_iff.1 hm.bad).2
  exact hp.eq_of_rank hq (Nat.le_antisymm (hn.first_problem q hm.bad) (hm.first_problem p hn.bad))

end

/-! ## Reading a record -/

theorem readRecord_of_short {naming : Naming} {fields : List (List Char)} (h : fields.length < 2) :
    readRecord naming fields = .ok (.error .tooFewFields) := by
  match fields, h with
  | [], _ => rfl
  | [_], _ => rfl

section

variable {naming : Naming} {first title : List Char} {more : List (List Char)}

theorem readRecord_of_no_key (hkey : keyOf naming.lead first = []) :
    readRecord naming (first :: title :: more) = .ok (.error .emptyKey) := by
  unfold readRecord
  simp only [List.take, hkey]
  rfl

theorem readRecord_of_no_mark (hkey : keyOf naming.lead first ≠ [])
    (hmark : NoteMark.read? (trimChars ((first :: title :: more)[3]?.getD [])) = none) :
    readRecord naming (first :: title :: more) =
      .ok (.error
        (.badAttachment (String.ofList (trimChars ((first :: title :: more)[3]?.getD []))))) := by
  have hne : String.ofList (keyOf naming.lead first) ≠ "" :=
    fun h => hkey (String.ofList_injective h)
  unfold readRecord
  simp only [List.take, hne, if_false, hmark]
  rfl

end

theorem checkNew_of_seen {lead : String} {seen : List Issue} {i : Issue}
    (h : ∃ j ∈ seen, j.key = i.key) : checkNew lead seen i = .error (.duplicate (i.name lead)) := by
  unfold checkNew
  rw [if_pos]
  obtain ⟨j, hj, hkey⟩ := h
  exact List.any_eq_true.2 ⟨j, hj, beq_iff_eq.2 hkey⟩

/-- The issues of some records have their keys. -/
theorem seen_iff {naming : Naming} {earlier : List (List Char)} {issues : List Issue}
    (h : List.Forall₂ (Recorded naming) earlier issues) (key : List Char) :
    (∃ j ∈ issues, j.key = String.ofList key) ↔
    ∃ other ∈ earlier, keyIn naming.lead other = key := by
  induction h with
  | nil => simp
  | cons hrecorded _ ih =>
    rw [List.exists_mem_cons_iff, List.exists_mem_cons_iff, ih, hrecorded.key_eq, String.ofList_inj]

/-- What becomes of a record. -/
inductive Verdict (naming : Naming) (earlier : List (List Char)) (line : List Char)
    (issues : List Issue) : Prop
  | refused {p : RecordProblem} (bad : Bad naming.lead earlier line p)
    (first : ∀ q, Bad naming.lead earlier line q → rank p ≤ rank q)
      {read : Except RecordProblem Issue}
    (hread : readRecord naming (splitOn '\t' line) = .ok read)
    (hcheck : read.bind (checkNew naming.lead issues) = .error p)
  | accepted {i : Issue} (good : ∀ p, ¬Bad naming.lead earlier line p)
      (recorded : Recorded naming line i)
    (hread : readRecord naming (splitOn '\t' line) = .ok (.ok i))
      (hnew : ∀ j ∈ issues, j.key ≠ i.key)

/-- A record that can be read is accepted if its key is new. -/
theorem verdict_of_read {naming : Naming} {earlier : List (List Char)} {line : List Char}
    {issues : List Issue} (hissues : List.Forall₂ (Recorded naming) earlier issues)
    (hshort : ¬(splitOn '\t' line).length < 2)
    (hkey : keyIn naming.lead line ≠ []) {i : Issue} (hrecorded : Recorded naming line i)
    (hread : readRecord naming (splitOn '\t' line) = .ok (.ok i)) :
    Verdict naming earlier line issues := by
  have hseen := seen_iff hissues (keyIn naming.lead line)
  rw [← hrecorded.key_eq] at hseen
  obtain ⟨mark, hsays, -⟩ := id hrecorded
  by_cases hdup : ∃ other ∈ earlier, keyIn naming.lead other = keyIn naming.lead line
  · refine .refused (.duplicate hdup) ?_ hread ?_
    · rintro q (h | h | h | _)
      · exact absurd h hshort
      · exact absurd h hkey
      · exact absurd hsays (h mark)
      · exact Nat.le_refl _
    · rw [← hrecorded.key_eq]
      exact checkNew_of_seen (hseen.2 hdup)
  · refine .accepted ?_ hrecorded hread fun j hj he => hdup (hseen.1 ⟨j, hj, he⟩)
    rintro p (h | h | h | h)
    · exact hshort h
    · exact hkey h
    · exact h mark hsays
    · exact hdup h

/-- A record is refused for its first problem, or it has none and becomes an issue. -/
theorem readRecord_verdict {naming : Naming} {earlier : List (List Char)} {line : List Char}
    {issues : List Issue}
    (hissues : List.Forall₂ (Recorded naming) earlier issues) (hformat : Formats naming line) :
    Verdict naming earlier line issues := by
  by_cases hshort : (splitOn '\t' line).length < 2
  · exact .refused (.tooFewFields hshort) (fun _ _ => Nat.zero_le _)
      (readRecord_of_short hshort) rfl
  obtain ⟨first, title, more, hsplit⟩ :
      ∃ first title more, splitOn '\t' line = first :: title :: more := by
    match hfields : splitOn '\t' line with
    | [] | [_] => simp [hfields] at hshort
    | first :: title :: more => exact ⟨first, title, more, rfl⟩
  have hfirst : keyIn naming.lead line = keyOf naming.lead first := by
    rw [keyIn, hsplit, List.headD_cons]
  have hnote : noteIn line = trimChars ((first :: title :: more)[3]?.getD []) := by
    rw [noteIn, hsplit]
  by_cases hkey : keyIn naming.lead line = []
  · refine .refused (.emptyKey hkey) ?_
      (by rw [hsplit]; exact readRecord_of_no_key (hfirst ▸ hkey)) rfl
    rintro q (h | _ | _ | _)
    · exact absurd h hshort
    · exact Nat.le_refl _
    · exact Nat.le_succ _
    · exact Nat.le_add_right 1 2
  cases hmark : NoteMark.read? (noteIn line) with
  | none =>
    have hsays : ∀ mark, ¬NoteMark.Says (noteIn line) mark := by
      intro mark h
      rw [NoteMark.read?_eq_some_iff.2 h] at hmark
      cases hmark
    refine .refused (.badAttachment hsays) ?_
      (by rw [hsplit]; exact readRecord_of_no_mark (hfirst ▸ hkey) (hnote ▸ hmark))
        (by rw [hnote]; rfl)
    rintro q (h | h | _ | _)
    · exact absurd h hshort
    · exact absurd h hkey
    · exact Nat.le_refl _
    · exact Nat.le_succ _
  | some mark =>
    have hsays := NoteMark.read?_eq_some_iff.1 hmark
    obtain ⟨address, hbrowse⟩ := hformat.browse
    obtain ⟨i, hread, hdescribes⟩ := readRecord_of_mark title more (hfirst ▸ hkey)
      (hnote ▸ hmark) (hfirst ▸ hbrowse) fun digits hdigits => hformat.attachment digits
        (hdigits ▸ hsays)
    have hrecorded : Recorded naming line i := by
      refine ⟨mark, hsays, ?_⟩
      rw [entryIn, hfirst, hsplit]
      exact hdescribes
    exact verdict_of_read hissues hshort hkey hrecorded (hsplit ▸ hread)

/-! ## Reading a list -/

theorem read_of_record {line : List Char} (h : IsRecord line) :
    Line.read line = .record (splitOn '\t' line) := by
  obtain ⟨⟨c, hc, hblank⟩, hcomment⟩ := h
  unfold Line.read
  rw [if_neg ?_, if_neg fun h => hcomment (List.isPrefixOf_iff_prefix.1 h)]
  intro hall
  have hc' := List.all_eq_true.1 hall c hc
  rw [hblank] at hc'
  cases hc'

/-- A line is read as a record exactly if it is one. -/
theorem read_eq_record_iff {line : List Char} {fields : List (List Char)} :
    Line.read line = .record fields ↔ IsRecord line ∧ fields = splitOn '\t' line := by
  by_cases h : IsRecord line
  · rw [read_of_record h, Line.record.injEq, and_iff_right h, eq_comm]
  · refine iff_of_false (fun hread => h ?_) fun hand => h hand.1
    unfold Line.read at hread
    split at hread
    · cases hread
    · rename_i hblank
      split at hread
      · cases hread
      · rename_i hcomment
        refine ⟨?_, fun h => hcomment (List.isPrefixOf_iff_prefix.2 h)⟩
        simpa using hblank

/-- Any other line leaves the issues as they are. -/
theorem reads_of_not_record (naming : Naming) (list : BugList) {line : List Char}
    (h : ¬IsRecord line) :
    ∃ next, next.issues = list.issues ∧
    ∀ (path : Disk.Path) (number : Nat) (rest : List (List Char)),
      readLines path naming number list (line :: rest) =
      readLines path naming (number + 1) next rest := by
  cases hread : Line.read line with
  | blank => exact ⟨list, rfl, fun path number rest => by rw [readLines, hread]⟩
  | comment previous =>
    exact ⟨{ list with previous := list.previous <|> previous }, rfl, fun path number rest => by
      rw [readLines, hread]⟩
  | record fields => exact absurd (read_eq_record_iff.1 hread).1 h

/-- A record more at the end is the last of the records. -/
theorem records_append_of_record {rows : List (List Char)} {line : List Char} (h : IsRecord line) :
    records (rows ++ [line]) = records rows ++ [line] := by
  simp [records, List.filter_append, h]

theorem records_append_of_not_record {rows : List (List Char)} {line : List Char}
    (h : ¬IsRecord line) : records (rows ++ [line]) = records rows := by
  simp [records, List.filter_append, h]

/-- Where the lines `done` have been read and none of them is bad, the rest is read to the end, or
up to the first bad record. -/
theorem readLines_verdict (path : Disk.Path) {naming : Naming} (done rest : List (List Char))
    (list : BugList) (hlist : List.Forall₂ (Recorded naming) (records done) list.issues)
    (hdone : ∀ n p, BadAt naming.lead (done ++ rest) n p → done.length < n)
    (hformat : ∀ line ∈ rest, IsRecord line → Formats naming line) :
    (∃ n p, FirstBad naming.lead (done ++ rest) n p ∧
      readLines path naming (done.length + 1) list rest = .error (.badRecord path n p)) ∨
    (∀ n p, ¬BadAt naming.lead (done ++ rest) n p) ∧ ∃ out,
      readLines path naming (done.length + 1) list rest = .ok out ∧
        List.Forall₂ (Recorded naming) (records (done ++ rest)) out.issues := by
  induction rest generalizing done list with
  | nil =>
    rw [List.append_nil] at hdone ⊢
    refine .inr ⟨fun n p h => ?_, list, rfl, hlist⟩
    exact absurd (hdone n p h) (Nat.not_lt.2 h.le_length)
  | cons line rest ih =>
    obtain ⟨hline, hrest⟩ := List.forall_mem_cons.1 hformat
    -- a line that is not bad joins those that have been read
    have hnext : (∀ p, ¬BadAt naming.lead (done ++ line :: rest) (done.length + 1) p) →
        ∀ n p, BadAt naming.lead (done ++ [line] ++ rest) n p → (done ++ [line]).length < n := by
      intro hgood n p h
      rw [List.append_assoc, List.singleton_append] at h
      rw [List.length_append, List.length_singleton]
      refine Nat.lt_of_le_of_ne (hdone n p h) ?_
      rintro rfl
      exact hgood p h
    have hsplit : done ++ line :: rest = done ++ [line] ++ rest := by
      rw [List.append_assoc, List.singleton_append]
    by_cases hrecord : IsRecord line
    · rw [readLines, read_of_record hrecord]
      cases readRecord_verdict hlist (hline hrecord) with
      | refused bad first hread hcheck =>
        refine .inl ⟨done.length + 1, _, ⟨badAt_iff.2 ⟨hrecord, bad⟩, hdone, fun q hq => ?_⟩, ?_⟩
        · exact first q (badAt_iff.1 hq).2
        · simp only [hread, ok_bind, hcheck]
          rfl
      | accepted good recorded hread hnew =>
        rename_i i
        let next : BugList := { list with issues := list.issues ++ [i] }
        have hlist' : List.Forall₂ (Recorded naming) (records (done ++ [line])) next.issues := by
          rw [records_append_of_record hrecord]
          exact List.rel_append hlist (.cons recorded .nil)
        have hcheck :
            (Except.ok i : Except RecordProblem Issue).bind
            (checkNew naming.lead list.issues) = .ok i :=
          checkNew_of_new hnew
        have hih :=
          ih (done ++ [line]) next hlist' (hnext fun p hp => good p (badAt_iff.1 hp).2) hrest
        rw [List.length_append, List.length_singleton] at hih
        simp only [hread, ok_bind, hcheck, hsplit]
        exact hih
    · obtain ⟨next, hissues, hread⟩ := reads_of_not_record naming list hrecord
      have hlist' : List.Forall₂ (Recorded naming) (records (done ++ [line])) next.issues := by
        rwa [records_append_of_not_record hrecord, hissues]
      have hih :=
        ih (done ++ [line]) next hlist' (hnext fun p hp => hrecord (badAt_iff.1 hp).1) hrest
      rw [List.length_append, List.length_singleton] at hih
      rw [hread, hsplit]
      exact hih

/-- **A bug list is refused for its first bad record**, with the number of the line and the first
problem that the record has. If no record is bad, each becomes an issue, in the order of the
lines. -/
theorem ofBytes_verdict (path : Disk.Path) {naming : Naming} {text : String}
    (hformat : ∀ line ∈ lines text.toList, IsRecord line → Formats naming line) :
    (∀ number problem, ofBytes path naming (Utf8.encode text) =
      .error (.badRecord path number problem) ↔
      FirstBad naming.lead (lines text.toList) number problem) ∧
    ((∃ number problem, ofBytes path naming (Utf8.encode text) =
      .error (.badRecord path number problem)) ↔
      ∃ number problem, BadAt naming.lead (lines text.toList) number problem) ∧
    ((¬∃ number problem, BadAt naming.lead (lines text.toList) number problem) →
      ∃ list, ofBytes path naming (Utf8.encode text) = .ok list ∧
        List.Forall₂ (Recorded naming) (records (lines text.toList)) list.issues) := by
  have hread :
      ofBytes path naming (Utf8.encode text) =
      readLines path naming 1 ⟨[], none⟩ (lines text.toList) := by
    rw [ofBytes_of_decode (Utf8.decode_encode text)]
    rfl
  have hdone : ∀ n p, BadAt naming.lead (lines text.toList) n p → 0 < n := by
    rintro n p ⟨before, -, -, -, rfl, -⟩
    exact Nat.succ_pos _
  rw [hread]
  rcases readLines_verdict path [] (lines text.toList) ⟨[], none⟩ .nil hdone hformat with
    ⟨n, p, hfirst, herror⟩ | ⟨hgood, list, hok, hissues⟩
  · rw [List.length_nil, Nat.zero_add] at herror
    rw [herror]
    refine ⟨fun number problem => ⟨?_, fun h => ?_⟩,
      ⟨fun _ => ⟨n, p, hfirst.bad⟩, fun _ => ⟨n, p, rfl⟩⟩, ?_⟩
    · rintro ⟨⟩
      exact hfirst
    · obtain ⟨rfl, rfl⟩ := hfirst.unique h
      rfl
    · exact fun hnone => absurd ⟨n, p, hfirst.bad⟩ hnone
  · rw [List.length_nil, Nat.zero_add] at hok
    rw [hok]
    refine ⟨fun number problem => ⟨?_, fun h => absurd h.bad (hgood _ _)⟩, ⟨?_, ?_⟩,
      fun _ => ⟨list, rfl, hissues⟩⟩
    · rintro ⟨⟩
    · rintro ⟨_, _, ⟨⟩⟩
    · rintro ⟨number, problem, h⟩
      exact absurd h (hgood number problem)

/-! ### A sample -/

/-- The fourth line is bad, and so is the fifth one in two ways. -/
def spoiltList : String :=
  "// c\r\nDERBY-1\tA\r\rDERBY-2\tB\t\tx9\n1\tC\t\t-x"

theorem spoiltList_formats : ∀ line ∈ lines spoiltList.toList, IsRecord line →
    Formats sampleNaming line := by
  have hfill : ∀ line ∈ lines spoiltList.toList,
      (fillUrl sampleNaming.browseUrl "issue_id"
          (sampleNaming.lead ++ String.ofList (keyIn sampleNaming.lead line))).toOption.isSome
        = true ∧
      (fillUrl sampleNaming.attachmentUrl "attachment_id"
          (String.ofList (noteIn line))).toOption.isSome = true := by
    decide +kernel
  intro line hline _
  obtain ⟨hbrowse, hattach⟩ := hfill line hline
  refine ⟨?_, fun digits hdigits => ?_⟩
  · obtain ⟨address, haddress⟩ := Option.isSome_iff_exists.1 hbrowse
    exact ⟨address, ok_of_toOption haddress⟩
  · obtain ⟨address, haddress⟩ := Option.isSome_iff_exists.1 hattach
    rw [hdigits.eq_digits] at haddress
    exact ⟨address, ok_of_toOption haddress⟩

theorem ofBytes_verdict_sample :
    (∀ line ∈ lines spoiltList.toList, IsRecord line → Formats sampleNaming line) ∧
      FirstBad sampleNaming.lead (lines spoiltList.toList) 4 (.badAttachment "x9") := by
  have hread : ofBytes (Disk.Path.read "bugs.txt") sampleNaming (Utf8.encode spoiltList) =
      .error (.badRecord (Disk.Path.read "bugs.txt") 4 (.badAttachment "x9")) := by
    rw [ofBytes_of_decode (Utf8.decode_encode spoiltList)]
    with_unfolding_all rfl
  exact ⟨spoiltList_formats,
    ((ofBytes_verdict (Disk.Path.read "bugs.txt") spoiltList_formats).1 _ _).1 hread⟩

end Pamphlet.Release.BugList
