import Pamphlet.Proofs.Release.Records
import Pamphlet.Proofs.Text.Words

/-!
# The keys of issues

A field is trimmed before the lead is taken from it, so a key ends without a blank, but it begins
with one if blanks stand between the lead and the rest (`Spaced`). The issues of a bug list have
different keys as they are spelt, and different keys without blanks at their ends exactly if no
record is spaced (`ofBytes_keys`).
-/

namespace Pamphlet.Release.BugList

open Pamphlet.Text

/-- Issues that are told apart by keys without blanks at their ends. -/
structure NamedApart (is : List Issue) : Prop where
  named : ∀ i ∈ is, i.key ≠ "" ∧ Trimmed i.key.toList
  apart : is.Pairwise fun i j => trim i.key ≠ trim j.key

/-- A record has a blank between the lead and the rest of its key. -/
def Spaced (lead : String) (line : List Char) : Prop :=
  ∃ c rest, isBlank c = true ∧ trimChars ((splitOn '\t' line).headD []) = lead.toList ++ c :: rest

/-! ## Keys of fields -/

theorem keyOf_suffix (lead : String) (field : List Char) :
    keyOf lead field <:+ trimChars field := by
  unfold keyOf
  simp only
  split
  · exact List.drop_suffix _ _
  · exact List.suffix_rfl

/-- A key ends as its field does when that has been trimmed. -/
theorem keyOf_back (lead : String) (field : List Char) :
    ∀ c ∈ (keyOf lead field).getLast?, isBlank c = false := by
  intro c hc
  obtain ⟨front, hfront⟩ := keyOf_suffix lead field
  refine (trimmed_trimChars field).back c ?_
  rw [← hfront, List.getLast?_append, Option.mem_def.1 hc]
  rfl

/-- A key begins with a blank exactly if a blank stands after the prefix. -/
theorem keyOf_front (lead : String) (field : List Char) :
    (∃ c ∈ (keyOf lead field).head?, isBlank c = true) ↔
      ∃ c rest, isBlank c = true ∧ trimChars field = lead.toList ++ c :: rest := by
  unfold keyOf
  simp only
  split
  · rename_i hprefix
    obtain ⟨key, hkey⟩ := List.isPrefixOf_iff_prefix.1 hprefix
    rw [← hkey, ← String.length_toList, List.drop_left]
    constructor
    · rintro ⟨c, hc, hblank⟩
      obtain ⟨rest, rfl⟩ := List.head?_eq_some_iff.1 hc
      exact ⟨c, rest, hblank, rfl⟩
    · rintro ⟨c, rest, hblank, he⟩
      rw [List.append_cancel_left he]
      exact ⟨c, rfl, hblank⟩
  · rename_i hprefix
    constructor
    · rintro ⟨c, hc, hblank⟩
      rw [(trimmed_trimChars field).front c hc] at hblank
      cases hblank
    · rintro ⟨c, rest, -, he⟩
      exact absurd (List.isPrefixOf_iff_prefix.2 ⟨_, he.symm⟩) hprefix

theorem trimmed_keyIn_iff (lead : String) (line : List Char) :
    Trimmed (keyIn lead line) ↔ ¬Spaced lead line := by
  rw [Spaced, ← keyOf_front]
  constructor
  · rintro h ⟨c, hc, hblank⟩
    rw [h.front c hc] at hblank
    cases hblank
  · intro h
    refine ⟨fun c hc => ?_, keyOf_back _ _⟩
    rw [← Bool.not_eq_true]
    exact fun hblank => h ⟨c, hc, hblank⟩

/-! ## Keys of records -/

/-- The key of an issue is that of its record. -/
structure Keyed (lead : String) (line : List Char) (i : Issue) : Prop where
  ne_nil : keyIn lead line ≠ []
  key_eq : i.key.toList = keyIn lead line

theorem readRecord_keyed {naming : Naming} {line : List Char} {i : Issue}
    (h : readRecord naming (splitOn '\t' line) = .ok (.ok i)) : Keyed naming.lead line i := by
  unfold readRecord at h
  split at h
  · rename_i first title htake
    have hfirst : (splitOn '\t' line).headD [] = first := by
      cases hsplit : splitOn '\t' line with
      | nil =>
        rw [hsplit] at htake
        cases htake
      | cons field rest =>
        rw [hsplit] at htake
        exact (List.cons.inj htake).1
    simp only at h
    split at h
    · cases h
    · rename_i hne
      have hkey : keyIn naming.lead line = keyOf naming.lead first := by rw [keyIn, hfirst]
      refine ⟨fun hnil => hne (by rw [← hkey, hnil]), ?_⟩
      rw [hkey]
      split at h
      · split at h
        all_goals
          obtain ⟨noteAddress, -, h⟩ := bind_ok h
          obtain ⟨address, -, h⟩ := bind_ok h
          cases h
          exact String.toList_ofList
      · cases h
  · cases h

/-- A line adds an issue with its key if it is a record, and no issue otherwise. -/
theorem Reads.keyed {naming : Naming} {list next : BugList} {line : List Char}
    (h : Reads naming list line next) :
    ∃ more, next.issues = list.issues ++ more ∧
    List.Forall₂ (Keyed naming.lead) (records [line]) more := by
  have hother {l : List Char} (hnot : ∀ fields, Line.read l ≠ .record fields) :
      records [l] = [] := by
    rw [records, List.filter_eq_nil_iff]
    intro l' hl' hrecord
    rw [List.mem_singleton.1 hl'] at hrecord
    exact hnot _ (read_of_record (of_decide_eq_true hrecord))
  cases h with
  | blank kind | comment kind =>
    refine ⟨[], (List.append_nil _).symm, ?_⟩
    rw [hother fun fields hread => by rw [kind] at hread; cases hread]
    exact .nil
  | record kind read new =>
    rename_i fields i
    obtain ⟨hrecord, rfl⟩ := read_eq_record_iff.1 kind
    refine ⟨[i], rfl, ?_⟩
    rw [records, List.filter_cons, if_pos (decide_eq_true hrecord)]
    exact .cons (readRecord_keyed read) .nil

/-- The issues that lines add have the keys of the records among them, in their order. -/
theorem readLines_keyed {path : Disk.Path} {naming : Naming} {lines : List (List Char)}
    {number : Nat} {list out : BugList} (h : readLines path naming number list lines = .ok out) :
    ∃ more, out.issues = list.issues ++ more ∧
    List.Forall₂ (Keyed naming.lead) (records lines) more := by
  induction lines generalizing number list with
  | nil =>
    cases h
    exact ⟨[], (List.append_nil _).symm, .nil⟩
  | cons line rest ih =>
    obtain ⟨next, hnext, h⟩ := readLines_cons_iff.1 h
    obtain ⟨first, hfirst, hkeyed⟩ := hnext.keyed
    obtain ⟨more, hmore, hrest⟩ := ih h
    have hrecords : records (line :: rest) = records [line] ++ records rest := by
      rw [records, ← List.singleton_append, List.filter_append]
      rfl
    refine ⟨first ++ more, ?_, ?_⟩
    · rw [hmore, hfirst, List.append_assoc]
    · rw [hrecords]
      exact List.rel_append hkeyed hrest

/-- The issues of a list have the keys of its records, in order. -/
theorem ofBytes_keyed {path : Disk.Path} {naming : Naming} {bytes : List UInt8} {list : BugList}
    (h : ofBytes path naming bytes = .ok list) :
    ∃ cs, Utf8.decode bytes = (cs, none) ∧
    List.Forall₂ (Keyed naming.lead) (records (lines cs)) list.issues := by
  obtain ⟨cs, hdecode, hlist⟩ := ofBytes_ok h
  obtain ⟨more, hmore, hkeyed⟩ := readLines_keyed hlist
  rw [List.nil_append] at hmore
  exact ⟨cs, hdecode, hmore ▸ hkeyed⟩

/-! ## Keys of a list -/

section

variable {lead : String} {line : List Char} {i j : Issue}

theorem Keyed.ne_empty (h : Keyed lead line i) : i.key ≠ "" := by
  intro hkey
  refine h.ne_nil ?_
  rw [← h.key_eq, hkey]
  rfl

theorem Keyed.back (h : Keyed lead line i) : ∀ c ∈ i.key.toList.getLast?, isBlank c = false := by
  rw [h.key_eq]
  exact keyOf_back _ _

/-- A key is trimmed unless a blank stands after the prefix. -/
theorem Keyed.trimmed_iff (h : Keyed lead line i) : Trimmed i.key.toList ↔ ¬Spaced lead line := by
  rw [h.key_eq]
  exact trimmed_keyIn_iff lead line

theorem trim_eq_self {s : String} (h : Trimmed s.toList) : trim s = s := by
  rw [trim, h.trimChars_eq, String.ofList_toList]

end

/-- Of two lists that go together, what holds of the second things for the sake of the first
ones. -/
theorem forall_mem_of_forall₂ {α β : Type} {R : α → β → Prop} {as : List α} {bs : List β}
    {P : β → Prop}
    (h : List.Forall₂ R as bs) (hP : ∀ a ∈ as, ∀ b, R a b → P b) : ∀ b ∈ bs, P b := by
  induction h with
  | nil => exact List.forall_mem_nil _
  | cons hab _ ih =>
    obtain ⟨ha, has⟩ := List.forall_mem_cons.1 hP
    exact List.forall_mem_cons.2 ⟨ha _ hab, ih has⟩

/-- Keys are not empty and do not end in a blank. -/
theorem ofBytes_named {path : Disk.Path} {naming : Naming} {bytes : List UInt8} {list : BugList}
    (h : ofBytes path naming bytes = .ok list) :
    ∀ i ∈ list.issues, i.key ≠ "" ∧ ∀ c ∈ i.key.toList.getLast?, isBlank c = false := by
  obtain ⟨cs, -, hkeyed⟩ := ofBytes_keyed h
  exact forall_mem_of_forall₂ hkeyed fun _ _ _ hi => ⟨hi.ne_empty, hi.back⟩

/-- **The keys of a bug list.** Each key has more than blanks and ends without one, and no two keys
are spelt alike. A key begins with a blank exactly if its record is spaced, and two keys that differ
only in blanks at their ends are not both without them; so the issues are told apart by trimmed keys
exactly if no record is spaced. -/
theorem ofBytes_keys {path : Disk.Path} {naming : Naming} {bytes : List UInt8} {list : BugList}
    (h : ofBytes path naming bytes = .ok list) :
    (∀ i ∈ list.issues, i.key ≠ "" ∧ ∀ c ∈ i.key.toList.getLast?, isBlank c = false) ∧
    (list.issues.Pairwise fun i j =>
      i.key ≠ j.key ∧ (trim i.key = trim j.key → ¬Trimmed i.key.toList ∨ ¬Trimmed j.key.toList)) ∧
    ∃ cs, Utf8.decode bytes = (cs, none) ∧
      List.Forall₂ (fun line i => Trimmed i.key.toList ↔ ¬Spaced naming.lead line)
      (records (lines cs))
        list.issues ∧
      (NamedApart list.issues ↔ ∀ line ∈ records (lines cs), ¬Spaced naming.lead line) := by
  obtain ⟨cs, hdecode, hkeyed⟩ := ofBytes_keyed h
  have hdistinct : list.issues.Pairwise fun i j => i.key ≠ j.key :=
    List.pairwise_map.1 (ofBytes_distinct h)
  have hnamed := ofBytes_named h
  have hapart : ∀ {i j : Issue}, Trimmed i.key.toList → Trimmed j.key.toList → i.key ≠ j.key →
      trim i.key ≠ trim j.key := by
    intro i j hi hj hne
    rwa [trim_eq_self hi, trim_eq_self hj]
  have hspaced := hkeyed.imp fun _ _ hi => hi.trimmed_iff
  have hpairs : list.issues.Pairwise fun i j =>
      i.key ≠ j.key ∧ (trim i.key = trim j.key → ¬Trimmed i.key.toList ∨ ¬Trimmed j.key.toList) :=
    hdistinct.imp fun hne =>
      ⟨hne, fun he => not_and_or.1 fun hboth => hapart hboth.1 hboth.2 hne he⟩
  refine ⟨hnamed, hpairs, cs, hdecode, hspaced, ?_, ?_⟩
  · intro hnames
    exact forall_mem_of_forall₂ hkeyed.flip fun i hi _ hline =>
      hline.trimmed_iff.1 (hnames.named i hi).2
  · intro hlines
    have htrimmed : ∀ i ∈ list.issues, Trimmed i.key.toList :=
      forall_mem_of_forall₂ hkeyed fun line hline _ hi => hi.trimmed_iff.2 (hlines line hline)
    refine ⟨fun i hi => ⟨(hnamed i hi).1, htrimmed i hi⟩, ?_⟩
    exact hdistinct.imp_of_mem fun hi hj hne => hapart (htrimmed _ hi) (htrimmed _ hj) hne

/-! ### Samples -/

/-- The key of the second record is that of the first one after a blank. -/
def spacedList : String :=
  "DERBY-1\tA\nDERBY- 1\tB\n"

def plainList : String :=
  " DERBY-1\tA\n1 2 \tB\n"

theorem ofBytes_keys_sample :
    (∃ list, ofBytes (Disk.Path.read "bugs.txt") sampleNaming (Utf8.encode spacedList) = .ok list ∧
      list.issues.map (·.key) = ["1", " 1"] ∧ ¬NamedApart list.issues) ∧
    ∃ list, ofBytes (Disk.Path.read "bugs.txt") sampleNaming (Utf8.encode plainList) = .ok list ∧
      list.issues.map (·.key) = ["1", "1 2"] ∧ NamedApart list.issues := by
  have hread (text : String) (keys : List String)
      (h : ((ofBytes (Disk.Path.read "bugs.txt") sampleNaming (Utf8.encode text)).toOption.map
        fun list => list.issues.map (·.key)) = some keys) :
      ∃ list, ofBytes (Disk.Path.read "bugs.txt") sampleNaming (Utf8.encode text) = .ok list ∧
        list.issues.map (·.key) = keys := by
    obtain ⟨list, hlist, hkeys⟩ := Option.map_eq_some_iff.1 h
    exact ⟨list, ok_of_toOption hlist, hkeys⟩
  obtain ⟨spaced, hspaced, hspacedKeys⟩ := hread spacedList ["1", " 1"] (by decide +kernel)
  obtain ⟨plain, hplain, hplainKeys⟩ := hread plainList ["1", "1 2"] (by decide +kernel)
  obtain ⟨-, -, cs, hcs, -, hspacedIff⟩ := ofBytes_keys hspaced
  obtain ⟨-, -, cs', hcs', -, hplainIff⟩ := ofBytes_keys hplain
  rw [Utf8.decode_encode] at hcs hcs'
  cases hcs
  cases hcs'
  refine ⟨⟨spaced, hspaced, hspacedKeys, fun happart => ?_⟩, plain, hplain, hplainKeys,
    hplainIff.2 ?_⟩
  · exact hspacedIff.1 happart "DERBY- 1\tB".toList (by decide +kernel)
      ⟨' ', ['1'], by decide, by decide +kernel⟩
  · have hrecords :
      records (lines plainList.toList) = [" DERBY-1\tA".toList, "1 2 \tB".toList] := by
      decide +kernel
    rw [hrecords]
    refine List.forall_mem_cons.2 ⟨?_, List.forall_mem_singleton.2 ?_⟩
    all_goals
      rw [← trimmed_keyIn_iff]
      exact trimmed_of_check (by decide +kernel) (by decide +kernel)

end Pamphlet.Release.BugList
