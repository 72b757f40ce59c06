import Pamphlet.Proofs.Release.BugList
import Pamphlet.Proofs.Text.Characters
import Pamphlet.Proofs.Text.Lines
import Pamphlet.Proofs.Text.Trim
import Pamphlet.Proofs.Text.Utf8

/-!
# Bug lists as they are written

`Sheet` has all the ways to write a list of entries: with or without what the names of issues begin
with, with blank lines and comments anywhere, and with any ends of lines. Reading a sheet gives the
issues that its entries describe, and the previous release that its first mark names:
`ofBytes_encode`.
-/

namespace Pamphlet.Release.BugList

open Pamphlet.Text

/-! ## Entries -/

/-- What a line of a bug list is written for. -/
structure Entry where
  key : List Char
  title : List Char
  versions : List (List Char)
  note : NoteMark

/-- A text that may stand between two tabs and is read as it stands. -/
structure IsField (cs : List Char) : Prop where
  inside : ∀ c ∈ cs, c ≠ '\t' ∧ isLineEnd c = false
  trimmed : Trimmed cs

structure Entry.WellFormed (e : Entry) : Prop where
  key : IsField e.key
  key_ne : e.key ≠ []
  title : IsField e.title
  versions : ∀ v ∈ e.versions, IsField v ∧ v ≠ [] ∧ ',' ∉ v
  digits : ∀ ds, e.note = .id ds → ds ≠ [] ∧ ∀ c ∈ ds, c.isDigit = true

/-- The ways to write what is said of a note. -/
inductive NoteMark.Writes : NoteMark → List Char → Prop
  | empty : Writes .none []
  | dash : Writes .none ['-']
  | missing {cs : List Char}
      (h : List.Forall₂ (fun c m => c = m ∨ c = m.toUpper) cs "missing".toList) :
    Writes .missing cs
  | id (digits : List Char) : Writes (.id digits) digits

/-- The mark that a text is read as. -/
inductive NoteMark.Says : List Char → NoteMark → Prop
  | empty : Says [] .none
  | dash : Says ['-'] .none
  | missing {cs : List Char} (h : cs.map lowerChar = "missing".toList) : Says cs .missing
  | id {digits : List Char} (hne : digits ≠ []) (h : ∀ c ∈ digits, Text.isDigit c = true) :
    Says digits (.id digits)

theorem NoteMark.Says.eq_digits {cs digits : List Char} (h : NoteMark.Says cs (.id digits)) :
    cs = digits := by
  cases h
  rfl

/-- The ways to write a key. -/
inductive WritesKey (lead key : List Char) : List Char → Prop
  | named : WritesKey lead key (lead ++ key)
  | bare (hlead : ¬lead <+: key) (hcomment : ¬commentMark <+: key) : WritesKey lead key key

/-- A line for an entry. -/
inductive Entry.Writes (lead : List Char) (e : Entry) : List Char → Prop
  | intro {key note : List Char} (hkey : WritesKey lead e.key key) (hnote : e.note.Writes note) :
    Writes lead e (key ++ '\t' :: (e.title ++ '\t' ::
      ([','].intercalate e.versions ++ '\t' :: note)))

/-- What the names of issues may begin with. -/
structure IsLead (lead : List Char) : Prop where
  ne_nil : lead ≠ []
  unblank : ∀ c ∈ lead, isBlank c = false
  no_slash : lead.head? ≠ some '/'

/-- A bug list with its entries and the previous releases that its marks name. -/
inductive Sheet (lead : List Char) : List Char → List Entry → List String → Prop
  | nil : Sheet lead [] [] []
  | blank {line stop text : List Char} {entries : List Entry} {marks : List String}
    (hline : ∀ c ∈ line, isBlank c = true ∧ isLineEnd c = false) (hstop : LineEnd stop)
    (h : Sheet lead text entries marks) : Sheet lead (line ++ (stop ++ text)) entries marks
  | comment {words stop text : List Char} {entries : List Entry} {marks : List String}
    (hwords : ∀ c ∈ words, isLineEnd c = false)
    (hplain : ¬previousMark <+: commentMark ++ words) (hstop : LineEnd stop)
    (h : Sheet lead text entries marks) :
    Sheet lead (commentMark ++ words ++ (stop ++ text)) entries marks
  | mark {value stop text : List Char} {entries : List Entry} {marks : List String}
    (hvalue : ∀ c ∈ value, isLineEnd c = false) (hstop : LineEnd stop)
    (h : Sheet lead text entries marks) :
    Sheet lead (previousMark ++ value ++ (stop ++ text)) entries
      (String.ofList (trimChars value) :: marks)
  | entry {e : Entry} {line stop text : List Char} {entries : List Entry} {marks : List String}
    (hline : e.Writes lead line) (hstop : LineEnd stop) (h : Sheet lead text entries marks) :
    Sheet lead (line ++ (stop ++ text)) (e :: entries) marks

/-! ## What is read -/

/-- The status and the address of a note as an entry says. -/
inductive DescribesNote (naming : Naming) : NoteMark → NoteStatus → Option String → Prop
  | none : DescribesNote naming .none .notNeeded Option.none
  | missing : DescribesNote naming .missing .missing Option.none
  | id {digits : List Char} {address : String}
    (h : fillUrl naming.attachmentUrl "attachment_id" (String.ofList digits) = .ok address) :
    DescribesNote naming (.id digits) .attached (some address)

/-- The issue of an entry. -/
structure Entry.Describes (naming : Naming) (e : Entry) (i : Issue) : Prop where
  key : i.key = String.ofList e.key
  title : i.title = String.ofList e.title
  versions : i.versions = e.versions.map String.ofList
  address : fillUrl naming.browseUrl "issue_id" (naming.lead ++ i.key) = .ok i.address
  note : DescribesNote naming e.note i.status i.noteAddress

theorem DescribesNote.attached_iff {naming : Naming} {mark : NoteMark} {status : NoteStatus}
    {address : Option String} (h : DescribesNote naming mark status address) :
    status = .attached ↔ address.isSome = true := by
  cases h <;> simp

theorem attached_iff_of_describes {naming : Naming} {entries : List Entry} {issues : List Issue}
    (h : List.Forall₂ (Entry.Describes naming) entries issues) :
    ∀ i ∈ issues, i.status = .attached ↔ i.noteAddress.isSome = true := by
  induction h with
  | nil => exact fun i hi => absurd hi List.not_mem_nil
  | cons hdescribes _ ih =>
    intro i hi
    rcases List.mem_cons.1 hi with rfl | hi
    · exact hdescribes.note.attached_iff
    · exact ih i hi

/-! ## Fields -/

theorem splitOn_of_not_mem {separator : Char} {cs : List Char} (h : separator ∉ cs) :
    splitOn separator cs = [cs] := by
  induction cs with
  | nil => rfl
  | cons c cs ih =>
    have hc : c ≠ separator := fun he => h (he ▸ List.mem_cons_self)
    have hcs : separator ∉ cs := fun hmem => h (List.mem_cons_of_mem c hmem)
    rw [splitOn, if_neg hc, ih hcs]

theorem splitOn_append {separator : Char} {cs : List Char} (h : separator ∉ cs) (rest : List Char) :
    splitOn separator (cs ++ separator :: rest) = cs :: splitOn separator rest := by
  induction cs with
  | nil => rw [List.nil_append, splitOn, if_pos rfl]
  | cons c cs ih =>
    have hc : c ≠ separator := fun he => h (he ▸ List.mem_cons_self)
    have hcs : separator ∉ cs := fun hmem => h (List.mem_cons_of_mem c hmem)
    rw [List.cons_append, splitOn, if_neg hc, ih hcs]

/-- Parts that do not hold the separator are split as they were joined. -/
theorem splitOn_intercalate {separator : Char} {parts : List (List Char)}
    (h : ∀ part ∈ parts, separator ∉ part) (hne : parts ≠ []) :
    splitOn separator ([separator].intercalate parts) = parts := by
  induction parts with
  | nil => exact absurd rfl hne
  | cons part parts ih =>
    have hpart : separator ∉ part := h part List.mem_cons_self
    cases parts with
    | nil =>
      rw [List.intercalate_singleton]
      exact splitOn_of_not_mem hpart
    | cons next parts =>
      rw [List.intercalate_cons_cons, List.append_assoc, List.singleton_append,
        splitOn_append hpart,
        ih (fun p hp => h p (List.mem_cons_of_mem part hp)) (List.cons_ne_nil _ _)]

/-- Versions are read as they were joined. -/
theorem versions_intercalate {versions : List (List Char)}
    (h : ∀ v ∈ versions, IsField v ∧ v ≠ [] ∧ ',' ∉ v) :
    ((splitOn ',' ([','].intercalate versions)).map trimChars).filter (!·.isEmpty) = versions := by
  by_cases hne : versions = []
  · subst hne
    rfl
  rw [splitOn_intercalate (fun v hv => (h v hv).2.2) hne]
  have htrim : versions.map trimChars = versions :=
    (List.map_congr_left fun v hv => (h v hv).1.trimmed.trimChars_eq).trans (List.map_id' versions)
  rw [htrim, List.filter_eq_self.2]
  intro v hv
  rw [List.isEmpty_eq_false_iff.2 (h v hv).2.1]
  rfl

/-! ## Notes -/

theorem lowerChar_of_letter : ∀ m ∈ "missing".toList, ∀ c, c = m ∨ c = m.toUpper →
    lowerChar c = m ∧ isBlank c = false := by
  intro m hm c hc
  have hboth : ∀ m ∈ "missing".toList,
      (lowerChar m = m ∧ isBlank m = false) ∧
        lowerChar m.toUpper = m ∧ isBlank m.toUpper = false :=
    forall_of_all (by decide)
  rcases hc with rfl | rfl
  · exact (hboth c hm).1
  · exact (hboth m hm).2

theorem letters_of_missing {cs ms : List Char}
    (h : List.Forall₂ (fun c m => c = m ∨ c = m.toUpper) cs ms) (hms : ms ⊆ "missing".toList) :
    cs.map lowerChar = ms ∧ ∀ c ∈ cs, isBlank c = false := by
  induction h with
  | nil => exact ⟨rfl, fun c hc => absurd hc List.not_mem_nil⟩
  | @cons c m cs ms hc _ ih =>
    obtain ⟨hm, hms⟩ := List.cons_subset.1 hms
    obtain ⟨hlower, hblank⟩ := lowerChar_of_letter m hm c hc
    obtain ⟨hmap, hcs⟩ := ih hms
    refine ⟨by rw [List.map_cons, hlower, hmap], ?_⟩
    intro d hd
    rcases List.mem_cons.1 hd with rfl | hd
    · exact hblank
    · exact hcs d hd

/-- A digit is no letter of the word for a note that is missing, and no dash. -/
theorem class_of_digit {c : Char} (h : Text.isDigit c = true) : lowerChar c ≠ 'm' ∧ c ≠ '-' := by
  by_cases hc : c.toNat < 128
  · have hascii : Text.isDigit c = true → lowerChar c ≠ 'm' ∧ c ≠ '-' :=
      of_ascii (p := fun c => Text.isDigit c = true → lowerChar c ≠ 'm' ∧
        c ≠ '-') (by decide +kernel) hc
    exact hascii h
  · exact ⟨lowerChar_ne_of_not_ascii hc, by rintro rfl; exact hc (by decide)⟩

/-- An ASCII digit is a digit and no blank. -/
theorem class_of_isDigit {c : Char} (h : c.isDigit = true) :
    Text.isDigit c = true ∧ isBlank c = false := by
  have hall : ∀ n < 128, (Char.ofNat n).isDigit = true →
      Text.isDigit (Char.ofNat n) = true ∧ isBlank (Char.ofNat n) = false := by
    decide +kernel
  refine of_ascii (p := fun c => c.isDigit = true → Text.isDigit c = true ∧
    isBlank c = false) hall ?_ h
  simp only [Char.isDigit, Bool.and_eq_true, decide_eq_true_eq, UInt32.le_iff_toNat_le] at h
  have hn : c.toNat = c.val.toNat := rfl
  have h9 : '9'.val.toNat = 57 := rfl
  omega

/-- A mark is read exactly from the texts that say it. -/
theorem NoteMark.read?_eq_some_iff {cs : List Char} {mark : NoteMark} :
    NoteMark.read? cs = some mark ↔ NoteMark.Says cs mark := by
  constructor
  · intro h
    unfold NoteMark.read? at h
    split at h
    · rename_i hnone
      cases h
      have hcases : cs = [] ∨ cs = ['-'] := by simpa using hnone
      rcases hcases with rfl | rfl
      · exact .empty
      · exact .dash
    · rename_i hnone
      split at h
      · rename_i hmissing
        cases h
        exact .missing (eq_of_beq hmissing)
      · split at h
        · rename_i hdigits
          cases h
          refine .id ?_ (List.all_eq_true.1 hdigits)
          rintro rfl
          exact hnone rfl
        · cases h
  · intro h
    cases h with
    | empty => rfl
    | dash => rfl
    | missing h =>
      unfold NoteMark.read?
      rw [if_neg ?_, if_pos (by rw [h]; decide)]
      intro hnone
      have hcases : cs = [] ∨ cs = ['-'] := by simpa using hnone
      rcases hcases with rfl | rfl
      · cases h
      · exact absurd h (by decide)
    | id hne hdigits =>
      obtain ⟨c, ds, rfl⟩ := List.exists_cons_of_ne_nil hne
      obtain ⟨hletter, hdash⟩ := class_of_digit (hdigits c List.mem_cons_self)
      unfold NoteMark.read?
      rw [if_neg ?_, if_neg ?_, if_pos (List.all_eq_true.2 hdigits)]
      · intro hmissing
        exact hletter (List.cons.inj (eq_of_beq hmissing)).1
      · intro hnone
        have hc : c :: ds = ['-'] := by simpa using hnone
        exact hdash (List.cons.inj hc).1

/-- What is written of a note is read back, and trimming leaves it as it is. -/
theorem NoteMark.Writes.read {mark : NoteMark} {cs : List Char} (h : mark.Writes cs)
    (hdigits : ∀ ds, mark = .id ds → ds ≠ [] ∧ ∀ c ∈ ds, c.isDigit = true) :
    NoteMark.read? cs = some mark ∧ ∀ c ∈ cs, isBlank c = false := by
  rw [NoteMark.read?_eq_some_iff]
  cases h with
  | empty => exact ⟨.empty, List.forall_mem_nil _⟩
  | dash => exact ⟨.dash, forall_of_all (by decide)⟩
  | missing h =>
    obtain ⟨hlower, hblank⟩ := letters_of_missing h (List.Subset.refl _)
    exact ⟨.missing hlower, hblank⟩
  | id =>
    obtain ⟨hne, hall⟩ := hdigits cs rfl
    exact ⟨.id hne fun c hc => (class_of_isDigit (hall c hc)).1,
      fun c hc => (class_of_isDigit (hall c hc)).2⟩

/-! ## Records -/

theorem inside_of_unblank {c : Char} (h : isBlank c = false) : c ≠ '\t' ∧ isLineEnd c = false := by
  have htab : c ≠ '\t' := by
    rintro rfl
    cases h
  refine ⟨htab, ?_⟩
  cases hend : isLineEnd c with
  | false => rfl
  | true =>
    simp only [isLineEnd, Bool.or_eq_true, beq_iff_eq] at hend
    rcases hend with rfl | rfl <;> cases h

theorem inside_intercalate {parts : List (List Char)} (h : ∀ p ∈ parts, IsField p) :
    ∀ c ∈ [','].intercalate parts, c ≠ '\t' ∧ isLineEnd c = false := by
  induction parts with
  | nil => exact fun c hc => absurd hc List.not_mem_nil
  | cons part parts ih =>
    have hpart := (h part List.mem_cons_self).inside
    cases parts with
    | nil => rwa [List.intercalate_singleton]
    | cons next parts =>
      intro c hc
      rw [List.intercalate_cons_cons, List.append_assoc, List.singleton_append] at hc
      rcases List.mem_append.1 hc with hc | hc
      · exact hpart c hc
      rcases List.mem_cons.1 hc with rfl | hc
      · decide
      · exact ih (fun p hp => h p (List.mem_cons_of_mem part hp)) c hc

section

variable {naming : Naming} {e : Entry}

/-- A key that is written is trimmed, and the issue that it names is the entry's. -/
theorem WritesKey.keyOf_eq {lead : String} (hlead : IsLead lead.toList) {key field : List Char}
    (hkey : IsField key) (h : WritesKey lead.toList key field) : keyOf lead field = key := by
  unfold keyOf
  cases h with
  | named =>
    have htrim : Trimmed (lead.toList ++ key) := .append hlead.unblank hkey.trimmed
    simp only [htrim.trimChars_eq]
    rw [if_pos (List.isPrefixOf_iff_prefix.2 (List.prefix_append _ _)), ← String.length_toList,
      List.drop_left]
  | bare hbare =>
    simp only [hkey.trimmed.trimChars_eq]
    rw [if_neg (fun h => hbare (List.isPrefixOf_iff_prefix.1 h))]

/-- A record with a key and with a mark that is read becomes an issue. -/
theorem readRecord_of_mark {first : List Char} (title : List Char) (more : List (List Char))
    (hkey : keyOf naming.lead first ≠ []) {mark : NoteMark}
    (hmark : NoteMark.read? (trimChars ((first :: title :: more)[3]?.getD [])) = some mark)
    {address : String} (hbrowse :
      fillUrl naming.browseUrl "issue_id" (naming.lead ++ String.ofList (keyOf naming.lead first)) =
      .ok address)
    (hattach : ∀ digits, mark = .id digits →
      ∃ a, fillUrl naming.attachmentUrl "attachment_id" (String.ofList digits) = .ok a) :
    ∃ i, readRecord naming (first :: title :: more) = .ok (.ok i) ∧
      Entry.Describes naming
        { key := keyOf naming.lead first
          title := trimChars title
          versions :=
            ((splitOn ',' ((first :: title :: more)[2]?.getD [])).map trimChars).filter
              (!·.isEmpty)
          note := mark } i := by
  have hne : String.ofList (keyOf naming.lead first) ≠ "" :=
    fun h => hkey (String.ofList_injective h)
  unfold readRecord
  simp only [List.take, hne, if_false, hmark, hbrowse]
  cases mark with
  | none => exact ⟨_, rfl, rfl, rfl, rfl, hbrowse, .none⟩
  | missing => exact ⟨_, rfl, rfl, rfl, rfl, hbrowse, .missing⟩
  | id digits =>
    obtain ⟨a, ha⟩ := hattach digits rfl
    simp only [ha]
    exact ⟨_, rfl, rfl, rfl, rfl, hbrowse, .id ha⟩

/-- **A record is read from any of its spellings.** -/
theorem readRecord_writes (he : e.WellFormed) (hlead : IsLead naming.lead.toList)
    {key note : List Char} (hkey : WritesKey naming.lead.toList e.key key)
    (hnote : e.note.Writes note) {address : String}
    (hbrowse : fillUrl naming.browseUrl "issue_id" (naming.lead ++ String.ofList e.key) =
      .ok address)
    (hattach : ∀ digits, e.note = .id digits →
      ∃ a, fillUrl naming.attachmentUrl "attachment_id" (String.ofList digits) = .ok a) :
    ∃ i, readRecord naming [key, e.title, [','].intercalate e.versions, note] = .ok (.ok i) ∧
      e.Describes naming i := by
  obtain ⟨hread, hunblank⟩ := hnote.read he.digits
  have hmark : NoteMark.read? (trimChars note) = some e.note := by
    rw [(trimmed_of_forall hunblank).trimChars_eq, hread]
  have hkeyOf : keyOf naming.lead key = e.key := hkey.keyOf_eq hlead he.key
  rw [← hkeyOf] at hbrowse
  obtain ⟨i, hi, hdescribes⟩ := readRecord_of_mark e.title [[','].intercalate e.versions, note]
    (by rw [hkeyOf]; exact he.key_ne) hmark hbrowse hattach
  refine ⟨i, hi, ?_⟩
  have hversions :
      ((splitOn ',' ([','].intercalate e.versions)).map trimChars).filter (!·.isEmpty) =
      e.versions :=
    versions_intercalate he.versions
  simpa only [hkeyOf, he.title.trimmed.trimChars_eq, hversions, List.getElem?_cons_succ,
    List.getElem?_cons_zero, Option.getD_some] using hdescribes

/-! ## Lines -/

theorem read_blank {line : List Char} (h : ∀ c ∈ line, isBlank c = true ∧ isLineEnd c = false) :
    Line.read line = .blank := by
  unfold Line.read
  rw [if_pos (List.all_eq_true.2 fun c hc => (h c hc).1)]

theorem read_comment {words : List Char} (hplain : ¬previousMark <+: commentMark ++ words) :
    Line.read (commentMark ++ words) = .comment none := by
  unfold Line.read
  rw [if_neg ?_, if_pos (List.isPrefixOf_iff_prefix.2 (List.prefix_append _ _)),
    if_neg (fun h => hplain (List.isPrefixOf_iff_prefix.1 h))]
  intro hall
  exact absurd (List.all_eq_true.1 hall '/' List.mem_cons_self) (by decide)

theorem read_mark (value : List Char) :
    Line.read (previousMark ++ value) = .comment (some (String.ofList (trimChars value))) := by
  have hcomment : commentMark <+: previousMark ++ value :=
    List.IsPrefix.trans (by decide) (List.prefix_append _ _)
  unfold Line.read
  rw [if_neg ?_, if_pos (List.isPrefixOf_iff_prefix.2 hcomment),
    if_pos (List.isPrefixOf_iff_prefix.2 (List.prefix_append _ _)), List.drop_left]
  intro hall
  exact absurd (List.all_eq_true.1 hall '/' List.mem_cons_self) (by decide)

/-- A key that is written begins with no blank and is no comment, whatever follows the tab. -/
theorem WritesKey.begins {lead key field : List Char} (hlead : IsLead lead) (hkey : IsField key)
    (hne : key ≠ []) (h : WritesKey lead key field) (rest : List Char) :
    (∃ c ∈ field, isBlank c = false) ∧ ¬commentMark <+: field ++ '\t' :: rest := by
  cases h with
  | named =>
    obtain ⟨c, cs, rfl⟩ := List.exists_cons_of_ne_nil hlead.ne_nil
    refine ⟨⟨c, List.mem_cons_self, hlead.unblank c List.mem_cons_self⟩, ?_⟩
    intro hcomment
    have hc : '/' = c := (List.cons_prefix_cons.1 hcomment).1
    exact hlead.no_slash (by rw [← hc]; rfl)
  | bare _ hcomment =>
    obtain ⟨c, cs, rfl⟩ := List.exists_cons_of_ne_nil hne
    refine ⟨⟨c, List.mem_cons_self, hkey.trimmed.front c rfl⟩, ?_⟩
    intro hprefix
    obtain ⟨hc, htail⟩ := List.cons_prefix_cons.1 hprefix
    cases cs with
    | nil =>
      -- after a single slash comes the tab
      exact absurd (List.cons_prefix_cons.1 htail).1 (by decide)
    | cons d ds =>
      refine hcomment (List.cons_prefix_cons.2 ⟨hc, ?_⟩)
      exact List.cons_prefix_cons.2 ⟨(List.cons_prefix_cons.1 htail).1, List.nil_prefix⟩

theorem WritesKey.inside {lead key field : List Char} (hlead : IsLead lead) (hkey : IsField key)
    (h : WritesKey lead key field) : ∀ c ∈ field, c ≠ '\t' ∧ isLineEnd c = false := by
  cases h with
  | bare => exact hkey.inside
  | named =>
    intro c hc
    rcases List.mem_append.1 hc with hc | hc
    · exact inside_of_unblank (hlead.unblank c hc)
    · exact hkey.inside c hc

/-- An entry is written as one line, which is a record with its four fields. -/
theorem read_entry {lead line : List Char} (hlead : IsLead lead) (he : e.WellFormed)
    (h : e.Writes lead line) :
    (∀ c ∈ line, isLineEnd c = false) ∧
      ∃ key note, WritesKey lead e.key key ∧ e.note.Writes note ∧
        Line.read line = .record [key, e.title, [','].intercalate e.versions, note] := by
  obtain ⟨hkey, hnote⟩ := h
  rename_i key note
  have hinsideNote : ∀ c ∈ note, c ≠ '\t' ∧ isLineEnd c = false := fun c hc =>
    inside_of_unblank ((hnote.read he.digits).2 c hc)
  have hinsideKey := hkey.inside hlead he.key
  have hinsideVersions : ∀ c ∈ [','].intercalate e.versions, c ≠ '\t' ∧ isLineEnd c = false :=
    inside_intercalate fun v hv => (he.versions v hv).1
  obtain ⟨⟨c, hc, hblank⟩, hcomment⟩ := hkey.begins hlead he.key he.key_ne
    (e.title ++ '\t' :: ([','].intercalate e.versions ++ '\t' :: note))
  refine ⟨?_, key, note, hkey, hnote, ?_⟩
  · intro d hd
    simp only [List.mem_append, List.mem_cons] at hd
    rcases hd with hd | rfl | hd | rfl | hd | rfl | hd
    · exact (hinsideKey d hd).2
    · rfl
    · exact (he.title.inside d hd).2
    · rfl
    · exact (hinsideVersions d hd).2
    · rfl
    · exact (hinsideNote d hd).2
  · unfold Line.read
    rw [if_neg ?_, if_neg (fun h => hcomment (List.isPrefixOf_iff_prefix.1 h)),
      splitOn_append (fun hmem => (hinsideKey _ hmem).1 rfl),
      splitOn_append (fun hmem => (he.title.inside _ hmem).1 rfl),
      splitOn_append (fun hmem => (hinsideVersions _ hmem).1 rfl),
      splitOn_of_not_mem (fun hmem => (hinsideNote _ hmem).1 rfl)]
    intro hall
    have hc' := List.all_eq_true.1 hall c (List.mem_append_left _ hc)
    rw [hblank] at hc'
    cases hc'

end

/-! ## Sheets -/

/-- A line and its end are read first. What is left has the same reading as the text after them,
which may have lost an empty line to the end. -/
theorem lines_of_line {path : Disk.Path} {naming : Naming} {list out : BugList}
    {line stop text : List Char} (hline : ∀ c ∈ line, isLineEnd c = false) (hstop : LineEnd stop)
    (h : ∀ number, readLines path naming number list (lines text) = .ok out) :
    ∃ rest, lines (line ++ (stop ++ text)) = line :: rest ∧
      ∀ number, readLines path naming (number + 1) list rest = .ok out := by
  rcases lines_append hline hstop text with hlines | ⟨text', rfl, hlines⟩
  · exact ⟨_, hlines, fun number => h (number + 1)⟩
  · refine ⟨_, hlines, fun number => ?_⟩
    have hfeed := h number
    rw [lines_feed] at hfeed
    exact hfeed

/-- A sheet is read entry by entry, whatever stands between them. -/
theorem readLines_sheet (path : Disk.Path) {naming : Naming} {text : List Char}
    {entries : List Entry} {marks : List String} (hlead : IsLead naming.lead.toList)
    (hsheet : Sheet naming.lead.toList text entries marks)
    (hentries : ∀ e ∈ entries, e.WellFormed)
    (hbrowse : ∀ e ∈ entries, ∃ a,
      fillUrl naming.browseUrl "issue_id" (naming.lead ++ String.ofList e.key) = .ok a)
    (hattach : ∀ e ∈ entries, ∀ digits, e.note = .id digits →
      ∃ a, fillUrl naming.attachmentUrl "attachment_id" (String.ofList digits) = .ok a)
    (list : BugList)
    (hkeys : (list.issues.map (·.key) ++ entries.map fun e => String.ofList e.key).Nodup) :
    ∃ issues, List.Forall₂ (Entry.Describes naming) entries issues ∧
      ∀ number, readLines path naming number list (lines text) =
        .ok ⟨list.issues ++ issues, list.previous <|> marks.head?⟩ := by
  induction hsheet generalizing list with
  | nil =>
    refine ⟨[], .nil, fun number => ?_⟩
    rw [List.append_nil, List.head?_nil, lines, readLines]
    cases list with
    | mk issues previous => cases previous <;> rfl
  | @blank line stop text entries marks hline hstop _ ih =>
    obtain ⟨issues, hissues, hread⟩ := ih hentries hbrowse hattach list hkeys
    obtain ⟨rest, hlines, hrest⟩ := lines_of_line (fun c hc => (hline c hc).2) hstop hread
    refine ⟨issues, hissues, fun number => ?_⟩
    rw [hlines, readLines, read_blank hline]
    exact hrest number
  | @comment words stop text entries marks hwords hplain hstop _ ih =>
    obtain ⟨issues, hissues, hread⟩ := ih hentries hbrowse hattach list hkeys
    have hline : ∀ c ∈ commentMark ++ words, isLineEnd c = false := by
      intro c hc
      rcases List.mem_append.1 hc with hc | hc
      · exact (forall_of_all (by decide) : ∀ c ∈ commentMark, isLineEnd c = false) c hc
      · exact hwords c hc
    obtain ⟨rest, hlines, hrest⟩ := lines_of_line hline hstop hread
    refine ⟨issues, hissues, fun number => ?_⟩
    rw [hlines, readLines, read_comment hplain]
    have hsame : ({ list with previous := list.previous <|> none } : BugList) = list := by
      cases list with
      | mk issues previous => cases previous <;> rfl
    simp only [hsame]
    exact hrest number
  | @mark value stop text entries marks hvalue hstop _ ih =>
    let named : BugList :=
      { list with previous := list.previous <|> some (String.ofList (trimChars value)) }
    obtain ⟨issues, hissues, hread⟩ := ih hentries hbrowse hattach named hkeys
    have hline : ∀ c ∈ previousMark ++ value, isLineEnd c = false := by
      intro c hc
      rcases List.mem_append.1 hc with hc | hc
      · exact (forall_of_all (by decide) : ∀ c ∈ previousMark, isLineEnd c = false) c hc
      · exact hvalue c hc
    obtain ⟨rest, hlines, hrest⟩ := lines_of_line hline hstop hread
    refine ⟨issues, hissues, fun number => ?_⟩
    rw [hlines, readLines, read_mark]
    simp only
    rw [hrest number]
    cases list with
    | mk issues previous => cases previous <;> rfl
  | @entry e line stop text entries marks hwrites hstop _ ih =>
    have he := hentries e List.mem_cons_self
    obtain ⟨hline, key, note, hkey, hnote, hrecord⟩ := read_entry hlead he hwrites
    obtain ⟨address, haddress⟩ := hbrowse e List.mem_cons_self
    obtain ⟨i, hi, hdescribes⟩ := readRecord_writes he hlead hkey hnote haddress
      (hattach e List.mem_cons_self)
    have hnew : checkNew naming.lead list.issues i = .ok i := by
      unfold checkNew
      rw [if_neg ?_]
      intro hseen
      obtain ⟨j, hj, he⟩ := List.any_eq_true.1 hseen
      refine (List.nodup_append.1 hkeys).2.2 j.key (List.mem_map_of_mem hj) (String.ofList e.key)
        List.mem_cons_self ?_
      rw [eq_of_beq he, hdescribes.key]
    let longer : BugList := { list with issues := list.issues ++ [i] }
    have hkeys' :
        (longer.issues.map (·.key) ++ entries.map fun e => String.ofList e.key).Nodup := by
      rw [List.map_append, List.append_assoc, List.map_singleton, hdescribes.key]
      exact hkeys
    obtain ⟨issues, hissues, hread⟩ := ih (fun e h => hentries e (List.mem_cons_of_mem _ h))
      (fun e h => hbrowse e (List.mem_cons_of_mem _ h))
      (fun e h => hattach e (List.mem_cons_of_mem _ h)) longer hkeys'
    obtain ⟨rest, hlines, hrest⟩ := lines_of_line hline hstop hread
    refine ⟨i :: issues, .cons hdescribes hissues, fun number => ?_⟩
    rw [hlines, readLines, hrecord]
    simp only [hi, bind, Except.bind, hnew]
    rw [hrest number, List.append_assoc, List.singleton_append]

/-- **Reading a sheet undoes writing it.** Each entry becomes the issue that it describes, in the
order of the sheet, and the previous release is what the first mark names. -/
theorem ofBytes_encode (path : Disk.Path) {naming : Naming} {text : String} {entries : List Entry}
    {marks : List String} (hlead : IsLead naming.lead.toList)
    (hentries : ∀ e ∈ entries, e.WellFormed) (hkeys : (entries.map (·.key)).Nodup)
    (hbrowse : ∀ e ∈ entries, ∃ a,
      fillUrl naming.browseUrl "issue_id" (naming.lead ++ String.ofList e.key) = .ok a)
    (hattach : ∀ e ∈ entries, ∀ digits, e.note = .id digits →
      ∃ a, fillUrl naming.attachmentUrl "attachment_id" (String.ofList digits) = .ok a)
    (hsheet : Sheet naming.lead.toList text.toList entries marks) :
    ∃ issues, ofBytes path naming (Utf8.encode text) = .ok ⟨issues, marks.head?⟩ ∧
      List.Forall₂ (Entry.Describes naming) entries issues ∧
      ∀ i ∈ issues, i.status = .attached ↔ i.noteAddress.isSome = true := by
  have hnames :
      (([] : List Issue).map (·.key) ++ entries.map fun e => String.ofList e.key).Nodup := by
    have hmap :
        (entries.map fun e => String.ofList e.key) = (entries.map (·.key)).map String.ofList := by
      rw [List.map_map]
      rfl
    rw [List.map_nil, List.nil_append, hmap]
    exact hkeys.map fun _ _ h => String.ofList_injective h
  obtain ⟨issues, hissues, hread⟩ := readLines_sheet path hlead hsheet hentries hbrowse hattach
    ⟨[], none⟩ hnames
  refine ⟨issues, ?_, hissues, attached_iff_of_describes hissues⟩
  rw [ofBytes_of_decode (Utf8.decode_encode text)]
  exact hread 1

/-! ### A sample -/

def sampleNaming : Naming :=
  ⟨"DERBY-", "browse/\x7bissue_id\x7d", "note/\x7battachment_id\x7d"⟩

def sampleEntries : List Entry :=
  [⟨['1'], "Fix X".toList, ["10.7".toList, "10.6".toList], .id ['4', '2']⟩,
    ⟨['2'], [], [], .missing⟩]

theorem sample_sheet :
    Sheet sampleNaming.lead.toList
      "// Previous release: 10.6\rDERBY-1\tFix X\t10.7,10.6\t42\r\n \n//\n2\t\t\tMissing\n".toList
      sampleEntries ["10.6"] := by
  have hmissing :
      List.Forall₂ (fun c m => c = m ∨ c = m.toUpper) "Missing".toList "missing".toList := by
    decide
  have hlast : Sheet sampleNaming.lead.toList ("2\t\t\tMissing".toList ++ (['\n'] ++ []))
      [⟨['2'], [], [], .missing⟩] [] :=
    .entry ⟨.bare (by decide) (by decide), .missing hmissing⟩ .feed .nil
  have hcomment : Sheet sampleNaming.lead.toList (commentMark ++ [] ++ (['\n'] ++ _)) _ _ :=
    .comment (forall_of_all rfl) (by decide) .feed hlast
  have hblank : Sheet sampleNaming.lead.toList ([' '] ++ (['\n'] ++ _)) _ _ :=
    .blank (forall_of_all (by decide)) .feed hcomment
  have hfirst : Sheet sampleNaming.lead.toList
      ("DERBY-1\tFix X\t10.7,10.6\t42".toList ++ (['\r', '\n'] ++ _)) sampleEntries _ :=
    .entry ⟨.named, .id ['4', '2']⟩ .both hblank
  have hmark :
      Sheet sampleNaming.lead.toList (previousMark ++ " 10.6".toList ++ (['\r'] ++ _)) _ _ :=
    .mark (forall_of_all (by decide)) .carriageReturn hfirst
  exact hmark

theorem sample_wellFormed : ∀ e ∈ sampleEntries, e.WellFormed := by
  have hfield : ∀ cs : List Char,
      (cs.all fun c => decide (c ≠ '\t' ∧ isLineEnd c = false)) = true →
      cs.head?.all (!isBlank ·) = true → cs.getLast?.all (!isBlank ·) = true → IsField cs :=
    fun _ hinside hfront hback => ⟨forall_of_all hinside, trimmed_of_check hfront hback⟩
  intro e he
  rcases List.mem_pair.1 he with rfl | rfl
  · refine ⟨hfield _ (by decide) (by decide) (by decide), by decide,
      hfield _ (by decide) (by decide) (by decide), ?_, ?_⟩
    · intro v hv
      rcases List.mem_pair.1 hv with rfl | rfl
      · exact ⟨hfield _ (by decide) (by decide) (by decide), by decide, by decide⟩
      · exact ⟨hfield _ (by decide) (by decide) (by decide), by decide, by decide⟩
    · rintro ds ⟨⟩
      exact ⟨by decide, forall_of_all (by decide)⟩
  · refine ⟨hfield _ rfl rfl rfl, by decide, hfield _ rfl rfl rfl,
      fun v hv => absurd hv List.not_mem_nil, ?_⟩
    rintro ds ⟨⟩

/-- A list with all three line ends, a comment, a blank line and three spellings of notes. -/
theorem ofBytes_encode_sample :
    ∃ issues, ofBytes (Disk.Path.read "bugs.txt") sampleNaming (Utf8.encode
        "// Previous release: 10.6\rDERBY-1\tFix X\t10.7,10.6\t42\r\n \n//\n2\t\t\tMissing\n") =
        .ok ⟨issues, some "10.6"⟩ ∧
      List.Forall₂ (Entry.Describes sampleNaming) sampleEntries issues ∧
      ∀ i ∈ issues, i.status = .attached ↔ i.noteAddress.isSome = true := by
  have hfill : ∀ (template name value : String), (fillUrl template name value).isOk = true →
      ∃ a, fillUrl template name value = .ok a := by
    intro template name value h
    cases hfilled : fillUrl template name value with
    | ok a => exact ⟨a, rfl⟩
    | error problem =>
      rw [hfilled] at h
      cases h
  refine ofBytes_encode _ ⟨by decide, forall_of_all (by decide), by decide⟩ sample_wellFormed
    (by decide) ?_ ?_ sample_sheet
  · intro e he
    rcases List.mem_pair.1 he with rfl | rfl
    · exact hfill _ _ _ (by decide +kernel)
    · exact hfill _ _ _ (by decide +kernel)
  · intro e he digits hdigits
    rcases List.mem_pair.1 he with rfl | rfl
    · cases hdigits
      exact hfill _ _ _ (by decide +kernel)
    · cases hdigits

end Pamphlet.Release.BugList
