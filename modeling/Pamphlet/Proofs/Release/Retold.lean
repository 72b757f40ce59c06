import Mathlib.Data.List.TakeWhile
import Mathlib.Logic.Function.Basic
import Pamphlet.Proofs.Page.Treatment
import Pamphlet.Proofs.Release.Grammar
import Pamphlet.Release.Summary

/-!
# Files that differ in one text

A summary with another text on one topic is the same on all others (`get_retold_of_ne`). A bug list
with another title in one of its records is read as the same issues, of which one has the other
title (`ofBytes_retitled`): nothing that decides how a list is read looks at a title. The notes of
the issues do not depend on titles either (`map_shown_retitled`).
-/

namespace Pamphlet.Release

open Pamphlet.Text

theorem ne_of_nodup_map {α β : Type} {f : α → β} {before after : List α} {a : α}
    (h : ((before ++ a :: after).map f).Nodup) : ∀ b ∈ before ++ after, f b ≠ f a := by
  intro b hb he
  rw [List.map_append, List.map_cons, List.nodup_middle, List.nodup_cons, ← List.map_append] at h
  exact h.1 (he ▸ List.mem_map_of_mem hb)

/-! ## Summaries -/

namespace Summary

/-- The summary with these texts on the topics. -/
def ofTexts (text : Topic → String) : Summary :=
  ⟨text .releaseId, text .previousReleaseId, text .branch, text .overview, text .newFeatures,
    text .releaseVerification, text .machine, text .antVersion, text .jdk14, text .java6,
      text .compilers,
    text .jsr169, text .osgi⟩

theorem ofTexts_get (s : Summary) : ofTexts s.get = s := rfl

theorem get_ofTexts (text : Topic → String) (t : Topic) : (ofTexts text).get t = text t := by
  cases t <;> rfl

/-- The summary with another text on a topic. -/
def retold (s : Summary) (t : Topic) (text : String) : Summary :=
  ofTexts (Function.update s.get t text)

theorem get_retold_self (s : Summary) (t : Topic) (text : String) :
    (s.retold t text).get t = text := by
  rw [retold, get_ofTexts, Function.update_self]

theorem get_retold_of_ne (s : Summary) {t t' : Topic} (text : String) (h : t' ≠ t) :
    (s.retold t text).get t' = s.get t' := by
  rw [retold, get_ofTexts, Function.update_of_ne h]

theorem eq_retold {s s' : Summary} {t : Topic} (h : ∀ t', t' ≠ t → s'.get t' = s.get t') :
    s' = s.retold t (s'.get t) := by
  have hget : s'.get = Function.update s.get t (s'.get t) :=
    Function.eq_update_iff.2 ⟨rfl, h⟩
  rw [retold, ← hget, ofTexts_get]

end Summary

/-! ## Bug lists -/

namespace BugList

/-- The lines of a bug list around the title of a record. -/
structure Slot where
  before : List (List Char)
  /-- The field before the title. -/
  key : List Char
  /-- The fields behind the title. -/
  more : List (List Char)
  after : List (List Char)

namespace Slot

def line (t : Slot) (title : List Char) : List Char :=
  t.key ++ '\t' :: (title ++ t.more.flatMap ('\t' :: ·))

/-- The bytes of a list with the title at the place. -/
def Holds (t : Slot) (title : List Char) (bytes : List UInt8) : Prop :=
  ∃ cs, Utf8.decode bytes = (cs, none) ∧ lines cs = t.before ++ t.line title :: t.after

/-- A list with the title at the place, as bytes. -/
def bytes (t : Slot) (title : List Char) : List UInt8 :=
  Utf8.encode (String.ofList ((t.before ++ t.line title :: t.after).flatMap (· ++ ['\n'])))

/-- The bytes of a list that has a record with the title, and the place is that of the title. -/
def Titles (t : Slot) (title : List Char) (bytes : List UInt8) : Prop :=
  ∃ cs line, Utf8.decode bytes = (cs, none) ∧ lines cs = t.before ++ line :: t.after ∧
    Line.read line = .record (t.key :: title :: t.more)

end Slot

/-! ## Lines -/

theorem not_mem_of_mem_splitOn {separator : Char} {cs part : List Char}
    (h : part ∈ splitOn separator cs) : separator ∉ part := by
  induction cs generalizing part with
  | nil =>
    rw [splitOn, List.mem_singleton] at h
    subst h
    exact List.not_mem_nil
  | cons c cs ih =>
    rw [splitOn] at h
    split at h
    · rcases List.mem_cons.1 h with rfl | h
      · exact List.not_mem_nil
      · exact ih h
    · rename_i hc
      split at h
      · rw [List.mem_singleton] at h
        subst h
        simpa using Ne.symm hc
      · rename_i first rest hsplit
        rw [hsplit] at ih
        rcases List.mem_cons.1 h with rfl | h
        · rw [List.mem_cons, not_or]
          exact ⟨Ne.symm hc, ih List.mem_cons_self⟩
        · exact ih (List.mem_cons_of_mem _ h)

theorem splitOn_ne_nil (separator : Char) (cs : List Char) : splitOn separator cs ≠ [] := by
  cases cs with
  | nil => exact List.cons_ne_nil _ _
  | cons c cs =>
    rw [splitOn]
    split
    · exact List.cons_ne_nil _ _
    · split <;> exact List.cons_ne_nil _ _

/-- A line is its parts with the separator before all but the first. -/
theorem eq_of_splitOn {separator : Char} {cs part : List Char} {parts : List (List Char)}
    (h : splitOn separator cs = part :: parts) : cs = part ++ parts.flatMap (separator :: ·) := by
  induction cs generalizing part parts with
  | nil =>
    obtain ⟨rfl, rfl⟩ := List.cons.inj h
    rfl
  | cons c cs ih =>
    obtain ⟨first, rest, hsplit⟩ := List.exists_cons_of_ne_nil (splitOn_ne_nil separator cs)
    rw [splitOn, hsplit] at h
    split at h
    · rename_i hc
      obtain ⟨rfl, rfl⟩ := List.cons.inj h
      rw [List.nil_append, List.flatMap_cons, List.cons_append, ← ih hsplit, hc]
    · obtain ⟨rfl, rfl⟩ := List.cons.inj h
      rw [List.cons_append, ← ih hsplit]

theorem splitOn_append_flatMap {separator : Char} {cs : List Char} {parts : List (List Char)}
    (h : separator ∉ cs) (hparts : ∀ part ∈ parts, separator ∉ part) :
    splitOn separator (cs ++ parts.flatMap (separator :: ·)) = cs :: parts := by
  induction parts generalizing cs with
  | nil =>
    rw [List.flatMap_nil, List.append_nil]
    exact splitOn_of_not_mem h
  | cons part parts ih =>
    obtain ⟨hpart, hrest⟩ := List.forall_mem_cons.1 hparts
    rw [List.flatMap_cons, List.cons_append, splitOn_append h, ih hpart hrest]

/-- What stands behind a character says nothing about a prefix without it. -/
theorem prefix_append_cons_iff {mark cs : List Char} {c : Char} (h : c ∉ mark) (rest : List Char) :
    mark <+: cs ++ c :: rest ↔ mark <+: cs := by
  refine ⟨fun hmark => ?_, fun hmark => hmark.trans (List.prefix_append cs _)⟩
  rcases Nat.lt_or_ge cs.length mark.length with hlong | hshort
  · have hcs : cs ++ [c] <+: mark := by
      refine List.prefix_of_prefix_length_le ?_ hmark (by rw [List.length_append]; exact hlong)
      exact ⟨rest, by simp⟩
    exact absurd (hcs.subset (List.mem_append_right cs List.mem_cons_self)) h
  · exact List.prefix_of_prefix_length_le hmark (List.prefix_append cs _) hshort

/-- Whether a line with something before its first tab is a record does not depend on what stands
behind. -/
theorem read_eq_record {key rest : List Char} {fields : List (List Char)}
    (hkey : key.all isBlank = false)
    (h : Line.read (key ++ '\t' :: rest) = .record fields) (rest' : List Char) :
    Line.read (key ++ '\t' :: rest') = .record (splitOn '\t' (key ++ '\t' :: rest')) := by
  have hblank : ∀ rest, ¬(key ++ '\t' :: rest).all isBlank = true := by
    intro rest
    rw [List.all_append, hkey, Bool.false_and]
    exact Bool.false_ne_true
  have hmark : ∀ rest, commentMark.isPrefixOf (key ++ '\t' :: rest) = true ↔
      commentMark <+: key := by
    intro rest
    rw [List.isPrefixOf_iff_prefix]
    exact prefix_append_cons_iff (by decide) rest
  unfold Line.read at h ⊢
  rw [if_neg (hblank rest)] at h
  rw [if_neg (hblank rest')]
  split at h
  · cases h
  · rename_i hcomment
    rw [hmark] at hcomment
    rw [if_neg (by rwa [hmark])]

theorem splitOn_of_read {line : List Char} {fields : List (List Char)}
    (h : Line.read line = .record fields) : splitOn '\t' line = fields := by
  unfold Line.read at h
  split at h
  · cases h
  · split at h
    · cases h
    · exact Line.record.inj h

namespace Slot

variable {t : Slot} {title title' : List Char} {bytes : List UInt8}

theorem line_eq {line : List Char} (h : Line.read line = .record (t.key :: title :: t.more)) :
    line = t.line title := by
  rw [eq_of_splitOn (splitOn_of_read h), List.flatMap_cons]
  rfl

theorem Titles.holds (h : t.Titles title bytes) :
    t.Holds title bytes ∧ Line.read (t.line title) = .record (t.key :: title :: t.more) := by
  obtain ⟨cs, line, hdecode, hlines, hread⟩ := h
  rw [line_eq hread] at hlines hread
  exact ⟨⟨cs, hdecode, hlines⟩, hread⟩

/-- A record is still one with any other title without tabs. -/
theorem read_line (hkey : t.key.all isBlank = false)
    (h : Line.read (t.line title) = .record (t.key :: title :: t.more)) (htab : '\t' ∉ title') :
    Line.read (t.line title') = .record (t.key :: title' :: t.more) := by
  have hothers : ∀ part ∈ t.key :: title :: t.more, '\t' ∉ part := by
    rw [← splitOn_of_read h]
    exact fun part hpart => not_mem_of_mem_splitOn hpart
  obtain ⟨htabKey, -, htabMore⟩ :=
    List.forall_mem_cons.1 hothers |>.imp_right List.forall_mem_cons.1
  unfold line at h ⊢
  rw [read_eq_record hkey h, splitOn_append htabKey, splitOn_append_flatMap htab htabMore]

theorem mem_line (t : Slot) (title : List Char) {title' : List Char} {c : Char}
    (h : c ∈ t.line title') : c ∈ title' ∨ c ∈ t.line title := by
  unfold line at h ⊢
  simp only [List.mem_append, List.mem_cons] at h ⊢
  tauto

end Slot

theorem Slot.holds_bytes {t : Slot} {title : List Char}
    (h : ∀ line ∈ t.before ++ t.line title :: t.after, ∀ c ∈ line, isLineEnd c = false) :
    t.Holds title (t.bytes title) := by
  refine ⟨_, Utf8.decode_encode _, ?_⟩
  rw [String.toList_ofList]
  exact lines_flatMap h

/-- Any title without line ends can be put in the place of a title. -/
theorem Slot.Holds.retitled {t : Slot} {title title' : List Char} {bytes : List UInt8}
    (h : t.Holds title bytes)
    (htitle : ∀ c ∈ title', isLineEnd c = false) : t.Holds title' (t.bytes title') := by
  obtain ⟨cs, -, hlines⟩ := h
  have hends : ∀ line ∈ t.before ++ t.line title :: t.after, ∀ c ∈ line, isLineEnd c = false := by
    rw [← hlines]
    exact fun line hline => not_end_of_mem_lines hline
  refine holds_bytes fun line hline => ?_
  rcases List.mem_append.1 hline with hline | hline
  · exact hends line (List.mem_append_left _ hline)
  · rcases List.mem_cons.1 hline with rfl | hline
    · intro c hc
      rcases t.mem_line title hc with hc | hc
      · exact htitle c hc
      · exact hends _ (List.mem_append_right _ List.mem_cons_self) c hc
    · exact hends line (List.mem_append_right _ (List.mem_cons_of_mem _ hline))

/-! ## Records -/

theorem keyOf_of_blank (lead : String) {key : List Char} (h : key.all isBlank = true) :
    keyOf lead key = [] := by
  have hnone : trimChars key = [] := by
    rw [trimChars, List.dropWhile_eq_nil_iff.2 (List.all_eq_true.1 h)]
    rfl
  rw [keyOf, hnone]
  split
  · exact List.drop_nil
  · rfl

/-- A record that is read has something in its first field, and its title is only put into the
issue. -/
theorem readRecord_title {naming : Naming} {key title : List Char} {more : List (List Char)}
    {i : Issue} (h : readRecord naming (key :: title :: more) = .ok (.ok i)) :
    key.all isBlank = false ∧ ∀ title', readRecord naming (key :: title' :: more) =
      .ok (.ok { i with title := String.ofList (trimChars title') }) := by
  unfold readRecord at h ⊢
  simp only [List.take_succ_cons, List.take_zero, List.getElem?_cons_succ] at h ⊢
  split at h
  · cases h
  · rename_i hkey
    simp only [if_neg hkey]
    split at h
    · rename_i mark hmark
      have hfilled : key.all isBlank = false := by
        rw [Bool.eq_false_iff]
        intro hblank
        rw [keyOf_of_blank naming.lead hblank] at hkey
        exact hkey rfl
      refine ⟨hfilled, fun title' => ?_⟩
      split at h
      all_goals
        obtain ⟨noteAddress, hnote, h⟩ := bind_ok h
        obtain ⟨address, haddress, h⟩ := bind_ok h
        cases h
        simp only [hnote, haddress]
        rfl
    · cases h

/-! ## Lists -/

section

variable {path : Disk.Path} {naming : Naming}

/-- Lines are read in two parts as they are read as a whole. -/
theorem readLines_append_iff {xs ys : List (List Char)} {number : Nat} {list out : BugList} :
    readLines path naming number list (xs ++ ys) = .ok out ↔
      ∃ next, readLines path naming number list xs = .ok next ∧
        readLines path naming (number + xs.length) next ys = .ok out := by
  induction xs generalizing number list with
  | nil =>
    refine ⟨fun h => ⟨list, rfl, h⟩, ?_⟩
    rintro ⟨next, hnext, h⟩
    cases hnext
    exact h
  | cons x xs ih =>
    have hnumber : number + (x :: xs).length = number + 1 + xs.length := by
      rw [List.length_cons]
      omega
    simp only [List.cons_append, readLines_cons_iff, ih, hnumber]
    constructor
    · rintro ⟨first, hfirst, next, hnext, h⟩
      exact ⟨next, ⟨first, hfirst, hnext⟩, h⟩
    · rintro ⟨next, ⟨first, hfirst, hnext⟩, h⟩
      exact ⟨first, hfirst, next, hnext, h⟩

/-- Of the issues read before only the keys decide what a line does. -/
theorem Reads.after {list next : BugList} {line : List Char} (h : Reads naming list line next) :
    ∃ more, next.issues = list.issues ++ more ∧ ∀ issues', issues'.map (·.key) =
    list.issues.map (·.key) →
      Reads naming { list with issues := issues' } line { next with
                                                          issues := issues' ++ more } := by
  cases h with
  | blank hline =>
    refine ⟨[], (List.append_nil _).symm, fun issues' _ => ?_⟩
    rw [List.append_nil]
    exact .blank hline
  | comment hline =>
    refine ⟨[], (List.append_nil _).symm, fun issues' _ => ?_⟩
    rw [List.append_nil]
    exact .comment hline
  | record hline hread hnew =>
    refine ⟨[_], rfl, fun issues' hkeys => ?_⟩
    refine .record hline hread fun j hj hkey => ?_
    have hmem : j.key ∈ list.issues.map (·.key) := hkeys ▸ List.mem_map_of_mem hj
    obtain ⟨j', hj', hkey'⟩ := List.mem_map.1 hmem
    exact hnew j' hj' (hkey'.trans hkey)

/-- What is read after a line does not depend on the titles read before it. -/
theorem readLines_after {ls : List (List Char)} {number : Nat} {list out : BugList}
    (h : readLines path naming number list ls = .ok out) :
    ∃ more, out.issues = list.issues ++ more ∧ ∀ issues', issues'.map (·.key) =
    list.issues.map (·.key) →
      readLines path naming number { list with issues := issues' } ls =
        .ok { out with issues := issues' ++ more } := by
  induction ls generalizing number list with
  | nil =>
    cases h
    refine ⟨[], (List.append_nil _).symm, fun issues' _ => ?_⟩
    rw [List.append_nil]
    rfl
  | cons l ls ih =>
    obtain ⟨next, hline, h⟩ := readLines_cons_iff.1 h
    obtain ⟨first, hfirst, hreads⟩ := hline.after
    obtain ⟨more, hmore, hrest⟩ := ih h
    refine ⟨first ++ more, ?_, fun issues' hkeys => ?_⟩
    · rw [hmore, hfirst, List.append_assoc]
    · refine readLines_cons_iff.2 ⟨_, hreads issues' hkeys, ?_⟩
      rw [← List.append_assoc]
      refine hrest (issues' ++ first) ?_
      rw [hfirst, List.map_append, List.map_append, hkeys]

/-- **Another title changes nothing but the title.** A bug list with a record for whose title
another one is put in is read as the same issues, but for the title of one of them. -/
theorem ofBytes_retitled {t : Slot} {title : List Char} {bytes : List UInt8} {list : BugList}
    (htitles : t.Titles title bytes) (hlist : ofBytes path naming bytes = .ok list) :
    ∃ before i after, list.issues = before ++ i :: after ∧
      ∀ title' bytes', '\t' ∉ title' → t.Holds title' bytes' → ofBytes path naming bytes' =
        .ok { list with
          issues := before ++ { i with title := String.ofList (trimChars title') } :: after } := by
  obtain ⟨⟨cs, hdecode, hlines⟩, hrecord⟩ := htitles.holds
  rw [ofBytes_of_decode hdecode, ofChars, hlines] at hlist
  obtain ⟨first, hbefore, hlist⟩ := readLines_append_iff.1 hlist
  obtain ⟨next, hline, hlist⟩ := readLines_cons_iff.1 hlist
  cases hline with
  | blank hline | comment hline =>
    rw [hrecord] at hline
    cases hline
  | @record fields i hline hread hnew =>
    obtain rfl := Line.record.inj (hrecord.symm.trans hline)
    obtain ⟨hkey, hother⟩ := readRecord_title hread
    obtain ⟨more, hmore, hafter⟩ := readLines_after hlist
    refine ⟨first.issues, i, more, by rw [hmore, List.append_assoc]; rfl,
      fun title' bytes' htab hholds' => ?_⟩
    obtain ⟨cs', hdecode', hlines'⟩ := hholds'
    rw [ofBytes_of_decode hdecode', ofChars, hlines']
    refine readLines_append_iff.2 ⟨first, hbefore, readLines_cons_iff.2
      ⟨_, .record (Slot.read_line hkey hrecord htab) (hother title') hnew, ?_⟩⟩
    have hread' :=
      hafter (first.issues ++ [{ i with title := String.ofList (trimChars title') }]) (by
        rw [List.map_append, List.map_append]
        rfl)
    rw [List.append_assoc] at hread'
    exact hread'

end

end BugList

/-! ## Notes -/

open BugList Page

/-- The issue with another title, if it has this key. -/
def Issue.retitled (key title : String) (i : Issue) : Issue :=
  { i with title := if i.key = key then title else i.title }

section

variable {source : Source} {is : List Issue} (key title : String)

theorem map_retitled {before after : List Issue} {i : Issue} (h : Distinct (before ++ i :: after)) :
    (before ++ i :: after).map (Issue.retitled i.key title) = before ++ { i with
                                                                          title } :: after := by
  have hothers : ∀ j ∈ before ++ after, Issue.retitled i.key title j = j := by
    intro j hj
    rw [Issue.retitled, if_neg (ne_of_nodup_map h j hj)]
  have hself : Issue.retitled i.key title i = { i with title } := by
    rw [Issue.retitled, if_pos rfl]
  rw [List.map_append, List.map_cons, hself,
    List.map_congr_left fun j hj => hothers j (List.mem_append_left _ hj),
    List.map_congr_left fun j hj => hothers j (List.mem_append_right _ hj), List.map_id',
      List.map_id']

theorem filter_retitled (is : List Issue) :
    (is.map (Issue.retitled key title)).filter Issue.hasNote =
      (is.filter Issue.hasNote).map (Issue.retitled key title) :=
  List.filter_map

theorem distinct_retitled (h : Distinct is) : Distinct (is.map (Issue.retitled key title)) := by
  unfold Distinct
  rw [List.map_map]
  exact h

/-- A download asks for the address of its note at its place, whatever the title. -/
theorem noteFor_retitled (h : Distinct is) {i : Issue} (hi : i ∈ is.filter Issue.hasNote) :
    source.noteFor (is.map (Issue.retitled key title)) (i.retitled key title) =
    source.noteFor is i := by
  have hindex := List.idxOf_lt_length_of_mem hi
  have hplace :
      ((is.filter Issue.hasNote).map (Issue.retitled key title)).idxOf (i.retitled key title) =
      (is.filter Issue.hasNote).idxOf i := by
    have hnodup := distinct_nodup_noted (distinct_retitled key title h)
    rw [filter_retitled] at hnodup
    have hget := hnodup.idxOf_getElem ((is.filter Issue.hasNote).idxOf i) (by rwa [List.length_map])
    rwa [List.getElem_map, List.getElem_idxOf hindex] at hget
  unfold Source.noteFor
  rw [filter_retitled, hplace]
  rfl

theorem map_shown_retitled (h : Distinct is) (lead : String) :
    ((source.shown (is.map (Issue.retitled key title))).map fun s => Chapter.noteSection lead
      s.1 s.2) = (source.shown is).map fun s => Chapter.noteSection lead s.1 s.2 := by
  unfold Source.shown
  rw [filter_retitled, List.filterMap_map, List.map_filterMap, List.map_filterMap]
  refine List.filterMap_congr fun i hi => ?_
  rw [Function.comp_apply, noteFor_retitled key title h hi]
  cases source.noteFor is i <;> rfl

end

end Pamphlet.Release
