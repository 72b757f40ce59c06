import Pamphlet.Proofs.Release.BugList
import Pamphlet.Proofs.Release.Required

/-!
# The previous release, read twice

A summary document and a bug list both name the previous release, and the two names are compared. A
summary collapses the text that it reads (`Names.previousReleaseId_eq`), a bug list trims the rest
of its first mark (`previous_of_ofBytes`). So one text in both passes the comparison if its blanks
are single spaces between words, and not otherwise (`checkPrevious_one_text`).
-/

namespace Pamphlet.Release

open Pamphlet.Text Pamphlet.Markup Pamphlet.Record Pamphlet.Record.Intake

/-! ## The summary -/

namespace Summary

/-- A document of a summary, by the texts that it has for the release and for the previous one. -/
structure Names (bytes : List UInt8) (release previous : String) : Prop where
  root : ∃ root, parse (.bytes bytes) false = .ok root ∧ root.plain.tag? = some "summary" ∧
    (tellerOf root.plain .releaseId).map Element.characters = some release ∧
    (tellerOf root.plain .previousReleaseId).map Element.characters = some previous

/-- The summary can be read exactly if both texts can name a release. -/
theorem Names.ofBytes_ok_iff {bytes : List UInt8} {release previous : String}
    (h : Names bytes release previous) (path : Disk.Path) :
    (∃ s, ofBytes path bytes = .ok s) ↔ IsId release ∧ IsId previous := by
  obtain ⟨root, hparse, htag, hrelease, hprevious⟩ := h.root
  obtain ⟨e, hteller, rfl⟩ := Option.map_eq_some_iff.1 hrelease
  obtain ⟨e', hteller', rfl⟩ := Option.map_eq_some_iff.1 hprevious
  have hread : ofBytes path bytes = ofPayload (payload root.plain) := by
    rw [ofBytes, hparse]
    simp only [htag]
  rw [hread, ofPayload_ok_iff, isId_iff rfl hteller, isId_iff rfl hteller']
  constructor
  · rintro ⟨htold, hshort⟩
    exact ⟨⟨htold _, hshort _⟩, htold _, hshort _⟩
  · rintro ⟨hfirst, hsecond⟩
    have hboth (t : Topic) (ht : t.isRequired = true) :
        ¬Lacking root.plain t ∧ ¬Overlong root.plain t := by
      cases t with
      | releaseId => exact hfirst
      | previousReleaseId => exact hsecond
      | _ => cases ht
    exact ⟨fun t hlacking => (hboth t hlacking.required).1 hlacking,
      fun t hlong => (hboth t hlong.required).2 hlong⟩

/-- A summary has its name of the previous release collapsed. -/
theorem Names.previousReleaseId_eq {path : Disk.Path} {bytes : List UInt8}
    {release previous : String} {s : Summary} (h : Names bytes release previous)
    (hs : ofBytes path bytes = .ok s) : s.previousReleaseId = collapse previous := by
  obtain ⟨root, hparse, htag, -, hprevious⟩ := h.root
  obtain ⟨e, hteller, rfl⟩ := Option.map_eq_some_iff.1 hprevious
  rw [ofBytes, hparse] at hs
  simp only [htag] at hs
  have htext := get_ofPayload_of_teller (t := .previousReleaseId) hs (by decide) hteller
  rwa [topicText_of_isRequired rfl, innerText] at htext

end Summary

/-! ## The bug list -/

namespace BugList

/-- The previous release that a line names. -/
def markOf (line : List Char) : Option String :=
  if previousMark.isPrefixOf line then
    some (String.ofList (trimChars (line.drop previousMark.length)))
  else none

def Line.previous? : Line → Option String
  | .comment previous => previous
  | _ => none

theorem previous?_read (line : List Char) : (Line.read line).previous? = markOf line := by
  unfold Line.read
  split
  · rename_i hblank
    refine (if_neg fun hmark => ?_).symm
    have hslash : '/' ∈ line := (List.isPrefixOf_iff_prefix.1 hmark).subset List.mem_cons_self
    exact absurd (List.all_eq_true.1 hblank '/' hslash) (by decide)
  · split
    · rfl
    · rename_i hcomment
      refine (if_neg fun hmark => hcomment ?_).symm
      have hbegin : commentMark <+: previousMark := by decide
      exact List.isPrefixOf_iff_prefix.2 (hbegin.trans (List.isPrefixOf_iff_prefix.1 hmark))

/-- A list has the previous release of its first mark. -/
theorem readLines_previous {path : Disk.Path} {naming : Naming} {lines : List (List Char)}
    {number : Nat} {list out : BugList} (h : readLines path naming number list lines = .ok out) :
    out.previous = list.previous.or (lines.findSome? markOf) := by
  induction lines generalizing number list with
  | nil =>
    cases h
    exact Option.or_none.symm
  | cons line rest ih =>
    have hmark := previous?_read line
    obtain ⟨next, hnext, h⟩ := readLines_cons_iff.1 h
    rw [ih h, List.findSome?_cons, ← hmark]
    cases hnext with
    | blank kind | record kind =>
      rw [kind]
      rfl
    | @comment previous kind =>
      rw [kind]
      cases list.previous <;> cases previous <;> rfl

/-- The first mark of a bug list has this text. -/
structure Marked (bytes : List UInt8) (v : String) : Prop where
  mark : ∃ cs, Utf8.decode bytes = (cs, none) ∧
    (lines cs).find? (fun line => previousMark.isPrefixOf line) = some (previousMark ++ v.toList)

/-- The first line that begins with the mark gives the previous release. -/
theorem findSome?_markOf {lines : List (List Char)} {v : String}
    (h : lines.find? (fun line => previousMark.isPrefixOf line) = some (previousMark ++ v.toList)) :
    lines.findSome? markOf = some (trim v) := by
  induction lines with
  | nil => cases h
  | cons line rest ih =>
    rw [List.find?_cons] at h
    rw [List.findSome?_cons, markOf]
    split at h
    · rename_i hmark
      cases h
      rw [if_pos hmark, List.drop_left]
      rfl
    · rename_i hmark
      rw [if_neg (by rw [hmark]; exact Bool.false_ne_true)]
      exact ih h

/-- The list names the previous release as its first mark does, trimmed. -/
theorem previous_of_ofBytes {path : Disk.Path} {naming : Naming} {bytes : List UInt8}
    {list : BugList} {v : String} (hv : Marked bytes v) (h : ofBytes path naming bytes = .ok list) :
    list.previous = some (trim v) := by
  obtain ⟨cs, hdecode, hfind⟩ := hv.mark
  rw [ofBytes_of_decode hdecode] at h
  rw [readLines_previous h, findSome?_markOf hfind]
  rfl

/-! ## Together -/

/-- **One text for the previous release in both files.** The summary can be read exactly if what it
has for the release and for the previous one are more than blanks and not too long. If it can, the
comparison goes well if between the ends of the text every blank is a single space; else it says
that the collapsed text is not the trimmed one. -/
theorem checkPrevious_one_text (path : Disk.Path) {path' : Disk.Path} {naming : Naming}
    {bytes bytes' : List UInt8} {release v : String} {list : BugList}
    (hsummary : Summary.Names bytes release v) (hmark : Marked bytes' v)
    (hlist : ofBytes path' naming bytes' = .ok list) :
    ((∃ s, Summary.ofBytes path bytes = .ok s) ↔ Summary.IsId release ∧ Summary.IsId v) ∧
    ∀ s, Summary.ofBytes path bytes = .ok s →
      (SingleSpaced (trimChars v.toList) →
        checkPrevious list.previous s.previousReleaseId = .ok []) ∧
      (¬SingleSpaced (trimChars v.toList) →
        checkPrevious list.previous s.previousReleaseId =
          .error (.mismatch (collapse v) (trim v))) := by
  refine ⟨hsummary.ofBytes_ok_iff path, fun s hs => ⟨fun hspaced => ?_, fun hspaced => ?_⟩⟩
  · rw [previous_of_ofBytes hmark hlist, hsummary.previousReleaseId_eq hs, checkPrevious]
    exact if_pos ((trim_eq_collapse_iff v).2 hspaced)
  · rw [previous_of_ofBytes hmark hlist, hsummary.previousReleaseId_eq hs, checkPrevious]
    exact if_neg fun he => hspaced ((trim_eq_collapse_iff v).1 he)

/-! ### A sample -/

def sampleDocument : String :=
  "<summary><releaseID>2</releaseID><previousReleaseID> 10.6: 1\t</previousReleaseID></summary>"

def sampleList : String :=
  "// no mark\n// Previous release: 10.6: 1\t\n// Previous release: 3\n"

def sampleReadRoot : Element :=
  { label := .tag "summary"
    children := [.ofText "releaseID" "2", .ofText "previousReleaseID" " 10.6: 1\t"] }

set_option maxRecDepth 4096 in
theorem parse_document :
    parse (.bytes (Utf8.encode sampleDocument)) false = .ok sampleReadRoot := by
  rfl

theorem checkPrevious_one_text_sample :
    Summary.Names (Utf8.encode sampleDocument) "2" " 10.6: 1\t" ∧
      Marked (Utf8.encode sampleList) " 10.6: 1\t" ∧
      ∃ list s,
        ofBytes ⟨"", ["issues.txt"]⟩ ⟨"DERBY-", "", ""⟩ (Utf8.encode sampleList) = .ok list ∧
        Summary.ofBytes ⟨"", ["summary.xml"]⟩ (Utf8.encode sampleDocument) = .ok s ∧
        checkPrevious list.previous s.previousReleaseId = .ok [] := by
  have hnames : Summary.Names (Utf8.encode sampleDocument) "2" " 10.6: 1\t" :=
    ⟨sampleReadRoot, parse_document, rfl, rfl, rfl⟩
  have hmarked : Marked (Utf8.encode sampleList) " 10.6: 1\t" :=
    ⟨sampleList.toList, by decide +kernel, by decide +kernel⟩
  have hlist : ofBytes ⟨"", ["issues.txt"]⟩ ⟨"DERBY-", "", ""⟩ (Utf8.encode sampleList) =
      .ok ⟨[], some "10.6: 1"⟩ := ok_of_toOption (by decide +kernel)
  have hspaced : SingleSpaced (trimChars " 10.6: 1\t".toList) := by
    rw [← trim_eq_collapse_iff]
    decide +kernel
  obtain ⟨hloads, hcompare⟩ := checkPrevious_one_text ⟨"", ["summary.xml"]⟩ hnames hmarked hlist
  obtain ⟨s, hs⟩ := hloads.2
    ⟨Summary.isId_of_short (by decide) (by decide), Summary.isId_of_short (by decide) (by decide)⟩
  exact ⟨hnames, hmarked, _, s, hlist, hs, (hcompare s hs).1 hspaced⟩

end BugList

end Pamphlet.Release
