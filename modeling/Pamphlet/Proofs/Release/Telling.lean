import Pamphlet.Proofs.Markup.Document
import Pamphlet.Proofs.Markup.Erased
import Pamphlet.Proofs.Release.Summary
import Pamphlet.Proofs.Text.Words

/-!
# What a summary document tells by

Each topic is told by the last child of the root that has the local name of its tag, and by nothing
else. So a document that is restated (`Restates`) makes the same summary or the same fault
(`ofBytes_tellers`): its children may stand in another order if those of one tag stay in theirs,
children with other tags may come and go, and so may the text between the children, and its names
may be in other namespaces.
-/

namespace Pamphlet.Release.Summary

open Pamphlet.Text Pamphlet.Markup Pamphlet.Record Pamphlet.Record.Intake Element

/-! ## Children that tell topics -/

/-- The last child of a root with the local tag of a topic. -/
def tellerIn (root : Element) (t : Topic) : Option Element :=
  (root.children.filter fun e => e.localTag? = some t.tag).getLast?

/-- An element without the text that follows it and without namespaces. -/
def itself (e : Element) : Element :=
  e.alone.erased

/-- The children of a root with a local tag, without what follows them and without namespaces. -/
def tellings (root : Element) (tag : String) : List Element :=
  (root.children.filter fun e => e.localTag? = some tag).map itself

theorem tellerOf_plain (root : Element) (t : Topic) :
    tellerOf root.plain t = (tellerIn root t).map plain := by
  have hchildren : root.plain.children = root.children.map plain := by rw [plain_eq]
  have htag :
      (fun e : Element => e.hasTag t.tag) ∘ plain = fun e => decide (e.localTag? = some t.tag) := by
    funext e
    rw [Function.comp_apply, hasTag_eq, localTag?_eq_plain]
  rw [tellerOf, childrenNamed, hchildren, List.filter_map, htag, List.getLast?_map]
  rfl

theorem getLast?_tellings (root : Element) (t : Topic) :
    (tellings root t.tag).getLast? = (tellerIn root t).map itself := by
  rw [tellings, List.getLast?_map]
  rfl

theorem get?_payload_plain (root : Element) (t : Topic) :
    (payload root.plain).get? t.field = (tellerIn root t).map fun e =>
    .text (topicText t e.plain) := by
  rw [get?_payload, tellerOf_plain, Option.map_map]
  rfl

/-- What follows an element is not told. -/
theorem topicText_alone (t : Topic) (e : Element) : topicText t e.alone = topicText t e := by
  unfold topicText innerMarkup innerText
  rw [characters_eq, characters_eq e]
  rfl

theorem topicText_congr {e e' : Element} (h : e.Expanded) (h' : e'.Expanded)
    (he : itself e = itself e') (t : Topic) : topicText t e.plain = topicText t e'.plain := by
  have hplain : e.alone.plain = e'.alone.plain :=
    plain_congr (Formed.withTail h isRun_none) (Formed.withTail h' isRun_none) he
  rw [← topicText_alone, ← topicText_alone t e'.plain, ← plain_alone, ← plain_alone, hplain]

theorem expanded_tellerIn {root e : Element} {t : Topic} (h : root.Expanded)
    (he : tellerIn root t = some e) : e.Expanded :=
  h.child (List.mem_filter.1 (List.mem_of_getLast? he)).1

/-- A field is told by its own teller alone. -/
theorem get?_payload_congr {root root' : Element} (h : root.Expanded) (h' : root'.Expanded)
    {t : Topic} (he : (tellerIn root t).map itself = (tellerIn root' t).map itself) :
    (payload root.plain).get? t.field = (payload root'.plain).get? t.field := by
  rw [get?_payload_plain, get?_payload_plain]
  cases hteller : tellerIn root t with
  | none =>
    rw [hteller, Option.map_none] at he
    rw [Option.map_eq_none_iff.1 he.symm]
  | some e =>
    rw [hteller, Option.map_some] at he
    obtain ⟨e', hteller', hsame⟩ := Option.map_eq_some_iff.1 he.symm
    rw [hteller', Option.map_some, Option.map_some,
      topicText_congr (expanded_tellerIn h hteller) (expanded_tellerIn h' hteller') hsame.symm t]

/-- A payload is what its fields are. -/
theorem payload_eq (root : Element) :
    payload root = Topic.all.filterMap fun t => ((payload root).get? t.field).map fun d =>
    (t.field, d) := by
  have hentry : ∀ t : Topic, ((payload root).get? t.field).map (fun d => (t.field, d)) =
      (tellerOf root t).map fun e => (t.field, .text (topicText t e)) := by
    intro t
    rw [get?_payload, Option.map_map]
    rfl
  simp only [hentry]
  rfl

theorem payload_congr {root root' : Element} (h : root.Expanded) (h' : root'.Expanded)
    (he : ∀ t, (tellerIn root t).map itself = (tellerIn root' t).map itself) :
    payload root.plain = payload root'.plain := by
  rw [payload_eq, payload_eq root'.plain]
  simp only [get?_payload_congr h h' (he _)]

/-! ## Restating -/

/-- A root and another one that tells the same. -/
inductive Restates : Element → Element → Prop
  /-- The children stand in another order, but those of each tag in theirs. -/
  | reorder (root : Element) (children : List Element)
    (kept : ∀ tag, children.filter (fun e => e.localTag? = tag) =
      root.children.filter fun e => e.localTag? = tag) :
    Restates root { root with children }
  /-- One child more, with a tag that no topic has. -/
  | add (root : Element) (before after : List Element) (child : Element) (children : root.children =
      before ++ after)
    (foreign : ∀ t : Topic, child.localTag? ≠ some t.tag) :
    Restates root { root with children := before ++ child :: after }
  /-- Another text before the children and after each of them. -/
  | text (root : Element) (text : Option String) (children : List Element)
    (kept : children.map Element.alone = root.children.map Element.alone) :
    Restates root { root with text, children }
  /-- Other namespaces, wherever there are some. -/
  | namespaces (root root' : Element) (kept : root.erased = root'.erased) : Restates root root'
  | symm {root root' : Element} (h : Restates root root') : Restates root' root
  | trans {root root' root'' : Element} (h : Restates root root') (h' : Restates root' root'') :
      Restates root root''

theorem Restates.localTag? {root root' : Element} (h : Restates root root') :
    root.localTag? = root'.localTag? := by
  induction h with
  | reorder | add | text => rfl
  | namespaces root root' kept => rw [localTag?_eq_erased, localTag?_eq_erased, kept]
  | symm _ ih => exact ih.symm
  | trans _ _ ih ih' => exact ih.trans ih'

/-- The tellings of a root are told by its children without what follows them. -/
theorem tellings_eq_alone (root : Element) (tag : String) :
    tellings root tag =
    ((root.children.map Element.alone).filter fun e => e.localTag? = some tag).map erased := by
  rw [List.filter_map, List.map_map]
  rfl

/-- The tellings of a root are told by its children without namespaces. -/
theorem tellings_eq_erased (root : Element) (tag : String) :
    tellings root tag =
    (root.erased.children.filter fun e => e.tag? = some tag).map Element.alone := by
  have hchildren : root.erased.children = root.children.map erased := by rw [erased_eq]
  have htag : (fun e : Element => decide (e.tag? = some tag)) ∘ erased =
      fun e => decide (e.localTag? = some tag) := by
    funext e
    rw [Function.comp_apply, localTag?_eq_erased]
  rw [hchildren, List.filter_map, htag, List.map_map, tellings]
  exact List.map_congr_left fun e _ => erased_alone e

theorem Restates.tellings {root root' : Element} (h : Restates root root') (t : Topic) :
    tellings root t.tag = tellings root' t.tag := by
  induction h with
  | reorder root children kept => rw [Summary.tellings, Summary.tellings, kept]
  | add root before after child children foreign =>
    rw [Summary.tellings, Summary.tellings, children, List.filter_append, List.filter_append,
      List.filter_cons_of_neg (by simpa using foreign t)]
  | text root text children kept => rw [tellings_eq_alone, tellings_eq_alone, kept]
  | namespaces root root' kept => rw [tellings_eq_erased, tellings_eq_erased, kept]
  | symm _ ih => exact ih.symm
  | trans _ _ ih ih' => exact ih.trans ih'

/-- Documents that restate each other have the same tellers. -/
theorem Restates.tellers {root root' : Element} (h : Restates root root') (t : Topic) :
    (tellerIn root t).map itself = (tellerIn root' t).map itself := by
  rw [← getLast?_tellings, ← getLast?_tellings, h.tellings t]

/-! ## Documents -/

section

variable {path : Disk.Path} {bytes : List UInt8} {root : Element}
    (h : parse (.bytes bytes) false = .ok root)

include h

theorem ofBytes_eq_of_parse :
    ofBytes path bytes =
      if root.localTag? = some "summary" then ofPayload (payload root.plain)
      else .error (.foreignRoot path (root.localTag?.getD "")) := by
  rw [ofBytes, h, localTag?_eq_plain]
  simp only
  split
  · rename_i htag
    rw [if_pos htag]
  · rename_i htag
    rw [if_neg htag]

/-- **Documents that restate each other load alike.** -/
theorem Restates.ofBytes {bytes' : List UInt8} {root' : Element}
    (h' : parse (.bytes bytes') false = .ok root') (hrestates : Restates root root') :
    Summary.ofBytes path bytes = Summary.ofBytes path bytes' := by
  rw [ofBytes_eq_of_parse h, ofBytes_eq_of_parse h', hrestates.localTag?,
    payload_congr (parse_formed h).1 (parse_formed h').1 hrestates.tellers]

theorem ofPayload_of_ofBytes {s : Summary} (hs : ofBytes path bytes = .ok s) :
    ofPayload (payload root.plain) = .ok s := by
  rw [ofBytes_eq_of_parse h] at hs
  split at hs
  · exact hs
  · cases hs

end

/-! ## Summaries -/

theorem branch_withBranch_ne_empty {read : Summary} (h : read.releaseId ≠ "") :
    read.withBranch.branch ≠ "" := by
  unfold withBranch
  split
  · exact branchOf_ne_empty h
  · assumption

/-- What is read of a payload: the names of the releases, and for each topic what its teller
tells. -/
theorem ofPayload_eq_ok {root : Element} {s : Summary} (h : ofPayload (payload root) = .ok s) :
    ∃ read : Summary, s = read.withBranch ∧ read.releaseId ≠ "" ∧ read.previousReleaseId ≠ "" ∧
      ∀ t e, tellerOf root t = some e → read.get t = topicText t e := by
  obtain ⟨read, hread, rfl⟩ := ofFields_eq_ok (ofFields_of_ofPayload h)
  refine ⟨read, rfl, ne_empty_of_readTopic rfl (hread .releaseId),
    ne_empty_of_readTopic rfl (hread .previousReleaseId), fun t e he => ?_⟩
  have hfield :
      (fillOut (payload root)).get? t.field =
      some (.text (((tellerOf root t).map (topicText t)).getD "")) :=
    get?_fillOut_payload fun _ => ⟨e, he⟩
  rw [he] at hfield
  exact eq_of_readTopic hfield (hread t)

/-- What a summary has of a topic that is told in words: the words, or the default for a branch of
which nothing is told. -/
inductive HasWords (s : Summary) (t : Topic) (e : Element) : Prop
  | told (text : s.get t = collapse e.characters) (tidy : Tidy (s.get t))
  | default (branch : t = .branch) (blank : collapse e.characters = "") (text : s.branch =
      branchOf s.releaseId)

theorem hasWords_withBranch {read : Summary} {t : Topic} {e : Element}
    (h : read.get t = collapse e.characters) : HasWords read.withBranch t e := by
  have htidy : Tidy (read.get t) := h ▸ tidy_collapse e.characters
  by_cases hbranch : t = .branch
  · subst hbranch
    by_cases hnone : read.branch = ""
    · have hwith : read.withBranch = { read with branch := branchOf read.releaseId } := if_pos hnone
      refine .default rfl (h.symm.trans hnone) ?_
      rw [hwith]
    · have hwith : read.withBranch = read := if_neg hnone
      rw [hwith]
      exact .told h htidy
  · have hsame := get_withBranch hbranch read
    exact .told (hsame.trans h) (hsame ▸ htidy)

/-- **What a summary document tells by.** Each field of the payload is what the last child of the
root with the local tag of its topic tells, and depends on nothing else of the document; so a
document that is restated comes to the same summary or the same fault. A summary has both names of
releases and a branch, and what it has in words is tidy. -/
theorem ofBytes_tellers (path : Disk.Path) {bytes : List UInt8} {root : Element}
    (h : parse (.bytes bytes) false = .ok root) :
    (∀ t, (payload root.plain).get? t.field =
      (tellerIn root t).map fun e => .text (topicText t e.plain)) ∧
    (∀ {bytes' : List UInt8} {root' : Element}, parse (.bytes bytes') false = .ok root' →
      (∀ t, (tellerIn root t).map itself = (tellerIn root' t).map itself →
        (payload root.plain).get? t.field = (payload root'.plain).get? t.field) ∧
      (Restates root root' → ofBytes path bytes = ofBytes path bytes')) ∧
    ∀ s, ofBytes path bytes = .ok s →
      s.releaseId ≠ "" ∧ s.previousReleaseId ≠ "" ∧ s.branch ≠ "" ∧
        ∀ t e, t.isFragment = false → tellerIn root t = some e → HasWords s t e := by
  refine ⟨get?_payload_plain root, fun h' => ⟨fun t => ?_, fun hrestates => hrestates.ofBytes h h'⟩,
    fun s hs => ?_⟩
  · exact get?_payload_congr (parse_formed h).1 (parse_formed h').1
  · obtain ⟨read, rfl, hrelease, hprevious, htold⟩ := ofPayload_eq_ok (ofPayload_of_ofBytes h hs)
    have hkept : ∀ t : Topic, t ≠ .branch → read.withBranch.get t = read.get t :=
      fun t ht => get_withBranch ht read
    refine ⟨?_, ?_, branch_withBranch_ne_empty hrelease, fun t e hwords hteller => ?_⟩
    · exact fun he => hrelease ((hkept .releaseId (by decide)).symm.trans he)
    · exact fun he => hprevious ((hkept .previousReleaseId (by decide)).symm.trans he)
    · have htext : read.get t = collapse e.characters := by
        rw [htold t e.plain (by rw [tellerOf_plain, hteller]; rfl), topicText, hwords,
          if_neg Bool.false_ne_true, innerText, characters_plain]
      exact hasWords_withBranch htext

/-! ### A sample -/

def briefDocument : String :=
  "<summary><releaseID>10.7.1</releaseID><previousReleaseID>9</previousReleaseID></summary>"

def releaseTeller : Element :=
  .ofText "releaseID" "10.7.1"

def previousTeller : Element :=
  .ofText "previousReleaseID" "9"

def briefRoot : Element :=
  { label := .tag "summary", children := [releaseTeller, previousTeller] }

/-- The same in a namespace, the other way round, and with more to read. -/
def restatedDocument : String :=
  "<summary xmlns=\"u\">x<previousReleaseID>9</previousReleaseID><note/><releaseID>10.7.1</releaseID>y</summary>"

def restatedRoot : Element :=
  { label := .tag "\x7bu\x7dsummary"
    text := some "x"
    children := [
      .ofText "\x7bu\x7dpreviousReleaseID" "9",
      .named "\x7bu\x7dnote",
      { Element.ofText "\x7bu\x7dreleaseID" "10.7.1" with tail := some "y" }] }

set_option maxRecDepth 4096 in
theorem parse_briefDocument : parse (.bytes (Utf8.encode briefDocument)) false = .ok briefRoot := by
  rfl

set_option maxRecDepth 4096 in
theorem parse_restatedDocument :
    parse (.bytes (Utf8.encode restatedDocument)) false = .ok restatedRoot := by
  rfl

theorem restates_briefRoot : Restates briefRoot restatedRoot := by
  have hrelease : releaseTeller.localTag? = some "releaseID" := by decide
  have hprevious : previousTeller.localTag? = some "previousReleaseID" := by decide
  have hreordered :
      Restates briefRoot { briefRoot with children := [previousTeller, releaseTeller] } := by
    refine .reorder briefRoot _ fun tag => ?_
    have hchildren : briefRoot.children = [releaseTeller, previousTeller] := rfl
    by_cases htag : tag = some "releaseID"
    · simp [hchildren, hrelease, hprevious, htag]
    · simp [hchildren, List.filter_cons, hrelease, Ne.symm htag]
  have hadded : Restates { briefRoot with children := [previousTeller, releaseTeller] }
      { briefRoot with children := [previousTeller, .named "note", releaseTeller] } := by
    refine .add { briefRoot with
                  children := [previousTeller, releaseTeller] } [previousTeller] [releaseTeller]
      (.named "note") rfl fun t => ?_
    cases t <;> decide
  have htext :
      Restates { briefRoot with children := [previousTeller, .named "note", releaseTeller] }
      { briefRoot with
        text := some "x"
        children := [previousTeller, .named "note", { releaseTeller with tail := some "y" }] } :=
    .text { briefRoot with children := [previousTeller, .named "note", releaseTeller] } _ _ rfl
  exact hreordered.trans (hadded.trans (htext.trans (.namespaces _ _ rfl)))

def briefSummary : Summary :=
  { releaseId := "10.7.1", previousReleaseId := "9", branch := "10.7" }

theorem ofBytes_tellers_restated :
    parse (.bytes (Utf8.encode briefDocument)) false = .ok briefRoot ∧
      parse (.bytes (Utf8.encode restatedDocument)) false = .ok restatedRoot ∧
      Restates briefRoot restatedRoot ∧
      ofBytes ⟨"", ["summary.xml"]⟩ (Utf8.encode briefDocument) = .ok briefSummary ∧
      ofBytes ⟨"", ["summary.xml"]⟩ (Utf8.encode restatedDocument) = .ok briefSummary ∧
      tellerIn briefRoot .releaseId = some releaseTeller ∧
      HasWords briefSummary .releaseId releaseTeller := by
  have hread : ofBytes ⟨"", ["summary.xml"]⟩ (Utf8.encode briefDocument) = .ok briefSummary := by
    rw [ofBytes_eq_of_parse parse_briefDocument]
    exact ok_of_toOption (by decide +kernel)
  obtain ⟨-, hrestated, hsummary⟩ := ofBytes_tellers ⟨"", ["summary.xml"]⟩ parse_briefDocument
  have hsame := (hrestated parse_restatedDocument).2 restates_briefRoot
  obtain ⟨-, -, -, hwords⟩ := hsummary briefSummary hread
  exact ⟨parse_briefDocument, parse_restatedDocument, restates_briefRoot, hread,
    hsame.symm.trans hread, rfl, hwords .releaseId releaseTeller rfl rfl⟩

end Pamphlet.Release.Summary
