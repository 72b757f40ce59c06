import Pamphlet.Page.Chapters
import Pamphlet.Proofs.Release.Fragment

/-!
# What a page shows of a summary document

The fragments of a summary that was read from a document are divisions with the content that the
document has for them, and the chapters that hold fragments have these divisions as their bodies:
`shows_of_ofBytes`.
-/

namespace Pamphlet.Page

open Pamphlet.Text Pamphlet.Markup Pamphlet.Release

/-- The fragment of a topic is a division, and a chapter that holds the fragment has it as its body.
The chapters `overview`, `newFeatures` and `verification` are such chapters. -/
structure Shows (s : Summary) (t : Topic) (division : Element) : Prop where
  fragment : s.fragmentNamed t.field = .ok division
  chapter : ∀ title, Chapter.ofFragment title s t = .ok { title, body := division }

theorem appendContent_named {tag : String} {text : Option String} (h : ∀ s ∈ text, s ≠ "")
    (children : List Element) :
    (Element.named tag).appendContent { label := .tag tag, text, children } =
      { label := .tag tag, text, children } := by
  unfold Element.appendContent
  cases text with
  | none => rfl
  | some s =>
    simp only [Element.appendText?, Element.appendText, if_neg (h s rfl)]
    simp [Element.named]

/-- The chapters show a fragment that could be read. -/
theorem shows_of_fragment {s : Summary} {t : Topic} (ht : t.isFragment = true)
    {text : Option String} (htext : ∀ s ∈ text, s ≠ "") {children : List Element}
    (h : s.fragment t = .ok { label := .tag "div", text, children }) :
    Shows s t { label := .tag "div", text, children } where
  fragment := (Summary.fragmentNamed_field s ht).trans h
  chapter title := by
    unfold Chapter.ofFragment
    rw [h]
    simp only [bind, Except.bind, pure, Except.pure, appendContent_named htext]

/-- **Fragments have the content that the document has for them.** For a topic that no child of the
root names, there is nothing in the fragment. For another one, the fragment has the content of the
last such child `e` if the attributes inside can be written without their namespaces: the texts,
tags, attributes and children of `e` in their order, without the blanks at both ends, and with the
line ends of texts joined. Where no text holds a carriage return, that is the trimmed content as it
is. -/
theorem shows_of_ofBytes {path : Disk.Path} {bytes : List UInt8} {s : Summary}
    (h : Summary.ofBytes path bytes = .ok s) :
    ∃ root, parse (.bytes bytes) false = .ok root ∧ ∀ t : Topic, t.isFragment = true →
      (Summary.tellerOf root.plain t = none → Shows s t (.named "div")) ∧
      ∀ e, Summary.tellerOf root.plain t = some e → (∀ child ∈ e.children, child.Writable) →
        Shows s t e.division ∧
          ('\r' ∉ (e.text.getD "").toList → (∀ child ∈ e.children, child.ReturnFree) →
            e.division =
            { label := .tag "div", text := e.trimmed.text, children := e.trimmed.children }) := by
  unfold Summary.ofBytes at h
  split at h
  · cases h
  · cases h
  rename_i root hroot
  simp only at h
  split at h
  · have hplain := (parse_formed hroot).1.plain
    refine ⟨root, hroot,
      fun t ht => ⟨fun hteller => ?_, fun e hteller hwritable => ⟨?_, Element.division_eq⟩⟩⟩
    · exact shows_of_fragment ht (fun _ htext => by cases htext)
        (Summary.fragment_of_none h ht hteller)
    · have he : e.Formed IsName fun name => IsNamePart name.toList := by
        have hmem := List.mem_of_getLast? hteller
        exact hplain.child (List.mem_filter.1 hmem).1
      have hreadable : ∀ child ∈ e.children, child.Readable :=
        fun child hchild => (he.child hchild).readable (hwritable child hchild)
      exact shows_of_fragment ht (Element.text_division he.here.text)
        (Summary.fragment_of_teller h ht hteller he.here.text hreadable)
  · cases h

/-! ### A sample -/

def sampleDocument : String :=
  "<summary xmlns:x=\"u\"><releaseID>2</releaseID><previousReleaseID>1</previousReleaseID>" ++
    "<branch>trunk</branch><overview> a &lt; <x:b id=\"&quot;\">c</x:b>d </overview></summary>"

def sampleRoot : Element :=
  { label := .tag "summary"
    children := [
      .ofText "releaseID" "2",
      .ofText "previousReleaseID" "1",
      .ofText "branch" "trunk",
      { label := .tag "overview"
        text := some " a < "
        children := [
          { label := .tag "\x7bu\x7db", attributes := [("id", "\"")], text := some "c",
            tail := some "d " }] }] }

set_option maxRecDepth 4096 in
theorem parse_sampleDocument :
    parse (.bytes (Utf8.encode sampleDocument)) false = .ok sampleRoot := by
  rfl

def sampleSummary : Summary :=
  { releaseId := "2", previousReleaseId := "1", branch := "trunk",
    overview := "a &lt; <b id=\"&quot;\">c</b>d" }

def sampleOverview : Element :=
  { label := .tag "overview"
    text := some " a < "
    children :=
      [{ label := .tag "b", attributes := [("id", "\"")], text := some "c", tail := some "d " }] }

/-- A fragment with markup, blanks and a namespace. -/
theorem shows_of_ofBytes_sample :
    Summary.ofBytes ⟨"", ["summary.xml"]⟩ (Utf8.encode sampleDocument) = .ok sampleSummary ∧
      Shows sampleSummary .newFeatures (.named "div") ∧
      Shows sampleSummary .overview
        { label := .tag "div"
          text := some "a < "
          children :=
          [{ label := .tag "b", attributes := [("id", "\"")], text := some "c",
             tail := some "d" }] } := by
  have hread : Summary.ofBytes ⟨"", ["summary.xml"]⟩ (Utf8.encode sampleDocument) =
      .ok sampleSummary := by
    unfold Summary.ofBytes
    rw [parse_sampleDocument]
    exact ok_of_toOption (by decide +kernel)
  obtain ⟨root, hparse, hshows⟩ := shows_of_ofBytes hread
  cases hparse.symm.trans parse_sampleDocument
  have hwritable : ∀ child ∈ sampleOverview.children, child.Writable := by
    refine List.forall_mem_singleton.2
      (List.forall_mem_singleton.2 (List.forall_mem_singleton.2 ⟨by decide, ?_⟩))
    rintro c ⟨⟩
    decide
  have hreturnFree : ∀ child ∈ sampleOverview.children, child.ReturnFree :=
    List.forall_mem_singleton.2 (List.forall_mem_singleton.2 ⟨by decide, by decide⟩)
  obtain ⟨hoverview, hplain⟩ := (hshows .overview rfl).2 sampleOverview rfl hwritable
  rw [hplain (by decide) hreturnFree] at hoverview
  exact ⟨hread, (hshows .newFeatures rfl).1 rfl, hoverview⟩

/-- A carriage return that a reference names is written as it is, and is a line feed when it is read
back. -/
example :
    (Summary.fragmentNamed { releaseId := "2", previousReleaseId := "1", overview := "a\rb" }
      "overview") = .ok { label := .tag "div", text := some "a\nb" } := by
  rfl

end Pamphlet.Page
