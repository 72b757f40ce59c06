import Mathlib.Data.List.Basic
import Pamphlet.Proofs.Outcome
import Pamphlet.Proofs.Text.Trim
import Pamphlet.Release.Note

/-!
# Which pages are release notes

A `Layout` says where the summary of a release note stands among the children of its body. The two
loops that look for heading and paragraph find a layout if there is one (`split_verdict`), and a
page is accepted exactly if its body has a layout that leaves something over for the details;
otherwise it is refused for one of four reasons (`parse_verdict`).
-/

namespace Pamphlet.Release.Note

open Pamphlet.Text Pamphlet.Markup

/-! ## The summary of a body -/

/-- Where the summary stands among the children of a body. Its heading is the first child that may
be one, its paragraph is the first one below, and no heading comes between the two. -/
structure Layout (children : List Element) where
  before : List Element
  heading : Element
  between : List Element
  paragraph : Element
  after : List Element
  children_eq : children = before ++ heading :: (between ++ paragraph :: after)
  heading_is : isSummaryHeading heading = true
  heading_first : ∀ e ∈ before, isSummaryHeading e = false
  paragraph_is : paragraph.hasTag "p" = true
  paragraph_first : ∀ e ∈ between, isHeading e = false ∧ e.hasTag "p" = false

namespace Layout

variable {children : List Element}

/-- The children but the heading and the paragraph of the summary. -/
def others (l : Layout children) : List Element :=
  l.before ++ (l.between ++ l.after)

/-- Some text or some child other than a title is left over for the details. -/
def HasDetails (l : Layout children) (text : Option String) : Prop :=
  isBlankText (text.getD "") = false ∨ ∃ e ∈ l.others, e.hasTag "h1" = false

/-- The release note of a body: a copy of the paragraph without what follows it, and a division with
the trimmed text and with all other children but the titles. -/
def note (l : Layout children) (text : Option String) : Note where
  summary := l.paragraph.alone
  details :=
    { label := .tag "div"
      text := if isBlankText (text.getD "") then none else some (trim (text.getD ""))
      children := l.others.filter fun e => !e.hasTag "h1" }

end Layout

theorem not_isHeading_of_paragraph {e : Element} (h : e.hasTag "p" = true) :
    isHeading e = false := by
  have hlabel : e.label = .tag "p" := of_decide_eq_true h
  simp [isHeading, Element.tag?, hlabel, headingTags]

/-- The first paragraph is taken if no heading comes before it. -/
theorem takeParagraph_append {between : List Element} {p : Element} (hp : p.hasTag "p" = true)
    (hbetween : ∀ e ∈ between, isHeading e = false ∧ e.hasTag "p" = false) (after : List Element) :
    takeParagraph (between ++ p :: after) = some (p, between ++ after) := by
  induction between with
  | nil =>
    rw [List.nil_append, takeParagraph, not_isHeading_of_paragraph hp, if_neg Bool.false_ne_true,
      if_pos hp]
    rfl
  | cons e between ih =>
    obtain ⟨⟨hheading, hnot⟩, hrest⟩ := List.forall_mem_cons.1 hbetween
    rw [List.cons_append, takeParagraph, hheading, hnot, if_neg Bool.false_ne_true,
      if_neg Bool.false_ne_true, ih hrest]
    rfl

theorem takeParagraph_some {cs rest : List Element} {p : Element}
    (h : takeParagraph cs = some (p, rest)) :
    ∃ between after, cs = between ++ p :: after ∧ rest = between ++ after ∧ p.hasTag "p" = true ∧
      ∀ e ∈ between, isHeading e = false ∧ e.hasTag "p" = false := by
  induction cs generalizing rest with
  | nil => cases h
  | cons e cs ih =>
    unfold takeParagraph at h
    split at h
    · cases h
    · rename_i hheading
      split at h
      · rename_i hp
        cases h
        exact ⟨[], _, rfl, rfl, hp, List.forall_mem_nil _⟩
      · rename_i hnot
        obtain ⟨⟨q, others⟩, htake, h⟩ := Option.map_eq_some_iff.1 h
        cases h
        obtain ⟨between, after, rfl, rfl, hp, hbetween⟩ := ih htake
        have he := And.intro (Bool.eq_false_iff.2 hheading) (Bool.eq_false_iff.2 hnot)
        exact ⟨e :: between, after, rfl, rfl, hp, List.forall_mem_cons.2 ⟨he, hbetween⟩⟩

/-- The first heading decides: without a paragraph below it there is no summary. -/
theorem split_append {before : List Element} {heading : Element}
    (hheading : isSummaryHeading heading = true)
    (hfirst : ∀ e ∈ before, isSummaryHeading e = false) (below : List Element) :
    split (before ++ heading :: below) =
      (takeParagraph below).elim (.error .noParagraph) fun (p, rest) =>
      .ok (p, before ++ rest) := by
  induction before with
  | nil =>
    rw [List.nil_append, split, if_pos hheading]
    cases takeParagraph below <;> rfl
  | cons e before ih =>
    obtain ⟨he, hrest⟩ := List.forall_mem_cons.1 hfirst
    rw [List.cons_append, split, he, if_neg Bool.false_ne_true, ih hrest]
    cases takeParagraph below <;> rfl

theorem split_of_no_heading {cs : List Element} (h : ∀ e ∈ cs, isSummaryHeading e = false) :
    split cs = .error .noHeading := by
  induction cs with
  | nil => rfl
  | cons e cs ih =>
    obtain ⟨he, hcs⟩ := List.forall_mem_cons.1 h
    rw [split, he, if_neg Bool.false_ne_true, ih hcs]
    rfl

/-- The paragraph of a layout is found, and the rest is what is left without it. -/
theorem Layout.split_eq {cs : List Element} (l : Layout cs) :
    split cs = .ok (l.paragraph, l.others) := by
  have htake := takeParagraph_append l.paragraph_is l.paragraph_first l.after
  have hsplit := split_append l.heading_is l.heading_first (l.between ++ l.paragraph :: l.after)
  rw [← l.children_eq, htake] at hsplit
  exact hsplit

/-- Looking for the summary finds its layout, if there is one. -/
theorem split_verdict (cs : List Element) :
    (∃ l : Layout cs, split cs = .ok (l.paragraph, l.others)) ∨
    ((∀ e ∈ cs, isSummaryHeading e = false) ∧ split cs = .error .noHeading) ∨
    (∃ e ∈ cs, isSummaryHeading e = true) ∧ IsEmpty (Layout cs) ∧
    split cs = .error .noParagraph := by
  cases hfind : cs.find? isSummaryHeading with
  | none =>
    have hall : ∀ e ∈ cs, isSummaryHeading e = false := fun e he => by
      simpa using List.find?_eq_none.1 hfind e he
    exact .inr (.inl ⟨hall, split_of_no_heading hall⟩)
  | some heading =>
    obtain ⟨hheading, before, below, rfl, hbefore⟩ := List.find?_eq_some_iff_append.1 hfind
    have hfirst : ∀ e ∈ before, isSummaryHeading e = false :=
      fun e he => by simpa using hbefore e he
    have hsplit := split_append hheading hfirst below
    cases htake : takeParagraph below with
    | none =>
      rw [htake] at hsplit
      refine .inr (.inr ⟨⟨heading, by simp, hheading⟩, ⟨fun l => ?_⟩, hsplit⟩)
      rw [l.split_eq] at hsplit
      cases hsplit
    | some found =>
      obtain ⟨between, after, hbelow, -, hp, hbetween⟩ := takeParagraph_some htake
      have l : Layout (before ++ heading :: below) :=
        ⟨before, heading, between, found.1, after, by rw [hbelow], hheading, hfirst, hp, hbetween⟩
      exact .inl ⟨l, l.split_eq⟩

/-! ## The body of a page -/

/-- The body of a page: its root, or the first child of the root that is a body. -/
inductive IsBody (root : Element) : Element → Prop
  | root (h : root.hasTag "body" = true) : IsBody root root
  | child {before after : List Element} {body : Element} (hroot : root.hasTag "body" = false)
    (hchildren : root.children = before ++ body :: after) (hbody : body.hasTag "body" = true)
    (hfirst : ∀ e ∈ before, e.hasTag "body" = false) : IsBody root body

/-- The body of a page is found exactly where it is. -/
theorem bodyOf_eq_some_iff {root body : Element} : bodyOf root = some body ↔ IsBody root body := by
  unfold bodyOf
  split
  · rename_i hroot
    constructor
    · intro h
      cases h
      exact .root hroot
    · intro h
      cases h with
      | root => rfl
      | child hnot =>
        rw [hroot] at hnot
        cases hnot
  · rename_i hnot
    have hroot : root.hasTag "body" = false := Bool.eq_false_iff.2 hnot
    rw [Element.childrenNamed, List.head?_filter, List.find?_eq_some_iff_append]
    constructor
    · rintro ⟨hbody, before, after, hchildren, hfirst⟩
      exact .child hroot hchildren hbody fun e he => by simpa using hfirst e he
    · intro h
      cases h with
      | root h => exact absurd h hnot
      | child _ hchildren hbody hfirst =>
        exact ⟨hbody, _, _, hchildren, fun e he => by simpa using hfirst e he⟩

/-! ## Accepting and refusing -/

theorem detailsOf_others {body : Element} (l : Layout body.children) :
    detailsOf body l.others = (l.note body.text).details := by
  unfold detailsOf Layout.note
  by_cases h : isBlankText (body.text.getD "") = true
  · simp [trim_eq_empty_iff, h]
  · simp [trim_eq_empty_iff, h]

theorem hasDetails_iff {children : List Element} (l : Layout children) (text : Option String) :
    l.HasDetails text ↔
      ((l.note text).details.children.isEmpty && (l.note text).details.text.isNone) = false := by
  unfold Layout.HasDetails Layout.note
  cases htext : isBlankText (text.getD "") with
  | true => simp
  | false => simp

/-- A body with a layout is accepted exactly if something is left over for the details. -/
theorem ofBody_of_layout {body : Element} (l : Layout body.children) :
    (l.HasDetails body.text → ofBody body = .ok (l.note body.text)) ∧
      (¬l.HasDetails body.text → ofBody body = .error .noDetails) := by
  unfold ofBody
  rw [l.split_eq, ok_bind, hasDetails_iff]
  simp only [detailsOf_others, Bool.not_eq_false]
  constructor
  · intro h
    rw [if_neg (by rw [h]; exact Bool.false_ne_true)]
    rfl
  · intro h
    rw [if_pos h]
    rfl

theorem ofBody_of_split_error {body : Element} {problem : NoteProblem}
    (h : split body.children = .error problem) : ofBody body = .error problem := by
  unfold ofBody
  rw [h]
  rfl

theorem ofRoot_of_isBody {root body : Element} (h : IsBody root body) :
    ofRoot root = ofBody body := by
  unfold ofRoot
  rw [bodyOf_eq_some_iff.2 h]

theorem ofRoot_of_not_isBody {root : Element} (h : ∀ body, ¬IsBody root body) :
    ofRoot root = .error .noBody := by
  unfold ofRoot
  cases hbody : bodyOf root with
  | none => rfl
  | some body => exact absurd (bodyOf_eq_some_iff.1 hbody) (h body)

/-- Why a page is no release note. -/
inductive Refuses (root : Element) : NoteProblem → Prop
  | noBody (h : ∀ body, ¬IsBody root body) : Refuses root .noBody
  | noHeading {body : Element} (hbody : IsBody root body)
    (h : ∀ e ∈ body.children, isSummaryHeading e = false) : Refuses root .noHeading
  | noParagraph {body : Element} (hbody : IsBody root body)
    (hheading : ∃ e ∈ body.children, isSummaryHeading e = true)
    (h : IsEmpty (Layout body.children)) : Refuses root .noParagraph
  | noDetails {body : Element} (hbody : IsBody root body) (l : Layout body.children)
    (h : ¬l.HasDetails body.text) : Refuses root .noDetails

theorem Refuses.ofRoot {root : Element} {problem : NoteProblem} (h : Refuses root problem) :
    ofRoot root = .error problem := by
  cases h with
  | noBody hnone => exact ofRoot_of_not_isBody hnone
  | noHeading hbody hall =>
    rw [ofRoot_of_isBody hbody]
    exact ofBody_of_split_error (split_of_no_heading hall)
  | noParagraph hbody hheading hempty =>
    rw [ofRoot_of_isBody hbody]
    rcases split_verdict _ with ⟨l, -⟩ | ⟨hall, -⟩ | ⟨-, -, hsplit⟩
    · exact (hempty.false l).elim
    · obtain ⟨e, he, heading⟩ := hheading
      rw [hall e he] at heading
      cases heading
    · exact ofBody_of_split_error hsplit
  | noDetails hbody l hdetails =>
    rw [ofRoot_of_isBody hbody]
    exact (ofBody_of_layout l).2 hdetails

/-- A page is a release note or is refused. -/
theorem ofRoot_verdict (root : Element) :
    (∃ body, IsBody root body ∧ ∃ l : Layout body.children,
      l.HasDetails body.text ∧ ofRoot root = .ok (l.note body.text)) ∨
    ∃ problem, Refuses root problem ∧ ofRoot root = .error problem := by
  by_cases hnone : ∀ body, ¬IsBody root body
  · exact .inr ⟨_, .noBody hnone, ofRoot_of_not_isBody hnone⟩
  obtain ⟨body, hbody⟩ := not_forall_not.1 hnone
  have hrefuses : ∀ {problem}, Refuses root problem →
      ∃ problem, Refuses root problem ∧ ofRoot root = .error problem := fun h => ⟨_, h, h.ofRoot⟩
  rcases split_verdict body.children with ⟨l, -⟩ | ⟨hall, -⟩ | ⟨hheading, hempty, -⟩
  · by_cases hdetails : l.HasDetails body.text
    · refine .inl ⟨body, hbody, l, hdetails, ?_⟩
      rw [ofRoot_of_isBody hbody]
      exact (ofBody_of_layout l).1 hdetails
    · exact .inr (hrefuses (.noDetails hbody l hdetails))
  · exact .inr (hrefuses (.noHeading hbody hall))
  · exact .inr (hrefuses (.noParagraph hbody hheading hempty))

/-- **A page is rejected** exactly for the reasons there are. -/
theorem ofRoot_eq_error_iff {root : Element} {problem : NoteProblem} :
    ofRoot root = .error problem ↔ Refuses root problem := by
  constructor
  · intro h
    rcases ofRoot_verdict root with ⟨body, -, l, -, hok⟩ | ⟨problem', hproblem, herror⟩
    · rw [h] at hok
      cases hok
    · rw [h] at herror
      cases herror
      exact hproblem
  · exact Refuses.ofRoot

/-- **A page is read** exactly if it has a layout with details. -/
theorem ofRoot_eq_ok_iff {root : Element} {note : Note} :
    ofRoot root = .ok note ↔
      ∃ body, IsBody root body ∧ ∃ l : Layout body.children, l.HasDetails body.text ∧
      note = l.note body.text := by
  constructor
  · intro h
    rcases ofRoot_verdict root with ⟨body, hbody, l, hdetails, hok⟩ | ⟨problem, -, herror⟩
    · rw [h] at hok
      cases hok
      exact ⟨body, hbody, l, hdetails, rfl⟩
    · rw [h] at herror
      cases herror
  · rintro ⟨body, hbody, l, hdetails, rfl⟩
    rw [ofRoot_of_isBody hbody]
    exact (ofBody_of_layout l).1 hdetails

theorem parse_of_document {source : Markup.Source} {root : Element}
    (h : Markup.parse source false = .ok root) :
    parse source = (ofRoot root.plain).mapError .badNote := by
  unfold parse
  rw [h]

/-- **A well-formed page is a release note** exactly if its body has a layout that leaves something
over for the details. The note is then the paragraph of the layout, and a division with the text and
the other children of the body, without its titles. Every other page is refused as a bad release
note, for the reason that it has. -/
theorem parse_verdict {source : Markup.Source} {root : Element}
    (h : Markup.parse source false = .ok root) : (∀ note, parse source = .ok note ↔
      ∃ body, IsBody root.plain body ∧ ∃ l : Layout body.children,
        l.HasDetails body.text ∧ note = l.note body.text) ∧
    ∀ f, parse source = .error f ↔ ∃ problem, f = .badNote problem ∧
    Refuses root.plain problem := by
  rw [parse_of_document h]
  constructor
  · intro note
    rw [← ofRoot_eq_ok_iff]
    constructor
    · exact mapError_ok
    · intro hnote
      rw [hnote]
      rfl
  · intro f
    constructor
    · intro hf
      cases hroot : ofRoot root.plain with
      | ok note =>
        rw [hroot] at hf
        cases hf
      | error problem =>
        rw [hroot] at hf
        cases hf
        exact ⟨problem, rfl, ofRoot_eq_error_iff.1 hroot⟩
    · rintro ⟨problem, rfl, hproblem⟩
      rw [ofRoot_eq_error_iff.2 hproblem]
      rfl

/-! ### A sample -/

def samplePage : String :=
  "<html xmlns=\"u\"><body> Lead<p>i</p><h1>T</h1><h4>Summary <b>OF</b>  change</h4>" ++
    "<ul/><p>s</p>t<h1>U</h1><p>d</p></body></html>"

def sampleRoot : Element :=
  { label := .tag "\x7bu\x7dhtml"
    children := [
      { label := .tag "\x7bu\x7dbody"
        text := some " Lead"
        children := [
          .ofText "\x7bu\x7dp" "i",
          .ofText "\x7bu\x7dh1" "T",
          { label := .tag "\x7bu\x7dh4"
            text := some "Summary "
            children :=
              [{ label := .tag "\x7bu\x7db", text := some "OF", tail := some "  change" }] },
          .named "\x7bu\x7dul",
          { label := .tag "\x7bu\x7dp", text := some "s", tail := some "t" },
          .ofText "\x7bu\x7dh1" "U",
          .ofText "\x7bu\x7dp" "d"] }] }

set_option maxRecDepth 8192 in
theorem parse_samplePage : Markup.parse (.text samplePage) false = .ok sampleRoot := by
  rfl

def sampleBody : Element :=
  { label := .tag "body"
    text := some " Lead"
    children := [
      .ofText "p" "i",
      .ofText "h1" "T",
      { label := .tag "h4"
        text := some "Summary "
        children := [{ label := .tag "b", text := some "OF", tail := some "  change" }] },
      .named "ul",
      { label := .tag "p", text := some "s", tail := some "t" },
      .ofText "h1" "U",
      .ofText "p" "d"] }

def sampleLayout : Layout sampleBody.children where
  before := [.ofText "p" "i", .ofText "h1" "T"]
  heading :=
    { label := .tag "h4"
      text := some "Summary "
      children := [{ label := .tag "b", text := some "OF", tail := some "  change" }] }
  between := [.named "ul"]
  paragraph := { label := .tag "p", text := some "s", tail := some "t" }
  after := [.ofText "h1" "U", .ofText "p" "d"]
  children_eq := rfl
  heading_is := by decide +kernel
  heading_first :=
    List.forall_mem_cons.2 ⟨by decide +kernel, List.forall_mem_singleton.2 (by decide +kernel)⟩
  paragraph_is := by decide
  paragraph_first := List.forall_mem_singleton.2 ⟨by decide, by decide⟩

/-- A page with a heading, a paragraph and details. -/
theorem parse_verdict_sample :
    Markup.parse (.text samplePage) false = .ok sampleRoot ∧
      parse (.text samplePage) =
        .ok {
          summary := .ofText "p" "s"
          details :=
            { label := .tag "div"
              text := some "Lead"
              children := [.ofText "p" "i", .named "ul", .ofText "p" "d"] } } := by
  have hchildren : sampleRoot.plain.children = [] ++ sampleBody :: [] := rfl
  have hbody : IsBody sampleRoot.plain sampleBody :=
    .child rfl hchildren rfl (List.forall_mem_nil _)
  have hdetails : sampleLayout.HasDetails sampleBody.text := .inl (by decide +kernel)
  exact ⟨parse_samplePage,
    ((parse_verdict parse_samplePage).1 _).2 ⟨sampleBody, hbody, sampleLayout, hdetails, rfl⟩⟩

end Pamphlet.Release.Note
