import Pamphlet.Proofs.Page.Agreement

/-!
# Complete pages

A page is complete for given titles if its body has a banner, an introduction, a contents list that
agrees with the headings and, for each title in its order, a main heading and a block, and nothing
else. Attaching a section to a complete page makes it complete for one title more
(`Complete.attach`), and it stays complete when variables are filled in if the titles have no braces
(`Complete.fill`).
-/

namespace Pamphlet.Page

open Pamphlet.Markup

/-- The main headings of given titles in their order, each with a block below it. -/
inductive Headed : List String → List Element → Prop
  | nil : Headed [] []
  | cons {title : String} {titles : List String} {block : Element} {rest : List Element}
    (hblock : block.hasTag "blockquote" = true) (h : Headed titles rest) :
    Headed (title :: titles) (Section.headingOf mainLevel title :: block :: rest)

/-- The body of a page, its opening, its contents list and its blocks, is all there. -/
structure Complete (p : Page) (titles : List String) : Prop where
  opening : ∃ banner introduction, p.opening = [banner, introduction] ∧ banner.hasTag "h1" = true ∧
    introduction.hasTag "p" = true
  contents : p.contents.hasTag "ul" = true
  blocks : Headed titles p.blocks
  agrees : p.Agrees titles

/-! ## Attaching -/

/-- Two rows of chapters make one. -/
theorem Headed.append {titles more : List String} {es fs : List Element} (h : Headed titles es)
    (hmore : Headed more fs) : Headed (titles ++ more) (es ++ fs) := by
  induction h with
  | nil => exact hmore
  | cons hblock _ ih => exact .cons hblock ih

theorem headed_section (s : Section) :
    Headed [s.title] [s.heading mainLevel, s.block mainLevel] := by
  refine .cons ?_ .nil
  unfold Element.hasTag
  rw [block_label]
  rfl

theorem complete_new (title introduction : String) : (new title introduction).Complete [] where
  opening := ⟨_, _, rfl, rfl, rfl⟩
  contents := rfl
  blocks := .nil
  agrees := agrees_new title introduction

/-- One chapter more makes a page complete for one title more. -/
theorem Complete.attach {p : Page} {titles : List String} (h : p.Complete titles) (s : Section) :
    (p.attach s).Complete (titles ++ [s.title]) where
  opening := h.opening
  contents := h.contents
  blocks := h.blocks.append (headed_section s)
  agrees := h.agrees.attach s

theorem Complete.attach_all {p : Page} {titles : List String} (h : p.Complete titles)
    (ss : List Section) : (ss.foldl Page.attach p).Complete (titles ++ ss.map (·.title)) := by
  induction ss generalizing p titles with
  | nil =>
    rw [List.map_nil, List.append_nil]
    exact h
  | cons s rest ih =>
    rw [List.foldl_cons, List.map_cons, List.append_cons]
    exact ih (h.attach s)

/-! ## Filling in -/

/-- A title that has no brace, neither in itself nor in its anchor. -/
def IsPlain (title : String) : Prop :=
  '{' ∉ title.toList ∧ '{' ∉ ("#" ++ anchorName title).toList

instance : DecidablePred IsPlain := fun _ => inferInstanceAs (Decidable (_ ∧ _))

/-- A heading without variables is not changed by filling them in. -/
theorem fillTree_headingOf (values : Substitution.Values) (level : Int) {title : String}
    (h : IsPlain title) :
    Substitution.fillTree values (Section.headingOf level title) =
    Section.headingOf level title := by
  have hname : Substitution.fill values (anchorName title) = anchorName title := by
    refine Substitution.fill_eq_self fun hmem => h.2 ?_
    rw [String.toList_append]
    exact List.mem_append_right _ hmem
  have hlink :
      Substitution.fillTree values
      ((Element.ofText "a" title).withAttribute "name" (anchorName title)) =
      (Element.ofText "a" title).withAttribute "name" (anchorName title) := by
    rw [Substitution.fillTree_eq]
    simp [Substitution.fillHere, Element.ofText, Element.withAttribute, Attributes.set, hname,
      Substitution.fill_eq_self h.1]
  rw [Substitution.fillTree_eq, Section.headingOf, Element.append]
  simp [Substitution.fillHere, Element.named, hlink]

theorem Headed.fill {titles : List String} {es : List Element} (h : Headed titles es)
    (values : Substitution.Values) (hplain : ∀ t ∈ titles, IsPlain t) :
    Headed titles (es.map (Substitution.fillTree values)) := by
  induction h with
  | nil => exact .nil
  | cons hblock _ ih =>
    obtain ⟨htitle, htitles⟩ := List.forall_mem_cons.1 hplain
    rw [List.map_cons, List.map_cons, fillTree_headingOf values mainLevel htitle]
    refine .cons ?_ (ih htitles)
    rw [Substitution.hasTag_fillTree]
    exact hblock

/-- **A filled page stays complete**, if its titles have no variables. -/
theorem Complete.fill {p : Page} {titles : List String} (h : p.Complete titles)
    (values : Substitution.Values)
    (hplain : ∀ t ∈ titles, IsPlain t) : (p.fill values).Complete titles where
  opening := by
    obtain ⟨banner, introduction, hopening, hbanner, hintroduction⟩ := h.opening
    refine ⟨Substitution.fillTree values banner, Substitution.fillTree values introduction,
      ?_, ?_, ?_⟩
    · rw [Page.fill, hopening]
      rfl
    · rw [Substitution.hasTag_fillTree]
      exact hbanner
    · rw [Substitution.hasTag_fillTree]
      exact hintroduction
  contents := by
    rw [Page.fill, Substitution.hasTag_fillTree]
    exact h.contents
  blocks := h.blocks.fill values hplain
  agrees := h.agrees.fill values fun t ht => (hplain t ht).2

end Pamphlet.Page
