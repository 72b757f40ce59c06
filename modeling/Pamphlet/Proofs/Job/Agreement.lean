import Mathlib.Data.List.Basic
import Pamphlet.Proofs.Job.Faults
import Pamphlet.Proofs.Job.History
import Pamphlet.Proofs.Page.Agreement

/-!
# The titles of a job agree with its page

A job keeps the titles of the sections that it has attached, and its page keeps them twice more, in
the contents list and in the headings. Once the output has begun, every move keeps the three in
agreement (`Begun.agrees`): any step, in any order, whether it goes well or not, and attaching any
section. So the check finds fault with nothing but the order of the titles (`check_of_agrees`), a
run never ends in a broken page, and the page that it delivers would pass the check again
(`check_order`).
-/

namespace Pamphlet

open Pamphlet.Page Act

/-! ## Moves -/

/-- Something that may be done to a job. -/
inductive Move
  | step (s : Step)
  | attach (s : Page.Section)

namespace Move

def act (a : Assignment) : Move → Act Unit
  | .step s => s.perform a
  | .attach s => Act.attach s

/-- The job after a move, whether it goes well or not. -/
def after (a : Assignment) (m : Move) (j : Job) : Job :=
  ((m.act a).on j).2

end Move

namespace Job

/-- The jobs that any moves lead to before the output begins. -/
inductive Unbegun (a : Assignment) (disk : Disk) : Job → Prop
  | new : Unbegun a disk (.new disk)
  | move {j : Job} {m : Move} : Unbegun a disk j → m ≠ .step .beginOutput →
      Unbegun a disk (m.after a j)

/-- The jobs that any moves lead to once the output has begun, while no variables have been filled
in. -/
inductive Begun (a : Assignment) (disk : Disk) : Job → Prop
  | begin {j : Job} : Unbegun a disk j → Begun a disk (Move.after a (.step .beginOutput) j)
  | move {j : Job} {m : Move} : Begun a disk j → m ≠ .step .beginOutput →
      (m = .step .substitute → ∃ f, ((m.act a).on j).1 = .error f) → Begun a disk (m.after a j)

/-! ## What a move does to the page -/

/-- The page and the titles stay as they are, or a section is attached. -/
def Composes (j k : Job) : Prop :=
  (k.page = j.page ∧ k.titles = j.titles) ∨
    ∃ p s, j.page = some p ∧ k.page = some (p.attach s) ∧ k.titles = j.titles ++ [s.title]

theorem composes_refl (j : Job) : Composes j j :=
  .inl ⟨rfl, rfl⟩

/-- Attaching a section adds its title to the page and to the titles. -/
theorem composes_attached {s : Page.Section} {p : Page} {j : Job} (h : j.page = some p) :
    Composes j (attached s p j) :=
  .inr ⟨p, s, h, rfl, rfl⟩

theorem attach_composes (s : Page.Section) (j : Job) : Composes j ((attach s).on j).2 := by
  rw [on_attach]
  split
  · exact composes_refl j
  · rename_i p hp
    exact composes_attached hp

/-- Steps but the one that begins the page only add sections, unless variables are filled in. -/
theorem act_composes {a : Assignment} {s : Step} {j : Job} (hs : s ≠ .beginOutput)
    (hfill : s = .substitute → ∃ f, ((s.act a).on j).1 = .error f) :
    Composes j ((s.act a).on j).2 := by
  cases Step.act_effect a s j with
  | spares hpage htitles _ => exact .inl ⟨hpage, htitles⟩
  | attaches p chapter hp hpage htitles _ => exact .inr ⟨p, chapter, hp, hpage, htitles⟩
  | begins hbegin _ => exact absurd hbegin hs
  | fills hsubstitute detail hdone _ =>
    obtain ⟨f, hf⟩ := hfill hsubstitute
    rw [hdone] at hf
    cases hf
  | writes _ hpage htitles => exact .inl ⟨hpage, htitles⟩

/-- What is noted of a step concerns neither the page nor the titles. -/
theorem perform_composes {a : Assignment} {s : Step} {j : Job}
    (h : Composes j ((s.act a).on j).2) : Composes j ((s.perform a).on j).2 := by
  rw [Step.on_perform]
  rcases hact : (s.act a).on j with ⟨result, k⟩
  rw [hact] at h
  cases result <;> exact h

/-- A step fails if its action does. -/
theorem perform_fails {a : Assignment} {s : Step} {j : Job} {f : Fault}
    (h : ((s.perform a).on j).1 = .error f) : ((s.act a).on j).1 = .error f := by
  obtain ⟨i, hact, -⟩ := Step.perform_error (Prod.ext h rfl : (s.perform a).on j = (.error f, _))
  rw [hact]

/-- A move but the one that begins the page only adds sections, be it a step or not. -/
theorem move_composes {a : Assignment} {m : Move} {j : Job} (hm : m ≠ .step .beginOutput)
    (hfill : m = .step .substitute → ∃ f, ((m.act a).on j).1 = .error f) :
    Composes j (m.after a j) := by
  cases m with
  | attach s => exact attach_composes s j
  | step s =>
    refine perform_composes (act_composes (fun hs => hm (hs ▸ rfl)) fun hs => ?_)
    obtain ⟨f, hf⟩ := hfill (hs ▸ rfl)
    exact ⟨f, perform_fails hf⟩

/-! ## Agreement -/

/-- There is a page, and it shows the titles of the job. -/
def Agrees (j : Job) : Prop :=
  ∃ p, j.page = some p ∧ p.Agrees j.titles

/-- Adding sections keeps the agreement. -/
theorem Agrees.composes {j k : Job} (h : j.Agrees) (hk : Composes j k) : k.Agrees := by
  obtain ⟨p, hp, hagrees⟩ := h
  rcases hk with ⟨hpage, htitles⟩ | ⟨q, s, hq, hpage, htitles⟩
  · refine ⟨p, hpage.trans hp, ?_⟩
    rw [htitles]
    exact hagrees
  · rw [hp] at hq
    cases hq
    refine ⟨p.attach s, hpage, ?_⟩
    rw [htitles]
    exact hagrees.attach s

/-- Nothing can be filled in where there is no page. -/
theorem substitute_without_page {a : Assignment} {j : Job} (h : j.page = none) :
    ∃ f, ((Step.substitute.perform a).on j).1 = .error f := by
  rw [Step.on_perform, Step.act, on_substitute, h]
  cases j.summary <;> exact ⟨_, rfl⟩

/-- Nothing can be attached before there is a page. -/
theorem Unbegun.empty {a : Assignment} {disk : Disk} {j : Job} (h : Unbegun a disk j) :
    j.page = none ∧ j.titles = [] := by
  induction h with
  | new => exact ⟨rfl, rfl⟩
  | @move j m _ hm ih =>
    obtain ⟨hpage, htitles⟩ := ih
    have hfill : m = .step .substitute → ∃ f, ((m.act a).on j).1 = .error f := by
      rintro rfl
      exact substitute_without_page hpage
    rcases move_composes hm hfill with ⟨hpage', htitles'⟩ | ⟨p, s, hp, -, -⟩
    · exact ⟨hpage'.trans hpage, htitles'.trans htitles⟩
    · rw [hpage] at hp
      cases hp

/-- **The page agrees with the titles after all moves**, once it has been begun. -/
theorem Begun.agrees {a : Assignment} {disk : Disk} {j : Job} (h : Begun a disk j) : j.Agrees := by
  induction h with
  | begin hbefore =>
    refine ⟨.new pageTitle introduction, rfl, ?_⟩
    have htitles := hbefore.empty.2
    change (Page.new pageTitle introduction).Agrees _
    rw [show (Move.after a (.step .beginOutput) _).titles = [] from htitles]
    exact agrees_new pageTitle introduction
  | move _ hm hfill ih => exact ih.composes (move_composes hm hfill)

/-! ## The check -/

/-- If titles and page agree, the check looks at the titles only. -/
theorem check_of_agrees (a : Assignment) {j : Job} (h : j.Agrees) :
    (check a).on j =
      (if j.titles = Chapter.titles then .ok ""
        else .error (breakFault a (.order Chapter.titles j.titles)), j) := by
  obtain ⟨p, hp, hagrees⟩ := h
  rw [on_check]
  by_cases htitles : j.titles = Chapter.titles
  · rw [if_neg (not_not_intro htitles), if_pos htitles, hp]
    rw [htitles] at hagrees
    simp only [hagrees.problem?_eq_none]
  · rw [if_pos htitles, if_neg htitles]

/-- The page of a material agrees with the titles of the chapters. -/
theorem page_agrees {a : Assignment} {disk : Disk} {m : Material} (h : m.From a disk) :
    (m.page a).Agrees Chapter.titles := by
  rw [← h.titles]
  exact (agrees_new pageTitle introduction).attach_all (m.chapters a)

/-- A job whose chapters have been composed agrees with its titles. -/
theorem agrees_of_composed {a : Assignment} {disk : Disk} {m : Material} {j : Job}
    (h : m.From a disk) (w : j.work = m.composed a disk) : j.Agrees := by
  have htitles : j.titles = Chapter.titles := congrArg Work.titles w
  refine ⟨m.page a, congrArg Work.page w, ?_⟩
  rw [htitles]
  exact page_agrees h

/-- A run in the order of the plan never ends in a broken page. -/
theorem run_ne_brokenPage (a : Assignment) (disk : Disk) (problem : PageProblem) :
    (run a (.new disk)).1 ≠ .error ⟨.brokenPage problem⟩ := by
  intro h
  obtain ⟨last, hsteps, -⟩ := run_error (Prod.ext h rfl : run a (.new disk) = (_, _))
  obtain ⟨done, s, rest, i, hplan, hdone, hs⟩ := performAll_error hsteps
  obtain ⟨i', hact, -⟩ := Step.perform_error hs
  by_cases hcheck : s = .check
  · -- the check stands in the plan once, after all chapters
    subst hcheck
    have hsplit :
        composing ++ .check :: [.substitute, .serialize, .write] = done ++ .check :: rest :=
      hplan
    rw [List.append_cons_inj_of_notMem (by decide) (by decide)] at hsplit
    obtain ⟨rfl, -, -⟩ := hsplit
    obtain ⟨m, hm, w⟩ := composed_work hdone
    have htitles : i.titles = Chapter.titles := congrArg Work.titles w
    rw [Step.act, check_of_agrees a (agrees_of_composed hm w), if_pos htitles] at hact
    cases hact
  · have hunbroken := Step.act_unbroken a i hcheck
    rw [hact] at hunbroken
    have hbroken := hunbroken _ rfl
    cases hbroken

/-- **The check is about the order of the chapters.** Once the output has begun, and until variables
are filled in, the contents list and the headings of the page show the titles of the job, whatever
has been done to it and in which order; so the check fails exactly if the titles are not those of
the chapters. A run by the plan never ends in a broken page, and the page that it delivers passes
the check again. -/
theorem check_order (a : Assignment) (disk : Disk) :
    (∀ j, Begun a disk j →
      (∃ p, j.page = some p ∧ p.targets = j.titles.map (fun t => some ("#" ++ anchorName t)) ∧
        p.anchors = j.titles.map fun t => some (anchorName t)) ∧
      (check a).on j =
        (if j.titles = Chapter.titles then .ok ""
          else .error (breakFault a (.order Chapter.titles j.titles)), j) ∧
      ∀ dump, a.threads.dump = .ok dump →
        ((∃ problem, ((check a).on j).1 = .error (.brokenPage problem)) ↔
          j.titles ≠ Chapter.titles)) ∧
    (∀ problem, (run a (.new disk)).1 ≠ .error ⟨.brokenPage problem⟩) ∧
    ∀ r k, run a (.new disk) = (.ok r, k) → (check a).on k = (.ok "", k) := by
  refine ⟨fun j hbegun => ⟨?_, check_of_agrees a hbegun.agrees, ?_⟩, run_ne_brokenPage a disk, ?_⟩
  · obtain ⟨p, hp, hagrees⟩ := hbegun.agrees
    exact ⟨p, hp, hagrees.targets, hagrees.anchors⟩
  · intro dump hdump
    have hfault : breakFault a (.order Chapter.titles j.titles) =
        .brokenPage (.order Chapter.titles j.titles) := by
      unfold breakFault
      rw [hdump]
    rw [check_of_agrees a hbegun.agrees, hfault]
    by_cases htitles : j.titles = Chapter.titles
    · rw [if_pos htitles]
      simp [htitles]
    · rw [if_neg htitles]
      exact ⟨fun _ => htitles, fun _ => ⟨_, rfl⟩⟩
  · intro r k h
    obtain ⟨m, hm, -, w, -⟩ := delivered_work h
    have htitles : k.titles = Chapter.titles := congrArg Work.titles w
    have hagrees : k.Agrees := by
      refine ⟨m.filledPage a, congrArg Work.page w, ?_⟩
      rw [htitles]
      exact (page_agrees hm).fill_chapters _
    rw [check_of_agrees a hagrees, if_pos htitles]

end Job

end Pamphlet
