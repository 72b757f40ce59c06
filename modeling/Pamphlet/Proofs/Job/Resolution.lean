import Pamphlet.Proofs.Job.Accounts
import Pamphlet.Proofs.Page.Replacement

/-!
# What is left of variables on a delivered page

Values are put in once and not looked at, so a value that holds braces can leave a token of a
variable on a delivered page (`run_leaves_token`). Nothing else can: wherever such a token stands in
a text of the page, a value that was put in takes part in it (`run_resolves`).
-/

namespace Pamphlet.Job

open Pamphlet.Release Pamphlet.Page Substitution Pamphlet.Text
open Pamphlet.Markup hiding Token

/-- The names that have values on a page. -/
def variableNames : List String :=
  ["releaseID", "previousReleaseID", "branch", "productName"]

/-- The variables of a page are those that have a value, whatever the summary holds. -/
theorem value?_isSome_iff (s : Summary) (product : String) (t : Token) :
    (t.value? (s.values product)).isSome = true ↔ String.ofList t.name ∈ variableNames := by
  unfold Token.value? Summary.values variableNames
  rw [List.lookup_isSome_iff]
  simp

/-- A text with its variables filled in: tokens of variables that it holds are made of the
values. -/
structure Resolved (values : Values) (s s' : String) : Prop where
  filled : s' = Substitution.fill values s
  fromValues : ∀ (t : Token) (pre post : List Char), t.IsWritten →
    String.ofList t.name ∈ variableNames →
    s'.toList = pre ++ (t.written ++ post) → TakesPart values s.toList pre.length t.written.length

/-- Each text of a page is resolved when variables are filled in. -/
theorem resolved_fill (s : Summary) (product text : String) :
    Resolved (s.values product) text (Substitution.fill (s.values product) text) where
  filled := rfl
  fromValues := by
    intro t pre post ht hname htext
    rw [Substitution.fill, String.toList_ofList] at htext
    exact takesPart_of_stands ht ((value?_isSome_iff s product t).2 hname) htext

/-- **A delivered page has a token of a variable only where a value takes part in it.** Each text of
the page is a text of the page before with its variables filled in, and a token of a variable that
stands in it is, at least in part, made of a value. -/
theorem run_resolves {a : Assignment} {disk : Disk} {r : Result} {k : Job}
    (h : run a (.new disk) = (.ok r, k)) :
    ∃ m : Material, m.From a disk ∧ k.page = some (m.filledPage a) ∧
      List.Forall₂ (Resolved (m.summary.values a.settings.product)) (treeTexts (m.page a).root)
        (treeTexts (m.filledPage a).root) := by
  obtain ⟨m, hm, -, w, -⟩ := delivered_work h
  refine ⟨m, hm, congrArg Work.page w, ?_⟩
  unfold Material.filledPage
  rw [root_fill, treeTexts_fillTree, List.forall₂_map_right_iff, List.forall₂_same]
  exact fun s _ => resolved_fill m.summary a.settings.product s

/-- A page on which all variables are filled in. -/
theorem run_resolves_sample :
    ∃ r k, run sampleAssignment (.new sampleDisk) = (.ok r, k) ∧
      ∃ m : Material, m.From sampleAssignment sampleDisk ∧
        k.page = some (m.filledPage sampleAssignment) ∧
        List.Forall₂ (Resolved (m.summary.values sampleAssignment.settings.product))
          (treeTexts (m.page sampleAssignment).root)
          (treeTexts (m.filledPage sampleAssignment).root) := by
  have hok : (run sampleAssignment (.new sampleDisk)).1.isOk = true := by
    decide +kernel
  rcases hrun : run sampleAssignment (.new sampleDisk) with ⟨result, k⟩
  rw [hrun] at hok
  cases result with
  | error e => cases hok
  | ok r => exact ⟨r, k, rfl, run_resolves hrun⟩

/-- A product whose name is written like a variable. -/
def bracedAssignment : Assignment :=
  { sampleAssignment with
    settings := { Settings.standard with product := "\x7b\x7b branch \x7d\x7d" } }

/-- The name of the product is put in and is itself a token of a variable. -/
theorem run_leaves_token :
    ∃ r k p s, ∃ t : Token, run bracedAssignment (.new sampleDisk) = (.ok r, k) ∧ k.page = some p ∧
      s ∈ treeTexts p.root ∧ t.IsWritten ∧ String.ofList t.name ∈ variableNames ∧
      t.written <:+: s.toList := by
  have hall : ((run bracedAssignment (.new sampleDisk)).1.isOk &&
      (run bracedAssignment (.new sampleDisk)).2.page.any fun p =>
        (treeTexts p.root).contains "Release Notes for \x7b\x7b branch \x7d\x7d 2") = true := by
    decide +kernel
  rcases hrun : run bracedAssignment (.new sampleDisk) with ⟨result, k⟩
  rw [hrun] at hall
  cases result with
  | error e => cases hall
  | ok r =>
    obtain ⟨p, hp, hs⟩ := (Option.any_eq_true _ _).1 hall
    refine ⟨r, k, p, _, ⟨"branch".toList, "\x7b\x7b branch \x7d\x7d".toList⟩, rfl, hp,
      List.contains_iff_mem.1 hs,
        ⟨⟨'b', "ranch".toList, by decide, by decide, forall_of_all (by decide)⟩, ?_⟩,
      by decide, ?_⟩
    · exact ⟨[' '], [' '], forall_of_all (by decide), forall_of_all (by decide), by decide⟩
    · exact ⟨"Release Notes for ".toList, " 2".toList, by decide⟩

end Pamphlet.Job
