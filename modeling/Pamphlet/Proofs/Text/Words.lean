import Mathlib.Data.List.Chain
import Pamphlet.Proofs.Text.Trim

/-!
# Words and the spaces between them

Collapsing a text and trimming it give the same if, between its ends, every blank is one space
between two words (`trimChars_eq_collapseChars_iff`). Collapsing makes a text no longer, and loses
only blanks.
-/

namespace Pamphlet.Text

/-- The words in a row, one space between neighbours. -/
def joinWords (ws : List (List Char)) : List Char :=
  (ws.intersperse [' ']).flatten

theorem joinWords_singleton (w : List Char) : joinWords [w] = w :=
  List.append_nil w

theorem joinWords_cons (w : List Char) {ws : List (List Char)} (h : ws ≠ []) :
    joinWords (w :: ws) = w ++ ' ' :: joinWords ws := by
  obtain ⟨w', ws', rfl⟩ := List.exists_cons_of_ne_nil h
  rfl

theorem collapseChars_eq (cs : List Char) : collapseChars cs = joinWords (words cs) := rfl

/-! ## Trimmed texts -/

theorem getLast?_trimEnd (cs : List Char) : ∀ c ∈ (trimEnd cs).getLast?, isBlank c = false := by
  induction cs with
  | nil => exact fun c hc => nomatch hc
  | cons d ds ih =>
    by_cases hend : trimEnd ds = []
    · cases hd : isBlank d with
      | true =>
        rw [trimEnd_cons_of_blank hd hend]
        exact fun c hc => nomatch hc
      | false =>
        rw [trimEnd_cons_of_not_blank hd, hend]
        exact fun c hc => Option.some.inj hc ▸ hd
    · obtain ⟨e, es, he⟩ := List.exists_cons_of_ne_nil hend
      rw [trimEnd_cons_of_ne_nil d hend, he, List.getLast?_cons_cons, ← he]
      exact ih

/-- What has been trimmed has no blank at either end. -/
theorem trimmed_trimChars (cs : List Char) : Trimmed (trimChars cs) where
  front := by
    intro c hc
    have hhead : ∀ d ∈ (cs.dropWhile isBlank).head?, isBlank d = false := by
      intro d hd
      have hnot := List.head?_dropWhile_not isBlank cs
      rw [Option.mem_def.1 hd] at hnot
      simpa using hnot
    unfold trimChars at hc
    cases hkept : cs.dropWhile isBlank with
    | nil =>
      rw [hkept] at hc
      cases hc
    | cons d ds =>
      rw [hkept] at hc hhead
      have hd := hhead d rfl
      rw [trimEnd_cons_of_not_blank hd] at hc
      exact Option.some.inj hc ▸ hd
  back := getLast?_trimEnd _

/-! ## Reading words -/

section

variable {c : Char} {cs word : List Char}

theorem wordsFrom_of_not_blank (h : isBlank c = false) :
    wordsFrom word (c :: cs) = wordsFrom (c :: word) cs := by
  rw [wordsFrom, h, if_neg Bool.false_ne_true]

theorem wordsFrom_nil_of_blank (h : isBlank c = true) :
    wordsFrom [] (c :: cs) = wordsFrom [] cs := by
  rw [wordsFrom, if_pos h, List.isEmpty_nil, if_pos rfl]

theorem wordsFrom_of_blank (hword : word ≠ []) (h : isBlank c = true) :
    wordsFrom word (c :: cs) = word.reverse :: wordsFrom [] cs := by
  rw [wordsFrom, if_pos h, if_neg (fun he => hword (List.isEmpty_iff.1 he))]

theorem wordsFrom_end (hword : word ≠ []) : wordsFrom word [] = [word.reverse] := by
  rw [wordsFrom, if_neg (fun he => hword (List.isEmpty_iff.1 he))]

end

/-- A blank ends the word that has been begun. -/
theorem wordsFrom_blank {c : Char} (h : isBlank c = true) (word cs : List Char) :
    wordsFrom word (c :: cs) = wordsFrom word [] ++ words cs := by
  by_cases hword : word = []
  · subst hword
    exact wordsFrom_nil_of_blank h
  · rw [wordsFrom_of_blank hword h, wordsFrom_end hword]
    rfl

/-- A word that has been begun is in the list of words. -/
theorem wordsFrom_ne_nil {word : List Char} (hword : word ≠ []) (cs : List Char) :
    wordsFrom word cs ≠ [] := by
  induction cs generalizing word with
  | nil =>
    rw [wordsFrom_end hword]
    exact List.cons_ne_nil _ _
  | cons c cs ih =>
    cases hc : isBlank c with
    | true =>
      rw [wordsFrom_of_blank hword hc]
      exact List.cons_ne_nil _ _
    | false =>
      rw [wordsFrom_of_not_blank hc]
      exact ih (List.cons_ne_nil _ _)

theorem words_dropWhile (cs : List Char) : words (cs.dropWhile isBlank) = words cs := by
  induction cs with
  | nil => rfl
  | cons c cs ih =>
    rw [List.dropWhile_cons]
    split
    · rename_i hc
      rw [ih, words, words, wordsFrom_nil_of_blank hc]
    · rfl

/-- Blanks at the end hold no words. -/
theorem wordsFrom_trimEnd (word cs : List Char) :
    wordsFrom word (trimEnd cs) = wordsFrom word cs := by
  induction cs generalizing word with
  | nil => rfl
  | cons c cs ih =>
    by_cases hend : trimEnd cs = []
    · -- nothing but blanks comes after `c`
      rw [hend] at ih
      cases hc : isBlank c with
      | true =>
        rw [trimEnd_cons_of_blank hc hend, wordsFrom, wordsFrom, if_pos hc, ← ih []]
        rfl
      | false =>
        rw [trimEnd_cons_of_not_blank hc, hend, wordsFrom_of_not_blank hc,
          wordsFrom_of_not_blank hc, ih]
    · rw [trimEnd_cons_of_ne_nil c hend, wordsFrom, wordsFrom, ih, ih]

/-- Blanks at the ends do not matter. -/
theorem words_trimChars (cs : List Char) : words (trimChars cs) = words cs := by
  rw [trimChars, words, wordsFrom_trimEnd]
  exact words_dropWhile cs

/-! ## What collapsing keeps -/

theorem length_joinWords_le (word cs : List Char) :
    (joinWords (wordsFrom word cs)).length ≤ word.length + cs.length := by
  induction cs generalizing word with
  | nil =>
    by_cases hword : word = []
    · subst hword
      exact Nat.le_refl 0
    · rw [wordsFrom_end hword, joinWords_singleton, List.length_reverse]
      exact Nat.le_add_right _ _
  | cons c cs ih =>
    have hrest := ih []
    cases hc : isBlank c with
    | false =>
      rw [wordsFrom_of_not_blank hc]
      refine Nat.le_trans (ih _) ?_
      simp only [List.length_cons]
      omega
    | true =>
      by_cases hword : word = []
      · subst hword
        rw [wordsFrom_nil_of_blank hc, List.length_cons]
        omega
      · rw [wordsFrom_of_blank hword hc]
        by_cases hlast : wordsFrom [] cs = []
        · rw [hlast, joinWords_singleton, List.length_reverse]
          exact Nat.le_add_right _ _
        · rw [joinWords_cons _ hlast, List.length_append, List.length_cons, List.length_reverse,
            List.length_cons]
          simp only [List.length_nil] at hrest
          omega

theorem length_collapse_le (s : String) : (collapse s).length ≤ s.length := by
  rw [collapse, String.length_ofList, ← String.length_toList]
  exact Nat.le_trans (length_joinWords_le [] s.toList) (Nat.le_of_eq (Nat.zero_add _))

/-- Every character of the texts that are joined is there. -/
theorem mem_joinWords {ws : List (List Char)} {w : List Char} {c : Char} (hw : w ∈ ws)
    (hc : c ∈ w) : c ∈ joinWords ws := by
  induction ws with
  | nil => exact absurd hw List.not_mem_nil
  | cons w' ws ih =>
    by_cases hws : ws = []
    · subst hws
      rw [List.mem_singleton.1 hw] at hc
      rwa [joinWords_singleton]
    · rw [joinWords_cons w' hws]
      rcases List.mem_cons.1 hw with rfl | hw
      · exact List.mem_append_left _ hc
      · exact List.mem_append_right _ (List.mem_cons_of_mem _ (ih hw))

/-- Every character but the blanks is in some word. -/
theorem exists_word {c : Char} (word : List Char) {cs : List Char} (h : c ∈ word ∨ c ∈ cs)
    (hc : isBlank c = false) :
    ∃ w ∈ wordsFrom word cs, c ∈ w := by
  induction cs generalizing word with
  | nil =>
    have hmem : c ∈ word := h.resolve_right List.not_mem_nil
    rw [wordsFrom_end (List.ne_nil_of_mem hmem)]
    exact ⟨_, List.mem_singleton_self _, List.mem_reverse.2 hmem⟩
  | cons d ds ih =>
    cases hd : isBlank d with
    | false =>
      rw [wordsFrom_of_not_blank hd]
      refine ih (d :: word) ?_
      rcases h with h | h
      · exact .inl (List.mem_cons_of_mem d h)
      · rcases List.mem_cons.1 h with rfl | h
        · exact .inl List.mem_cons_self
        · exact .inr h
    | true =>
      have hne : c ≠ d := by
        rintro rfl
        rw [hd] at hc
        cases hc
      by_cases hword : word = []
      · subst hword
        rw [wordsFrom_nil_of_blank hd]
        exact ih [] (.inr (List.mem_of_ne_of_mem hne (h.resolve_left List.not_mem_nil)))
      · rw [wordsFrom_of_blank hword hd]
        rcases h with h | h
        · exact ⟨_, List.mem_cons_self, List.mem_reverse.2 h⟩
        · obtain ⟨w, hw, hcw⟩ := ih [] (.inr (List.mem_of_ne_of_mem hne h))
          exact ⟨w, List.mem_cons_of_mem _ hw, hcw⟩

/-- No character but a blank is lost. -/
theorem mem_collapse {s : String} {c : Char} (h : c ∈ s.toList) (hc : isBlank c = false) :
    c ∈ (collapse s).toList := by
  rw [collapse, String.toList_ofList, collapseChars_eq]
  obtain ⟨w, hw, hcw⟩ := exists_word [] (.inr h) hc
  exact mem_joinWords hw hcw

/-- What has nothing but blanks has nothing else when collapsed. -/
theorem isBlankText_collapse (s : String) : isBlankText (collapse s) = isBlankText s := by
  cases hs : isBlankText s with
  | true =>
    have hwords : words s.toList = [] := by
      rw [← words_trimChars, trimChars_eq_nil_iff.2 (List.all_eq_true.1 hs)]
      rfl
    rw [collapse, collapseChars_eq, hwords]
    rfl
  | false =>
    obtain ⟨c, hc, hblank⟩ := List.all_eq_false.1 hs
    refine List.all_eq_false.2 ⟨c, mem_collapse hc (Bool.eq_false_iff.2 hblank), hblank⟩

/-! ## Texts that collapsing leaves as they are -/

/-- Every blank is a space, and no two of them are neighbours. -/
structure SingleSpaced (cs : List Char) : Prop where
  space : ∀ c ∈ cs, isBlank c = true → c = ' '
  apart : cs.IsChain fun c d => isBlank c = false ∨ isBlank d = false

theorem SingleSpaced.tail {c : Char} {cs : List Char} (h : SingleSpaced (c :: cs)) :
    SingleSpaced cs :=
  ⟨fun d hd => h.space d (List.mem_cons_of_mem c hd), h.apart.tail⟩

theorem singleSpaced_of_not_blank {cs : List Char} (h : ∀ c ∈ cs, isBlank c = false) :
    SingleSpaced cs where
  space c hc hblank := by
    rw [h c hc] at hblank
    cases hblank
  apart := by
    induction cs with
    | nil => exact .nil
    | cons c cs ih =>
      have hcs := ih fun d hd => h d (List.mem_cons_of_mem c hd)
      cases cs with
      | nil => exact .singleton c
      | cons d ds => exact .cons_cons (.inl (h c List.mem_cons_self)) hcs

/-- A list of words: none is empty and none has a blank. -/
def AreWords (ws : List (List Char)) : Prop :=
  ∀ w ∈ ws, w ≠ [] ∧ ∀ c ∈ w, isBlank c = false

theorem areWords_wordsFrom {word : List Char} (hword : ∀ c ∈ word, isBlank c = false)
    (cs : List Char) : AreWords (wordsFrom word cs) := by
  have hreverse : ∀ {word : List Char}, (∀ c ∈ word, isBlank c = false) → word ≠ [] →
      word.reverse ≠ [] ∧ ∀ c ∈ word.reverse, isBlank c = false := fun h hne =>
    ⟨fun he => hne (List.reverse_eq_nil_iff.1 he), fun c hc => h c (List.mem_reverse.1 hc)⟩
  induction cs generalizing word with
  | nil =>
    by_cases hne : word = []
    · subst hne
      exact List.forall_mem_nil _
    · rw [wordsFrom_end hne]
      exact List.forall_mem_singleton.2 (hreverse hword hne)
  | cons c cs ih =>
    cases hc : isBlank c with
    | false =>
      rw [wordsFrom_of_not_blank hc]
      exact ih (List.forall_mem_cons.2 ⟨hc, hword⟩)
    | true =>
      have hrest := ih (List.forall_mem_nil fun c => isBlank c = false)
      by_cases hne : word = []
      · subst hne
        rwa [wordsFrom_nil_of_blank hc]
      · rw [wordsFrom_of_blank hne hc]
        exact List.forall_mem_cons.2 ⟨hreverse hword hne, hrest⟩

theorem AreWords.head_joinWords {ws : List (List Char)} (h : AreWords ws) :
    ∀ c ∈ (joinWords ws).head?, isBlank c = false := by
  intro c hc
  cases ws with
  | nil => cases hc
  | cons w ws =>
    obtain ⟨hne, hw⟩ := h w List.mem_cons_self
    obtain ⟨d, ds, rfl⟩ := List.exists_cons_of_ne_nil hne
    have hd : d = c := by
      by_cases hws : ws = []
      · subst hws
        exact Option.some.inj hc
      · rw [joinWords_cons _ hws] at hc
        exact Option.some.inj hc
    exact hw c (hd ▸ List.mem_cons_self)

theorem AreWords.getLast_joinWords {ws : List (List Char)} (h : AreWords ws) :
    ∀ c ∈ (joinWords ws).getLast?, isBlank c = false := by
  induction ws with
  | nil => exact fun c hc => nomatch hc
  | cons w ws ih =>
    obtain ⟨⟨-, hw⟩, hws⟩ := List.forall_mem_cons.1 h
    by_cases hne : ws = []
    · subst hne
      rw [joinWords_singleton]
      exact fun c hc => hw c (List.mem_of_mem_getLast? hc)
    · rw [joinWords_cons w hne]
      intro c hc
      -- the last character is that of the words after the first, as these are not empty
      obtain ⟨w', ws', rfl⟩ := List.exists_cons_of_ne_nil hne
      obtain ⟨d, hd⟩ := List.exists_mem_of_ne_nil w' (hws w' List.mem_cons_self).1
      have hlast : (joinWords (w' :: ws')).getLast?.isSome = true :=
        List.getLast?_isSome.2 (List.ne_nil_of_mem (mem_joinWords List.mem_cons_self hd))
      rw [List.getLast?_append, List.getLast?_cons, Option.some_or] at hc
      obtain ⟨e, he⟩ := Option.isSome_iff_exists.1 hlast
      rw [he, Option.getD_some] at hc
      exact ih hws c (he.trans hc)

theorem AreWords.singleSpaced {ws : List (List Char)} (h : AreWords ws) :
    SingleSpaced (joinWords ws) := by
  induction ws with
  | nil => exact singleSpaced_of_not_blank (List.forall_mem_nil _)
  | cons w ws ih =>
    obtain ⟨⟨-, hw⟩, hws⟩ := List.forall_mem_cons.1 h
    have hword := singleSpaced_of_not_blank hw
    by_cases hne : ws = []
    · subst hne
      rwa [joinWords_singleton]
    · have hrest := ih hws
      rw [joinWords_cons w hne]
      refine ⟨fun c hc hblank => ?_, ?_⟩
      · rcases List.mem_append.1 hc with hc | hc
        · exact hword.space c hc hblank
        · exact (List.mem_cons.1 hc).elim id fun hc => hrest.space c hc hblank
      · refine List.isChain_append.2 ⟨hword.apart, ?_, ?_⟩
        · exact List.isChain_cons.2 ⟨fun c hc => .inr (AreWords.head_joinWords hws c hc),
            hrest.apart⟩
        · exact fun c hc _ _ => .inl (hw c (List.mem_of_mem_getLast? hc))

/-- Reading words and joining them loses nothing if the blanks are single spaces between words. -/
theorem joinWords_wordsFrom {cs : List Char} (h : SingleSpaced cs)
    (hback : ∀ c ∈ cs.getLast?, isBlank c = false)
    {word : List Char} (hfront : word = [] → ∀ c ∈ cs.head?, isBlank c = false) :
    joinWords (wordsFrom word cs) = word.reverse ++ cs := by
  induction cs generalizing word with
  | nil =>
    by_cases hword : word = []
    · subst hword
      rfl
    · rw [wordsFrom_end hword, joinWords_singleton, List.append_nil]
  | cons c cs ih =>
    have hback' : ∀ d ∈ cs.getLast?, isBlank d = false := fun d hd => by
      refine hback d ?_
      rw [List.getLast?_cons, Option.mem_def.1 hd, Option.getD_some]
      rfl
    cases hc : isBlank c with
    | false =>
      rw [wordsFrom_of_not_blank hc, ih h.tail hback' fun he => absurd he (List.cons_ne_nil _ _),
        List.reverse_cons, List.append_assoc, List.singleton_append]
    | true =>
      -- the word before the space has been begun, and another one follows
      have hword : word ≠ [] := by
        intro hword
        rw [hfront hword c rfl] at hc
        cases hc
      obtain ⟨d, ds, rfl⟩ : ∃ d ds, cs = d :: ds := by
        refine List.exists_cons_of_ne_nil ?_
        rintro rfl
        rw [hback c rfl] at hc
        cases hc
      have hd : isBlank d = false := by
        refine ((List.isChain_cons_cons.1 h.apart).1).resolve_left ?_
        rw [hc]
        exact Bool.noConfusion
      have hnext : wordsFrom [] (d :: ds) ≠ [] := by
        rw [wordsFrom_of_not_blank hd]
        exact wordsFrom_ne_nil (List.cons_ne_nil _ _) ds
      rw [wordsFrom_of_blank hword hc, joinWords_cons _ hnext, h.space c List.mem_cons_self hc,
        ih h.tail hback' fun _ e he => Option.some.inj he ▸ hd]
      rfl

/-- Trimming and collapsing are the same for the texts that are single spaced between their ends. -/
theorem trimChars_eq_collapseChars_iff (cs : List Char) :
    trimChars cs = collapseChars cs ↔ SingleSpaced (trimChars cs) := by
  constructor
  · intro h
    rw [h, collapseChars_eq]
    exact (areWords_wordsFrom (List.forall_mem_nil _) cs).singleSpaced
  · intro h
    have ht := trimmed_trimChars cs
    rw [collapseChars_eq, ← words_trimChars, words, joinWords_wordsFrom h ht.back fun _ => ht.front]
    rfl

/-- No blank stands at the front or at the end, and every other one is a space between two words. -/
structure Tidy (s : String) : Prop where
  trimmed : Trimmed s.toList
  singleSpaced : SingleSpaced s.toList

theorem tidy_collapse (s : String) : Tidy (collapse s) := by
  have hwords : AreWords (words s.toList) := areWords_wordsFrom (List.forall_mem_nil _) s.toList
  have hchars : (collapse s).toList = joinWords (words s.toList) := by
    rw [collapse, String.toList_ofList, collapseChars_eq]
  refine ⟨?_, ?_⟩
  · rw [hchars]
    exact ⟨hwords.head_joinWords, hwords.getLast_joinWords⟩
  · rw [hchars]
    exact hwords.singleSpaced

/-- Trimming and collapsing agree exactly if the blanks inside are single spaces. -/
theorem trim_eq_collapse_iff (s : String) :
    trim s = collapse s ↔ SingleSpaced (trimChars s.toList) := by
  rw [← trimChars_eq_collapseChars_iff]
  exact ⟨fun h => String.ofList_injective h, congrArg String.ofList⟩

end Pamphlet.Text
