import Pamphlet.Proofs.Text.Words

/-!
# Texts of which parts are left out

Two texts that are put together have the words of the one and then those of the other
(`words_append`), unless they `Meet`: then the last word of the one goes on in the other, and there
is a word less. So a text of which some stretches are left out has the same words as before exactly
if these stretches are blank and the words around them stay apart (`words_kept_eq_iff`).
-/

namespace Pamphlet.Text

/-! ## Two texts -/

/-- A word goes on from the end of a text to the beginning of another one. -/
def Meet (cs ds : List Char) : Prop :=
  cs.getLast?.any (!isBlank ·) = true ∧ ds.head?.any (!isBlank ·) = true

instance (cs ds : List Char) : Decidable (Meet cs ds) :=
  inferInstanceAs (Decidable (_ ∧ _))

theorem Meet.of_suffix {cs ds : List Char} (h : Meet cs ds) (front : List Char) :
    Meet (front ++ cs) ds := by
  refine ⟨?_, h.2⟩
  have hlast := h.1
  rw [List.getLast?_append]
  cases hcs : cs.getLast? with
  | none =>
    rw [hcs] at hlast
    cases hlast
  | some c =>
    rw [hcs] at hlast
    exact hlast

/-! ## Reading on -/

/-- The word that is being read at the end of a text, its last character first. -/
def pending (word cs : List Char) : List Char :=
  cs.foldl (fun word c => if isBlank c then [] else c :: word) word

/-- The words that have been read at the end of a text. -/
def closed (word : List Char) : List Char → List (List Char)
  | [] => []
  | c :: cs => if isBlank c then wordsFrom word [] ++ closed [] cs else closed (c :: word) cs

theorem wordsFrom_append (word cs ds : List Char) :
    wordsFrom word (cs ++ ds) = closed word cs ++ wordsFrom (pending word cs) ds := by
  induction cs generalizing word with
  | nil => rfl
  | cons c cs ih =>
    rw [List.cons_append, closed, pending, List.foldl_cons]
    cases hc : isBlank c with
    | true =>
      rw [wordsFrom_blank hc, words, ih, if_pos rfl, if_pos rfl, List.append_assoc]
      rfl
    | false =>
      rw [wordsFrom_of_not_blank hc, ih, if_neg Bool.false_ne_true, if_neg Bool.false_ne_true]
      rfl

theorem pending_eq_nil_iff {cs : List Char} :
    pending [] cs = [] ↔ cs.getLast?.any (!isBlank ·) = false := by
  rcases List.eq_nil_or_concat cs with rfl | ⟨front, c, rfl⟩
  · exact iff_of_true rfl rfl
  · rw [List.concat_eq_append, pending, List.foldl_append, List.getLast?_concat]
    cases hc : isBlank c <;> simp [hc]

/-- A word that has been begun does not go on where nothing or a blank follows. -/
theorem wordsFrom_of_apart {word ds : List Char}
    (h : word = [] ∨ ds.head?.any (!isBlank ·) = false) :
    wordsFrom word ds = wordsFrom word [] ++ words ds := by
  rcases h with rfl | h
  · rfl
  · cases ds with
    | nil => exact (List.append_nil _).symm
    | cons d ds =>
      have hd : isBlank d = true := by simpa using h
      have hwords : words (d :: ds) = words ds := wordsFrom_nil_of_blank hd
      rw [wordsFrom_blank hd, hwords]

/-- How a word that has been begun begins does not change the number of words. -/
theorem length_wordsFrom {word word' : List Char} (h : word ≠ []) (h' : word' ≠ [])
    (cs : List Char) : (wordsFrom word cs).length = (wordsFrom word' cs).length := by
  induction cs generalizing word word' with
  | nil => rw [wordsFrom_end h, wordsFrom_end h', List.length_singleton, List.length_singleton]
  | cons c cs ih =>
    cases hc : isBlank c with
    | false =>
      rw [wordsFrom_of_not_blank hc, wordsFrom_of_not_blank hc]
      exact ih (List.cons_ne_nil _ _) (List.cons_ne_nil _ _)
    | true =>
      rw [wordsFrom_of_blank h hc, wordsFrom_of_blank h' hc, List.length_cons, List.length_cons]

/-! ## One text after another -/

theorem words_eq_closed (cs : List Char) :
    words cs = closed [] cs ++ wordsFrom (pending [] cs) [] := by
  have hnone := wordsFrom_append [] cs []
  rwa [List.append_nil] at hnone

/-- Where no word goes on, the words of two texts are those of the one and then those of the
other. -/
theorem words_append {cs ds : List Char} (h : ¬Meet cs ds) :
    words (cs ++ ds) = words cs ++ words ds := by
  have hapart : pending [] cs = [] ∨ ds.head?.any (!isBlank ·) = false := by
    rw [pending_eq_nil_iff, ← Bool.not_eq_true, ← Bool.not_eq_true]
    exact not_and_or.1 h
  rw [words, wordsFrom_append, wordsFrom_of_apart hapart, words_eq_closed cs, List.append_assoc]

/-- Where two texts meet there is a word less. -/
theorem length_words_append_of_meet {cs ds : List Char} (h : Meet cs ds) :
    (words (cs ++ ds)).length + 1 = (words cs).length + (words ds).length := by
  obtain ⟨hlast, hhead⟩ := h
  have hpending : pending [] cs ≠ [] := by
    intro hnil
    rw [pending_eq_nil_iff.1 hnil] at hlast
    cases hlast
  have hsame : (wordsFrom (pending [] cs) ds).length = (words ds).length := by
    cases ds with
    | nil => cases hhead
    | cons d ds =>
      have hd : isBlank d = false := by simpa using hhead
      rw [words, wordsFrom_of_not_blank hd, wordsFrom_of_not_blank hd]
      exact length_wordsFrom (List.cons_ne_nil _ _) (List.cons_ne_nil _ _) ds
  rw [words, wordsFrom_append, words_eq_closed cs, List.length_append, List.length_append, hsame,
    wordsFrom_end hpending, List.length_singleton]
  omega

/-- Two texts that are joined have no more words than they have apart. -/
theorem length_words_append_le (cs ds : List Char) :
    (words (cs ++ ds)).length ≤ (words cs).length + (words ds).length := by
  by_cases h : Meet cs ds
  · have hlength := length_words_append_of_meet h
    omega
  · rw [words_append h, List.length_append]

/-! ## Blanks and words -/

theorem flatten_wordsFrom_nil (word : List Char) : (wordsFrom word []).flatten = word.reverse := by
  cases word with
  | nil => rfl
  | cons c cs => exact List.append_nil _

theorem flatten_wordsFrom (word cs : List Char) :
    (wordsFrom word cs).flatten = word.reverse ++ cs.filter (!isBlank ·) := by
  induction cs generalizing word with
  | nil => rw [flatten_wordsFrom_nil, List.filter_nil, List.append_nil]
  | cons c cs ih =>
    cases hc : isBlank c with
    | false =>
      rw [wordsFrom_of_not_blank hc, ih]
      simp [hc]
    | true =>
      rw [wordsFrom_blank hc, List.flatten_append, flatten_wordsFrom_nil, words, ih]
      simp [hc]

/-- The words of a text hold all its characters but the blanks. -/
theorem flatten_words (cs : List Char) : (words cs).flatten = cs.filter (!isBlank ·) :=
  flatten_wordsFrom [] cs

theorem words_of_blank {cs : List Char} (h : ∀ c ∈ cs, isBlank c = true) : words cs = [] := by
  induction cs with
  | nil => rfl
  | cons c cs ih =>
    rw [List.forall_mem_cons] at h
    rw [words, wordsFrom_nil_of_blank h.1]
    exact ih h.2

/-- Blanks between two texts keep their words apart. -/
theorem words_append_blank {blanks : List Char} (hblanks : ∀ c ∈ blanks, isBlank c = true)
    (hne : blanks ≠ [])
    (cs ds : List Char) : words (cs ++ (blanks ++ ds)) = words cs ++ words ds := by
  obtain ⟨b, bs, rfl⟩ := List.exists_cons_of_ne_nil hne
  have hb : isBlank b = true := hblanks b List.mem_cons_self
  have hfront : ¬Meet cs (b :: bs ++ ds) := by
    rintro ⟨-, hhead⟩
    simp [hb] at hhead
  have hback : ¬Meet (b :: bs) ds := by
    rintro ⟨hlast, -⟩
    cases hend : (b :: bs).getLast? with
    | none => simp at hend
    | some c =>
      rw [hend] at hlast
      have hc : isBlank c = true := hblanks c (List.mem_of_getLast? hend)
      simp [hc] at hlast
  rw [words_append hfront, words_append hback, words_of_blank hblanks, List.nil_append]

/-- A word that has been begun goes on while there is no blank. -/
theorem wordsFrom_of_forall {word cs : List Char} (hword : word ≠ [])
    (h : ∀ c ∈ cs, isBlank c = false) : wordsFrom word cs = [word.reverse ++ cs] := by
  induction cs generalizing word with
  | nil => rw [wordsFrom_end hword, List.append_nil]
  | cons c cs ih =>
    rw [List.forall_mem_cons] at h
    rw [wordsFrom_of_not_blank h.1, ih (List.cons_ne_nil _ _) h.2, List.reverse_cons,
      List.append_assoc, List.singleton_append]

/-- A text that is made of words has these words. -/
theorem words_joinWords {ws : List (List Char)} (h : AreWords ws) : words (joinWords ws) = ws := by
  induction ws with
  | nil => rfl
  | cons w ws ih =>
    obtain ⟨⟨hne, hw⟩, hws⟩ := List.forall_mem_cons.1 h
    have hword : words w = [w] := by
      obtain ⟨c, cs, rfl⟩ := List.exists_cons_of_ne_nil hne
      rw [List.forall_mem_cons] at hw
      rw [words, wordsFrom_of_not_blank hw.1, wordsFrom_of_forall (List.cons_ne_nil _ _) hw.2]
      rfl
    by_cases hlast : ws = []
    · subst hlast
      rw [joinWords_singleton, hword]
    · have hspace : ∀ c ∈ [' '], isBlank c = true := List.forall_mem_singleton.2 rfl
      rw [joinWords_cons w hlast]
      have hjoined := words_append_blank hspace (List.cons_ne_nil _ _) w (joinWords ws)
      rw [hword, ih hws] at hjoined
      exact hjoined

theorem collapse_eq_iff {s t : String} :
    collapse s = collapse t ↔ words s.toList = words t.toList := by
  have hwords : ∀ cs, AreWords (words cs) := areWords_wordsFrom (List.forall_mem_nil _)
  constructor
  · intro h
    have hchars : joinWords (words s.toList) = joinWords (words t.toList) :=
      String.ofList_injective h
    rw [← words_joinWords (hwords s.toList), hchars, words_joinWords (hwords t.toList)]
  · intro h
    rw [collapse, collapse, collapseChars_eq, collapseChars_eq, h]

/-! ## Leaving out -/

/-- A part of a text, which is kept or left out. -/
structure Stretch where
  chars : List Char
  kept : Bool

def wholeText (ss : List Stretch) : List Char :=
  ss.flatMap (·.chars)

def keptText (ss : List Stretch) : List Char :=
  (ss.filter (·.kept)).flatMap (·.chars)

/-- What is left out of a text, after some of it has been kept, is blank and keeps no two words
apart. -/
def SparesWords (before : List Char) : List Stretch → Prop
  | [] => True
  | s :: rest =>
    if s.kept then SparesWords (before ++ s.chars) rest
    else (s.chars = [] ∨ (∀ c ∈ s.chars, isBlank c = true) ∧ ¬Meet before (keptText rest)) ∧
        SparesWords before rest

instance SparesWords.decidable (before : List Char) :
    (ss : List Stretch) → Decidable (SparesWords before ss)
  | [] => inferInstanceAs (Decidable True)
  | s :: rest =>
    have := SparesWords.decidable (before ++ s.chars) rest
    have := SparesWords.decidable before rest
    have : Decidable (∀ c ∈ s.chars, isBlank c = true) := List.decidableBAll _ _
    inferInstanceAs (Decidable (if s.kept then _ else _))

section

variable {before : List Char} {s : Stretch} {rest : List Stretch}

theorem keptText_of_kept (h : s.kept = true) : keptText (s :: rest) = s.chars ++ keptText rest := by
  simp [keptText, h]

theorem keptText_of_not_kept (h : s.kept = false) : keptText (s :: rest) = keptText rest := by
  simp [keptText, h]

theorem wholeText_cons : wholeText (s :: rest) = s.chars ++ wholeText rest := rfl

theorem wholeText_append (ss ts : List Stretch) :
    wholeText (ss ++ ts) = wholeText ss ++ wholeText ts :=
  List.flatMap_append

theorem keptText_append (ss ts : List Stretch) :
    keptText (ss ++ ts) = keptText ss ++ keptText ts := by
  rw [keptText, List.filter_append, List.flatMap_append, keptText, keptText]

theorem sparesWords_of_kept (h : s.kept = true) :
    SparesWords before (s :: rest) ↔ SparesWords (before ++ s.chars) rest := by
  rw [SparesWords, if_pos h]

theorem sparesWords_of_not_kept (h : s.kept = false) :
    SparesWords before (s :: rest) ↔
      (s.chars = [] ∨ (∀ c ∈ s.chars, isBlank c = true) ∧ ¬Meet before (keptText rest)) ∧
        SparesWords before rest := by
  rw [SparesWords, if_neg (by rw [h]; exact Bool.false_ne_true)]

end

/-- All that is left out is blank. -/
def LeavesOutBlanks (ss : List Stretch) : Prop :=
  ∀ s ∈ ss, s.kept = false → ∀ c ∈ s.chars, isBlank c = true

theorem SparesWords.suffix {front before : List Char} {ss : List Stretch}
    (h : SparesWords (front ++ before) ss) : SparesWords before ss := by
  induction ss generalizing before with
  | nil => trivial
  | cons s rest ih =>
    cases hs : s.kept with
    | true =>
      rw [sparesWords_of_kept hs] at h ⊢
      rw [List.append_assoc] at h
      exact ih h
    | false =>
      rw [sparesWords_of_not_kept hs] at h ⊢
      refine ⟨h.1.imp_right fun hblank => ⟨hblank.1, fun hmeet => ?_⟩, ih h.2⟩
      exact hblank.2 (hmeet.of_suffix front)

/-- Leaving out blanks makes no new words. -/
theorem length_words_kept_le {ss : List Stretch} (h : LeavesOutBlanks ss) (before : List Char) :
    (words (before ++ keptText ss)).length ≤ (words (before ++ wholeText ss)).length := by
  induction ss generalizing before with
  | nil => exact Nat.le_refl _
  | cons s rest ih =>
    obtain ⟨hs, hrest⟩ := List.forall_mem_cons.1 h
    rw [wholeText_cons]
    cases hkept : s.kept with
    | true =>
      rw [keptText_of_kept hkept, ← List.append_assoc, ← List.append_assoc]
      exact ih hrest _
    | false =>
      rw [keptText_of_not_kept hkept]
      by_cases hempty : s.chars = []
      · rw [hempty]
        exact ih hrest before
      · rw [words_append_blank (hs hkept) hempty, List.length_append]
        have hle := length_words_append_le before (keptText rest)
        have hkeep := ih hrest []
        rw [List.nil_append, List.nil_append] at hkeep
        omega

/-- Leaving out blanks at which no words meet changes no words. -/
theorem words_whole_of_spares {ss : List Stretch} {before : List Char} (h : SparesWords before ss) :
    words (before ++ wholeText ss) = words (before ++ keptText ss) := by
  induction ss generalizing before with
  | nil => rfl
  | cons s rest ih =>
    rw [wholeText_cons]
    cases hkept : s.kept with
    | true =>
      rw [sparesWords_of_kept hkept] at h
      rw [keptText_of_kept hkept, ← List.append_assoc, ← List.append_assoc]
      exact ih h
    | false =>
      rw [sparesWords_of_not_kept hkept] at h
      rw [keptText_of_not_kept hkept]
      obtain ⟨hempty | ⟨hblank, hmeet⟩, hrest⟩ := h
      · rw [hempty]
        exact ih hrest
      · by_cases hempty : s.chars = []
        · rw [hempty]
          exact ih hrest
        · have hwords : words (wholeText rest) = words (keptText rest) := by
            have hnone : SparesWords (before ++ []) rest := by rwa [List.append_nil]
            exact ih hnone.suffix
          rw [words_append_blank hblank hempty, words_append hmeet, hwords]

/-- If what is left out is blank and no word gets lost, the words stay apart. -/
theorem spares_of_words_eq {ss : List Stretch} (hblank : LeavesOutBlanks ss) {before : List Char}
    (h : words (before ++ keptText ss) = words (before ++ wholeText ss)) :
    SparesWords before ss := by
  induction ss generalizing before with
  | nil => trivial
  | cons s rest ih =>
    obtain ⟨hs, hrest⟩ := List.forall_mem_cons.1 hblank
    rw [wholeText_cons] at h
    cases hkept : s.kept with
    | true =>
      rw [keptText_of_kept hkept, ← List.append_assoc, ← List.append_assoc] at h
      rw [sparesWords_of_kept hkept]
      exact ih hrest h
    | false =>
      rw [keptText_of_not_kept hkept] at h
      rw [sparesWords_of_not_kept hkept]
      by_cases hempty : s.chars = []
      · rw [hempty] at h
        exact ⟨.inl hempty, ih hrest h⟩
      · rw [words_append_blank (hs hkept) hempty] at h
        -- were the words around the blanks to run together, there would be a word less
        have hmore := length_words_kept_le hrest []
        rw [List.nil_append, List.nil_append] at hmore
        have hlength := congrArg List.length h
        rw [List.length_append] at hlength
        have hmeet : ¬Meet before (keptText rest) := by
          intro hmeet
          have hless := length_words_append_of_meet hmeet
          omega
        refine ⟨.inr ⟨hs hkept, hmeet⟩, ih hrest ?_⟩
        rw [h]
        have hmeet' : ¬Meet before (wholeText rest) := by
          intro hmeet'
          have hless := length_words_append_of_meet hmeet'
          have hall := length_words_kept_le hrest before
          omega
        rw [words_append hmeet']

theorem keptText_sublist (ss : List Stretch) : (keptText ss).Sublist (wholeText ss) := by
  induction ss with
  | nil => exact .slnil
  | cons s rest ih =>
    rw [wholeText_cons]
    cases hkept : s.kept with
    | true =>
      rw [keptText_of_kept hkept]
      exact ih.append_left _
    | false =>
      rw [keptText_of_not_kept hkept]
      exact ih.trans (List.sublist_append_right _ _)

/-- Only blanks are left out if as many other characters are kept as there are. -/
theorem leavesOutBlanks_of_countP {ss : List Stretch}
    (h : (wholeText ss).countP (!isBlank ·) ≤ (keptText ss).countP (!isBlank ·)) :
    LeavesOutBlanks ss := by
  induction ss with
  | nil => exact List.forall_mem_nil _
  | cons s rest ih =>
    rw [wholeText_cons, List.countP_append] at h
    cases hkept : s.kept with
    | true =>
      rw [keptText_of_kept hkept, List.countP_append] at h
      refine List.forall_mem_cons.2 ⟨fun hnot => ?_, ih (Nat.le_of_add_le_add_left h)⟩
      rw [hkept] at hnot
      cases hnot
    | false =>
      rw [keptText_of_not_kept hkept] at h
      have hrest := (keptText_sublist rest).countP_le (p := (!isBlank ·))
      have hnone : s.chars.countP (!isBlank ·) = 0 := by omega
      refine List.forall_mem_cons.2 ⟨fun _ c hc => ?_, ih (by omega)⟩
      simpa using List.countP_eq_zero.1 hnone c hc

/-- **Leaving out stretches keeps the words** exactly if these are blank and the words around them
stay apart. -/
theorem words_kept_eq_iff (ss : List Stretch) : words (keptText ss) = words (wholeText ss) ↔
    SparesWords [] ss := by
  constructor
  · intro h
    refine spares_of_words_eq (leavesOutBlanks_of_countP ?_) h
    have hchars := congrArg List.flatten h
    rw [flatten_words, flatten_words] at hchars
    rw [List.countP_eq_length_filter, List.countP_eq_length_filter, hchars]
  · exact fun h => (words_whole_of_spares h).symm

end Pamphlet.Text
