import Pamphlet.Proofs.Disk.Place

/-!
# Writing replaces one file, or leaves a scratch file at most

`Disk.write` makes folders, writes a scratch file and renames it. The scratch file has a name longer
than every name on the disk, so it is a new file, and removing it after a problem gives back the
list of files as it was. The main statements are

* `write_ok`: a write that goes well gives the target all its bytes and leaves every other file as
  it was;
* `write_error`: a write that ends in a problem leaves the list of files as it was, unless the disk
  does not let the scratch file be removed. Then this one file stays, with a part of the bytes
  (`Leftover`).

Folders that a failed write has made stay on every disk.
-/

namespace Pamphlet.Disk

/-! ## Scratch files -/

theorem le_foldl_max (places : List Place) (n : Nat) :
    n ≤ places.foldl (fun n place => max n (place.getLast?.getD "").length) n ∧
      ∀ place ∈ places, (place.getLast?.getD "").length ≤
        places.foldl (fun n place => max n (place.getLast?.getD "").length) n := by
  induction places generalizing n with
  | nil => simp
  | cons first rest ih =>
    obtain ⟨hn, hrest⟩ := ih (max n (first.getLast?.getD "").length)
    rw [List.foldl_cons]
    refine ⟨by omega, ?_⟩
    intro place hplace
    rcases List.mem_cons.1 hplace with rfl | hplace
    · omega
    · exact hrest place hplace

/-- No file has a longer last name than the longest one. -/
theorem length_le_longestName {d : Disk} {f : Place × List UInt8} (h : f ∈ d.files) :
    (f.1.getLast?.getD "").length ≤ d.longestName := by
  unfold longestName
  apply (le_foldl_max _ 0).2
  rw [List.mem_append]
  exact .inl (List.mem_map_of_mem h)

/-- The name of a scratch file is longer than all names on the disk. -/
theorem longestName_lt_scratchName (d : Disk) (name : String) :
    d.longestName < (d.scratchName name).length := by
  unfold scratchName
  simp only [String.length_append, String.length_ofList, List.length_replicate]
  have hdot : ".".length = 1 := by decide
  omega

theorem scratchName_ne_up (d : Disk) (name : String) : d.scratchName name ≠ ".." := by
  intro h
  have hlength := congrArg String.length h
  unfold scratchName at hlength
  simp only [String.length_append] at hlength
  have hdot : ".".length = 1 := by decide
  have htmp : ".tmp".length = 4 := by decide
  have hup : "..".length = 2 := by decide
  omega

/-- A scratch file is a new file. -/
theorem file?_scratch {d : Disk} {above : Path} {name : String} {place : Place}
    (h : d.locate (above.child (d.scratchName name)) = .ok place) : d.file? place = none := by
  obtain ⟨folder, -, rfl⟩ := walk_append (scratchName_ne_up d name) (locate_eq_ok_iff.1 h).2
  rw [file?_eq_none_iff]
  intro f hf he
  have hshort := length_le_longestName hf
  have hlong := longestName_lt_scratchName d name
  rw [he] at hshort
  simp only [List.getLast?_append, List.getLast?_singleton, Option.some_or,
    Option.getD_some] at hshort
  omega

/-- The scratch file is made beside the target, and it is a new file. -/
theorem makeScratch_ok {d e : Disk} {p scratch : Path} {place : Place}
    (h : d.makeScratch p = (.ok (scratch, place), e)) :
    ∃ m, m.files = d.files ∧ Grown d m p.parent ∧ scratch.parent = p.parent ∧
      m.locate scratch = .ok place ∧ m.file? place = none ∧ e = m.putFile place [] := by
  have hgrown := makeFolders_grown d p.parent
  unfold makeScratch at h
  split at h
  · cases h
  · rename_i u m hmade
    rw [hmade] at hgrown
    simp only at h
    split at h
    · cases h
    · rename_i there hlocate
      split at h
      · cases h
      · cases h
        exact ⟨m, hgrown.1, hgrown.2, Path.parent_child .., hlocate, file?_scratch hlocate, rfl⟩

/-- Where no scratch file can be made, nothing but folders has been. -/
theorem makeScratch_error {d e : Disk} {p : Path} {problem : FileProblem}
    (h : d.makeScratch p = (.error problem, e)) : e.files = d.files ∧ Grown d e p.parent := by
  have hgrown := makeFolders_grown d p.parent
  unfold makeScratch at h
  split at h
  · rename_i problem' m hmade
    rw [hmade] at hgrown
    cases h
    exact hgrown
  · rename_i u m hmade
    rw [hmade] at hgrown
    simp only at h
    split at h
    · cases h
      exact hgrown
    · split at h
      · cases h
        exact hgrown
      · cases h

/-! ## Writing -/

/-- What has another name is gone from where it was and is there whole under the new name. -/
theorem rename_eq {d e : Disk} {p target : Path} (h : d.rename p target = .ok e) :
    ∃ place onto bytes, d.locate p = .ok place ∧ d.locate target = .ok onto ∧
      d.file? place = some bytes ∧ e = (d.eraseFile place).putFile onto bytes := by
  unfold rename at h
  split at h
  · cases h
  · split at h
    · cases h
    · cases h
    · rename_i place onto hplace honto
      split at h
      · cases h
      · split at h
        · cases h
        · rename_i bytes hbytes
          split at h
          · cases h
          · exact ⟨place, onto, bytes, hplace, honto, hbytes, (Except.ok.inj h).symm⟩

/-- A target that is replaced has the bytes, and the file that they were first written to is
gone. -/
theorem replace_ok {d e : Disk} {p target : Path} {place : Place} {bytes : List UInt8} {u : Unit}
    (hp : d.locate p = .ok place) (h : d.replace p place target bytes = (.ok u, e)) :
    ∃ onto, d.locate target = .ok onto ∧ e = (d.eraseFile place).putFile onto bytes := by
  unfold replace fill at h
  split at h
  · cases h
  · rename_i u' filled hfill
    split at hfill
    · cases hfill
    · cases hfill
      split at h
      · cases h
      · rename_i renamed hrenamed
        cases h
        have hfilled : (d.putFile place bytes).locate p = .ok place :=
          locate_mono (putFile_home ..).symm (by rw [putFile_folders]; exact fun _ => id) hp
        obtain ⟨there, onto, bytes', hthere, honto, hbytes, rfl⟩ := rename_eq hrenamed
        obtain rfl : place = there := Except.ok.inj (hfilled.symm.trans hthere)
        rw [file?_putFile, if_pos rfl] at hbytes
        cases hbytes
        rw [eraseFile_putFile]
        exact ⟨onto,
          locate_mono (putFile_home ..) (by rw [putFile_folders]; exact fun _ => id) honto, rfl⟩

/-- What is left of a target that could not be replaced is a part of the bytes where they were first
written to. -/
theorem replace_error {d e : Disk} {p target : Path} {place : Place} {bytes : List UInt8}
    {problem : FileProblem} (h : d.replace p place target bytes = (.error problem, e)) :
    ∃ part, part <+: bytes ∧ e = d.putFile place part := by
  unfold replace fill at h
  split at h
  · rename_i problem' filled hfill
    split at hfill
    · cases hfill
      cases h
      exact ⟨_, List.take_prefix _ _, rfl⟩
    · cases hfill
  · rename_i u filled hfill
    split at hfill
    · cases hfill
    · cases hfill
      split at h
      · cases h
        exact ⟨bytes, List.prefix_refl _, rfl⟩
      · cases h

/-- Whatever becomes of a target, the disk refuses what it has refused before. -/
theorem replace_refuses (d : Disk) (p : Path) (place : Place) (target : Path)
    (bytes : List UInt8) : (d.replace p place target bytes).2.refuses = d.refuses := by
  unfold replace fill
  cases d.permit (.fillFile place) with
  | error trouble => exact putFile_refuses ..
  | ok u =>
    simp only
    cases hrename : (d.putFile place bytes).rename p target with
    | error problem => exact putFile_refuses ..
    | ok e =>
      obtain ⟨there, onto, bytes', -, -, -, rfl⟩ := rename_eq hrename
      exact (putFile_refuses ..).trans (putFile_refuses ..)

/-- What there is when a target could not be replaced and nothing has been cleared away: the files
of before, and a new file beside the target with a part of the bytes. -/
structure Unreplaced (d : Disk) (p : Path) (bytes : List UInt8) (scratch : Path) (place : Place)
    (e : Disk) : Prop where
  grown : Grown d e p.parent
  beside : scratch.parent = p.parent
  located : e.locate scratch = .ok place
  new : d.file? place = none
  files : ∃ part, part <+: bytes ∧ e.files = d.files ++ [(place, part)]

/-- The scratch file is there with its part, whatever becomes of it later. -/
theorem unreplaced_of_error {d made e : Disk} {p scratch : Path} {place : Place}
    {bytes : List UInt8} {problem : FileProblem}
    (hmade : d.makeScratch p = (.ok (scratch, place), made))
    (h : made.replace scratch place p bytes = (.error problem, e)) :
    d.Unreplaced p bytes scratch place e := by
  obtain ⟨m, hfiles, hgrown, hbeside, hlocate, hnew, rfl⟩ := makeScratch_ok hmade
  obtain ⟨part, hpart, rfl⟩ := replace_error h
  exact
    { grown := hgrown.of_folders (by simp) (by simp) (by simp) (by simp)
      beside := hbeside
      located := locate_mono (by simp) (by simp) hlocate
      new := by rw [← hnew, file?, file?, hfiles]
      files := ⟨part, hpart, by rw [putFile_putFile_of_absent hnew, hfiles]⟩ }

/-- Without the scratch file the files are those of before. -/
theorem Unreplaced.files_eraseFile {d e : Disk} {p scratch : Path} {place : Place} {bytes : List UInt8}
    (h : d.Unreplaced p bytes scratch place e) : (e.eraseFile place).files = d.files := by
  obtain ⟨part, -, hfiles⟩ := h.files
  have hothers : d.files.filter (fun f => f.1 ≠ place) = d.files :=
    congrArg Disk.files (eraseFile_eq_self h.new)
  unfold Disk.eraseFile
  rw [hfiles, List.filter_append, hothers]
  simp

/-- A file is taken away, or the disk refuses it; it is no problem if the disk says that there is no
such file. -/
theorem remove_cases (d : Disk) (p : Path) (place : Place) :
    (d.refuses (.removeFile place) = none ∧ d.remove p place = (.ok (), d.eraseFile place)) ∨
    ∃ refusal, d.refuses (.removeFile place) = some refusal ∧
      d.remove p place =
        (if refusal.1 = .missing then .ok () else .error ⟨refusal, p, none⟩, d) := by
  unfold remove permit
  cases hrefuses : d.refuses (.removeFile place) with
  | none => exact .inl ⟨rfl, rfl⟩
  | some refusal => exact .inr ⟨refusal, rfl, rfl⟩

/-- A scratch file for the path can be made, but the disk does not let it be removed. -/
def KeepsScratch (d : Disk) (p : Path) : Prop :=
  ∃ scratch place e, d.makeScratch p = (.ok (scratch, place), e) ∧
    d.refuses (.removeFile place) ≠ none

/-- Once a scratch file is made, the disk keeps it if it refuses to remove that file. -/
theorem keepsScratch_iff {d e : Disk} {p scratch : Path} {place : Place}
    (h : d.makeScratch p = (.ok (scratch, place), e)) :
    d.KeepsScratch p ↔ d.refuses (.removeFile place) ≠ none := by
  refine ⟨?_, fun hrefuses => ⟨scratch, place, e, h, hrefuses⟩⟩
  rintro ⟨scratch', place', e', hmade, hrefuses⟩
  rw [h] at hmade
  cases hmade
  exact hrefuses

/-- A disk that can make no scratch file keeps none. -/
theorem not_keepsScratch_of_error {d e : Disk} {p : Path} {problem : FileProblem}
    (h : d.makeScratch p = (.error problem, e)) : ¬d.KeepsScratch p := by
  rintro ⟨scratch, place, m, hmade, -⟩
  rw [h] at hmade
  cases hmade

/-- A disk that lets all files be removed keeps none. -/
theorem not_keepsScratch {d : Disk} (h : ∀ place, d.refuses (.removeFile place) = none)
    (p : Path) : ¬d.KeepsScratch p := by
  rintro ⟨scratch, place, e, -, hrefuses⟩
  exact hrefuses (h place)

/-- What a write leaves of a disk that has failed: folders, and a scratch file if the disk keeps
it. -/
structure Leftover (d : Disk) (p : Path) (bytes : List UInt8) (problem : FileProblem)
    (e : Disk) : Prop where
  grown : Grown d e p.parent
  /-- The files are those of before, under their places and with their bytes, an older file at the
  target included, and there is no other. -/
  files : ¬d.KeepsScratch p → e.files = d.files
  /-- One new file beside the target has a part of the bytes. It is the trouble with removing it
  that is told, unless the disk says that there is no such file. -/
  scratch : d.KeepsScratch p → ∃ path place part refusal, path.parent = p.parent ∧
    e.locate path = .ok place ∧ d.file? place = none ∧ part <+: bytes ∧
    e.files = d.files ++ [(place, part)] ∧ d.refuses (.removeFile place) = some refusal ∧
    (refusal.1 ≠ .missing → problem = ⟨refusal, path, none⟩)

/-- The files are as before exactly if the disk does not keep the scratch file. -/
theorem Leftover.files_eq_iff {d e : Disk} {p : Path} {bytes : List UInt8} {problem : FileProblem}
    (h : d.Leftover p bytes problem e) : e.files = d.files ↔ ¬d.KeepsScratch p := by
  refine ⟨fun hfiles hkeeps => ?_, h.files⟩
  obtain ⟨path, place, part, refusal, -, -, -, -, hleft, -⟩ := h.scratch hkeeps
  rw [hfiles] at hleft
  have hlength := congrArg List.length hleft
  simp at hlength

/-- **A failed write changes no file**, unless the disk keeps the scratch file. -/
theorem write_error {d e : Disk} {p : Path} {bytes : List UInt8} {problem : FileProblem}
    (h : d.write p bytes = (.error problem, e)) : d.Leftover p bytes problem e := by
  unfold write at h
  split at h
  · rename_i problem' made hmade
    cases h
    obtain ⟨hfiles, hgrown⟩ := makeScratch_error hmade
    exact ⟨hgrown, fun _ => hfiles, fun hkeeps => absurd hkeeps (not_keepsScratch_of_error hmade)⟩
  · rename_i scratch place made hmade
    have hkeeps := keepsScratch_iff hmade
    split at h
    · cases h
    · rename_i first replaced hreplaced
      have hthere := unreplaced_of_error hmade hreplaced
      rw [← hthere.grown.refuses] at hkeeps
      rcases remove_cases replaced scratch place with
        ⟨hrefuses, hremove⟩ | ⟨refusal, hrefuses, hremove⟩
      · rw [hremove] at h
        cases h
        exact ⟨hthere.grown.of_folders rfl rfl rfl rfl, fun _ => hthere.files_eraseFile,
          fun hkept => absurd hrefuses (hkeeps.1 hkept)⟩
      · have hkept : d.KeepsScratch p := hkeeps.2 (hrefuses ▸ Option.some_ne_none _)
        obtain ⟨part, hpart, hfiles⟩ := hthere.files
        -- the disk stays as it is, and the problem is that of the removal if this has one
        have hend : e = replaced ∧ (refusal.1 ≠ .missing → problem = ⟨refusal, scratch, none⟩) := by
          rw [hremove] at h
          by_cases hmissing : refusal.1 = .missing
          · rw [if_pos hmissing] at h
            cases h
            exact ⟨rfl, fun hne => absurd hmissing hne⟩
          · rw [if_neg hmissing] at h
            cases h
            exact ⟨rfl, fun _ => rfl⟩
        obtain ⟨rfl, hproblem⟩ := hend
        exact ⟨hthere.grown, fun hnot => absurd hkept hnot, fun _ => ⟨scratch, place, part, refusal,
          hthere.beside, hthere.located, hthere.new, hpart, hfiles,
          hthere.grown.refuses ▸ hrefuses, hproblem⟩⟩

/-- On a disk that lets all files be removed a failed write changes none. -/
theorem write_error_of_removable {d e : Disk} {p : Path} {bytes : List UInt8}
    {problem : FileProblem} (h : d.write p bytes = (.error problem, e))
    (hremovable : ∀ place, d.refuses (.removeFile place) = none) : e.files = d.files :=
  (write_error h).files (not_keepsScratch hremovable p)

/-- **A write that goes well** gives the file that its path names all the bytes, and no other file
changes. -/
theorem write_ok {d e : Disk} {p : Path} {bytes : List UInt8} {u : Unit}
    (h : d.write p bytes = (.ok u, e)) :
    ∃ place, e.locate p = .ok place ∧ e.file? place = some bytes ∧
      ∀ other, other ≠ place → e.file? other = d.file? other := by
  unfold write at h
  split at h
  · cases h
  · rename_i scratch place made hmade
    obtain ⟨m, hfiles, -, -, hlocate, hnew, rfl⟩ := makeScratch_ok hmade
    split at h
    · rename_i u' replaced hreplaced
      cases h
      have hlocate' : (m.putFile place []).locate scratch = .ok place :=
        locate_mono (by simp) (by simp) hlocate
      obtain ⟨onto, honto, rfl⟩ := replace_ok hlocate' hreplaced
      rw [eraseFile_putFile, eraseFile_eq_self hnew]
      refine ⟨onto, locate_mono (by simp) (by simp) honto, ?_, fun other hother => ?_⟩
      · rw [file?_putFile, if_pos rfl]
      · rw [file?_putFile, if_neg hother, file?, file?, hfiles]
    · split at h <;> cases h

end Pamphlet.Disk
