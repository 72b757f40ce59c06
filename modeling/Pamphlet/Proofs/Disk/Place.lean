import Pamphlet.Disk.Basic

/-!
# Places on a disk

What a disk has at its places after a file has been given its bytes (`file?_putFile`) and after
folders have been made. More folders never change where a path leads that led somewhere before
(`locate_mono`), so a disk that has grown (`Grown`) shows every file under the paths it had.
-/

namespace Pamphlet.Disk

/-! ## Files by their places -/

theorem file?_eq_none_iff {d : Disk} {place : Place} :
    d.file? place = none ↔ ∀ f ∈ d.files, f.1 ≠ place := by
  unfold file?
  rw [List.lookup_eq_none_iff]
  constructor
  · intro h f hf he
    have hne := h f hf
    rw [he] at hne
    simp at hne
  · intro h f hf
    have hne := h f hf
    simpa using fun e => hne e.symm

/-- Files at other places stay as they are. -/
private theorem map_replaced_of_absent {place : Place} (bytes : List UInt8)
    {files : List (Place × List UInt8)} (h : ∀ f ∈ files, f.1 ≠ place) :
    (files.map fun f => if f.1 = place then (place, bytes) else f) = files := by
  refine (List.map_congr_left fun f hf => ?_).trans (List.map_id files)
  rw [if_neg (h f hf)]
  rfl

/-- Looking a place up after its bytes have been replaced. -/
private theorem lookup_replaced (place other : Place) (bytes : List UInt8) :
    ∀ files : List (Place × List UInt8), (files.lookup place).isSome →
      (files.map fun f => if f.1 = place then (place, bytes) else f).lookup other =
        if other = place then some bytes else files.lookup other
  | [], h => by simp at h
  | (p, old) :: rest, h => by
    rw [List.map_cons]
    by_cases hp : p = place
    · subst hp
      by_cases ho : other = p
      · rw [if_pos rfl, ho, List.lookup_cons_self, if_pos rfl]
      · have hb : (other == p) = false := beq_eq_false_iff_ne.2 ho
        rw [if_pos rfl, List.lookup_cons, hb, if_neg ho, List.lookup_cons, hb]
        simp only
        by_cases hr : (rest.lookup p).isSome
        · rw [lookup_replaced p other bytes rest hr, if_neg ho]
        · -- the place is listed only once, so the rest stays as it is
          rw [map_replaced_of_absent]
          intro f hf he
          apply hr
          rw [List.lookup_isSome_iff]
          exact ⟨f, hf, by simpa using he.symm⟩
    · have hb : (place == p) = false := beq_eq_false_iff_ne.2 (Ne.symm hp)
      rw [List.lookup_cons, hb] at h
      rw [if_neg hp, List.lookup_cons, List.lookup_cons, lookup_replaced place other bytes rest h]
      by_cases ho : other = p
      · subst ho
        simp [hp]
      · have hb' : (other == p) = false := beq_eq_false_iff_ne.2 ho
        rw [hb']

/-- A file that has been given its bytes has them, and all others are as they were. -/
theorem file?_putFile (d : Disk) (place other : Place) (bytes : List UInt8) :
    (d.putFile place bytes).file? other = if other = place then some bytes else d.file? other := by
  unfold putFile
  split
  · rename_i h
    exact lookup_replaced place other bytes d.files h
  · rename_i h
    unfold isFile at h
    unfold file? at h ⊢
    rw [List.lookup_append]
    by_cases ho : other = place
    · subst ho
      rw [if_pos rfl]
      simp only [Bool.not_eq_true, Option.isSome_eq_false_iff, Option.isNone_iff_eq_none] at h
      rw [h]
      simp
    · have hb : (other == place) = false := beq_eq_false_iff_ne.2 ho
      rw [if_neg ho, List.lookup_cons, hb]
      simp

/-- Erasing a file undoes what was done to it before. -/
theorem eraseFile_putFile (d : Disk) (place : Place) (bytes : List UInt8) :
    (d.putFile place bytes).eraseFile place = d.eraseFile place := by
  unfold putFile eraseFile
  split
  · simp only [Disk.mk.injEq, true_and, and_true]
    rw [List.filter_map]
    rw [List.filter_congr (q := fun f => f.1 ≠ place) fun f _ => by
      simp only [Function.comp_apply]
      split <;> simp_all]
    refine map_replaced_of_absent bytes fun f hf => ?_
    simpa using (List.mem_filter.1 hf).2
  · simp [List.filter_append]

theorem eraseFile_eq_self {d : Disk} {place : Place} (h : d.file? place = none) :
    d.eraseFile place = d := by
  have hkept : d.files.filter (fun f => f.1 ≠ place) = d.files := by
    rw [List.filter_eq_self]
    intro f hf
    simpa using file?_eq_none_iff.1 h f hf
  unfold eraseFile
  rw [hkept]

/-- A new file is listed last. -/
theorem putFile_of_absent {d : Disk} {place : Place} (h : d.file? place = none)
    (bytes : List UInt8) : (d.putFile place bytes).files = d.files ++ [(place, bytes)] := by
  unfold putFile isFile
  rw [h, if_neg (by simp)]

/-- What a file is given last counts. -/
theorem putFile_putFile_of_absent {d : Disk} {place : Place} (h : d.file? place = none)
    (first bytes : List UInt8) :
    ((d.putFile place first).putFile place bytes).files = d.files ++ [(place, bytes)] := by
  have hfile : (d.putFile place first).isFile place = true := by
    rw [isFile, file?_putFile, if_pos rfl]
    rfl
  rw [putFile, if_pos hfile, putFile_of_absent h]
  simp only [List.map_append, List.map_cons, List.map_nil, if_true]
  rw [map_replaced_of_absent bytes (file?_eq_none_iff.1 h)]

@[simp] theorem putFile_home (d : Disk) (place : Place) (bytes : List UInt8) :
    (d.putFile place bytes).home = d.home := by
  unfold putFile
  split <;> rfl

@[simp] theorem putFile_folders (d : Disk) (place : Place) (bytes : List UInt8) :
    (d.putFile place bytes).folders = d.folders := by
  unfold putFile
  split <;> rfl

@[simp] theorem putFile_refuses (d : Disk) (place : Place) (bytes : List UInt8) :
    (d.putFile place bytes).refuses = d.refuses := by
  unfold putFile
  split <;> rfl

@[simp] theorem putFile_takes (d : Disk) (place : Place) (bytes : List UInt8) :
    (d.putFile place bytes).takes = d.takes := by
  unfold putFile
  split <;> rfl

/-! ## Where paths lead -/

/-- A path that leads somewhere has no null character. -/
theorem locate_eq_ok_iff {d : Disk} {p : Path} {place : Place} :
    d.locate p = .ok place ↔
      p.hasNull = false ∧ d.walk (if p.anchor = "" then d.home else []) p.names = .ok place := by
  unfold locate
  cases p.hasNull with
  | true => simp
  | false => simp

/-- A walk that comes through comes through where there are more folders. -/
theorem walk_mono {d e : Disk} (h : ∀ place, d.isFolder place = true → e.isFolder place = true)
    {names : List String} {here place : Place} (hd : d.walk here names = .ok place) :
    e.walk here names = .ok place := by
  induction names generalizing here with
  | nil => exact hd
  | cons name rest ih =>
    unfold walk at hd ⊢
    split at hd
    · rename_i hf
      rw [if_pos (h here hf)]
      exact ih hd
    · simp at hd

/-- What is a folder stays one where there are more folders. -/
theorem isFolder_mono {d e : Disk} (h : d.folders ⊆ e.folders) {place : Place}
    (hplace : d.isFolder place = true) : e.isFolder place = true := by
  unfold isFolder at hplace ⊢
  rw [Bool.or_eq_true, List.contains_iff_mem] at hplace ⊢
  exact hplace.imp_right fun hmem => h hmem

/-- More folders do not change where a path leads. -/
theorem locate_mono {d e : Disk} {p : Path} {place : Place} (home : d.home = e.home)
    (folders : d.folders ⊆ e.folders) (h : d.locate p = .ok place) : e.locate p = .ok place := by
  rw [locate_eq_ok_iff] at h ⊢
  rw [← home]
  exact ⟨h.1, walk_mono (fun _ => isFolder_mono folders) h.2⟩

/-- A walk by one more name ends in the folder that the walk before has come to. -/
theorem walk_append {d : Disk} {here place : Place} {names : List String} {name : String}
    (hname : name ≠ "..") (h : d.walk here (names ++ [name]) = .ok place) :
    ∃ above, d.walk here names = .ok above ∧ place = above ++ [name] := by
  induction names generalizing here with
  | nil =>
    rw [List.nil_append] at h
    unfold walk at h
    split at h
    · unfold walk at h
      exact ⟨here, rfl, (Except.ok.inj h).symm⟩
    · simp at h
  | cons first rest ih =>
    rw [List.cons_append] at h
    unfold walk at h ⊢
    split at h
    · rename_i hf
      rw [if_pos hf]
      exact ih h
    · simp at h

/-! ## Reading -/

theorem walk_ne_null {d : Disk} {here : Place} {names : List String} :
    d.walk here names ≠ .error .null := by
  induction names generalizing here with
  | nil => exact fun h => nomatch h
  | cons name rest ih =>
    unfold walk
    split
    · exact ih
    · split <;> exact fun h => nomatch h

theorem permit_ne_null {d : Disk} {r : Request} : d.permit r ≠ .error .null := by
  unfold permit
  split
  · exact fun h => nomatch h
  · rename_i refusal hrefusal
    exact fun h => refusal.2 (Except.error.inj h)

/-- Only paths without null characters can be read. -/
theorem read_ok {d : Disk} {p : Path} {bytes : List UInt8} (h : d.read p = .ok bytes) :
    p.hasNull = false := by
  unfold read at h
  split at h
  · cases h
  · rename_i place hlocate
    exact (locate_eq_ok_iff.1 hlocate).1

/-- No answer of a disk is like turning a path down that has a null character. -/
theorem read_error {d : Disk} {p : Path} {problem : FileProblem} (h : d.read p = .error problem) :
    problem.trouble = .null ↔ p.hasNull = true := by
  unfold read locate at h
  cases hnull : p.hasNull with
  | true =>
    rw [hnull, if_pos rfl] at h
    cases h
    exact iff_of_true rfl rfl
  | false =>
    rw [hnull, if_neg Bool.false_ne_true] at h
    refine iff_of_false (fun htrouble => ?_) Bool.false_ne_true
    split at h
    · rename_i trouble hwalk
      cases h
      exact walk_ne_null (hwalk.trans (congrArg _ htrouble))
    · split at h
      · split at h
        · rename_i trouble hpermit
          cases h
          exact permit_ne_null (hpermit.trans (congrArg _ htrouble))
        · cases h
      · cases h
        revert htrouble
        simp only
        split <;> exact fun h => nomatch h

/-! ## Folders -/

/-- A disk that has got more folders and is the same otherwise, files apart. Each new folder is one
that a beginning of the path names. -/
structure Grown (d e : Disk) (p : Path) : Prop where
  home : e.home = d.home
  refuses : e.refuses = d.refuses
  takes : e.takes = d.takes
  folders : ∃ made, e.folders = d.folders ++ made ∧
    ∀ place ∈ made, ∃ names, names <+: p.names ∧ e.locate { p with names } = .ok place

namespace Grown

variable {d e f : Disk} {p q : Path}

theorem refl (d : Disk) (p : Path) : Grown d d p :=
  ⟨rfl, rfl, rfl, [], (List.append_nil _).symm, fun _ h => absurd h List.not_mem_nil⟩

theorem subset (h : Grown d e p) : d.folders ⊆ e.folders := by
  obtain ⟨made, hmade, -⟩ := h.folders
  rw [hmade]
  exact List.subset_append_left _ _

theorem locate (h : Grown d e p) {place : Place} (hq : d.locate q = .ok place) :
    e.locate q = .ok place :=
  locate_mono h.home.symm h.subset hq

/-- Files do not count. -/
theorem of_folders (h : Grown d e p) (home : f.home = e.home) (folders : f.folders = e.folders)
    (refuses : f.refuses = e.refuses) (takes : f.takes = e.takes) : Grown d f p := by
  obtain ⟨made, hmade, hnamed⟩ := h.folders
  refine ⟨home.trans h.home, refuses.trans h.refuses, takes.trans h.takes, made,
    folders.trans hmade, fun place hplace => ?_⟩
  obtain ⟨names, hprefix, hlocate⟩ := hnamed place hplace
  exact ⟨names, hprefix, locate_mono home.symm (by rw [folders]; exact List.Subset.refl _) hlocate⟩

/-- What has grown above a path and then along it has grown along it. -/
theorem trans (h : Grown d e p.parent) (h' : Grown e f p) : Grown d f p := by
  obtain ⟨made, hmade, hnamed⟩ := h.folders
  obtain ⟨made', hmade', hnamed'⟩ := h'.folders
  refine ⟨h'.home.trans h.home, h'.refuses.trans h.refuses, h'.takes.trans h.takes,
    made ++ made', ?_, fun place hplace => ?_⟩
  · rw [hmade', hmade, List.append_assoc]
  · rcases List.mem_append.1 hplace with hplace | hplace
    · obtain ⟨names, hprefix, hlocate⟩ := hnamed place hplace
      exact ⟨names, hprefix.trans (List.dropLast_prefix _), h'.locate hlocate⟩
    · exact hnamed' place hplace

/-- What has grown along a path has grown along a longer one. -/
theorem of_parent (h : Grown d e p.parent) : Grown d e p :=
  h.trans (refl e p)

end Grown

/-- A folder is made where its path leads, and nothing else is done. -/
theorem makeFolder_ok {d e : Disk} {p : Path} (h : d.makeFolder p = .ok e) :
    ∃ place, d.locate p = .ok place ∧ e = d.addFolder place := by
  unfold makeFolder at h
  cases hl : d.locate p with
  | error trouble => rw [hl] at h; cases h
  | ok place =>
    rw [hl] at h
    change (if d.isFolder place || d.isFile place then throw .taken
      else d.permit (.makeFolder place) >>= fun _ => pure (d.addFolder place) :
        Except Trouble Disk) = .ok e at h
    split at h
    · cases h
    · cases hr : d.permit (.makeFolder place) with
      | error trouble => rw [hr] at h; cases h
      | ok u =>
        rw [hr] at h
        exact ⟨place, rfl, (Except.ok.inj h).symm⟩

theorem ensureFolder_ok {d e : Disk} {p : Path} (h : d.ensureFolder p = .ok e) :
    e.files = d.files ∧ Grown d e p := by
  unfold ensureFolder at h
  split at h
  · rename_i made hmade
    obtain ⟨place, hplace, rfl⟩ := makeFolder_ok hmade
    cases h
    refine ⟨rfl, rfl, rfl, rfl, [place], rfl, fun other hother => ?_⟩
    obtain rfl := List.mem_singleton.1 hother
    have hsubset : d.folders ⊆ (d.addFolder other).folders := List.subset_append_left _ _
    exact ⟨p.names, List.prefix_refl _, locate_mono (d := d) rfl hsubset hplace⟩
  · split at h
    · cases h
      exact ⟨rfl, .refl d p⟩
    · cases h

/-- Making folders touches no file, and only folders on the way are made. -/
theorem makeFolders_grown (d : Disk) (p : Path) :
    (d.makeFolders p).2.files = d.files ∧ Grown d (d.makeFolders p).2 p := by
  fun_induction makeFolders d p with
  | case1 p e made => exact ensureFolder_ok made
  | case2 p trouble refused again problem e above ih =>
    rw [above] at ih
    exact ⟨ih.1, ih.2.of_parent⟩
  | case3 p trouble refused again u e above final made ih =>
    rw [above] at ih
    exact ⟨(ensureFolder_ok made).1.trans ih.1, ih.2.trans (ensureFolder_ok made).2⟩
  | case4 p trouble refused again u e above trouble' refused' ih =>
    rw [above] at ih
    exact ⟨ih.1, ih.2.of_parent⟩
  | case5 p trouble refused again => exact ⟨rfl, .refl d p⟩

end Pamphlet.Disk
