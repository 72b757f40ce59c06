import Pamphlet.Proofs.Disk.Write

/-!
# Disks of one shape

On two disks that differ only in the bytes of files, folders are made and files are written the same
way (`makeFolders`, `write`): scratch files get the same names, and the two writes end in the same
result, whatever they write.
-/

namespace Pamphlet.Disk

/-- Two disks that differ in the bytes of files and in nothing else. -/
structure SameShape (d e : Disk) : Prop where
  home : e.home = d.home
  folders : e.folders = d.folders
  refuses : e.refuses = d.refuses
  isFile : ∀ place, e.isFile place = d.isFile place

variable {d e : Disk}

namespace SameShape

theorem refl (d : Disk) : SameShape d d :=
  ⟨rfl, rfl, rfl, fun _ => rfl⟩

theorem isFolder (h : SameShape d e) (place : Place) : e.isFolder place = d.isFolder place := by
  unfold Disk.isFolder
  rw [h.folders]

/-- A walk leads to the same place on disks of one shape. -/
theorem walk (h : SameShape d e) (here : Place) (names : List String) :
    e.walk here names = d.walk here names := by
  induction names generalizing here with
  | nil => rfl
  | cons name rest ih =>
    unfold Disk.walk
    rw [h.isFolder, h.isFile, ih]

theorem locate (h : SameShape d e) (p : Path) : e.locate p = d.locate p := by
  unfold Disk.locate
  rw [h.home, h.walk]

theorem permit (h : SameShape d e) (r : Request) : e.permit r = d.permit r := by
  unfold Disk.permit
  rw [h.refuses]

end SameShape

/-! ## Names of scratch files -/

theorem isFile_iff {place : Place} : d.isFile place = true ↔ ∃ bytes, (place, bytes) ∈ d.files := by
  unfold isFile file?
  rw [List.lookup_isSome_iff]
  constructor
  · rintro ⟨⟨other, bytes⟩, hmem, heq⟩
    obtain rfl : place = other := beq_iff_eq.1 heq
    exact ⟨bytes, hmem⟩
  · rintro ⟨bytes, hmem⟩
    exact ⟨(place, bytes), hmem, beq_self_eq_true place⟩

theorem foldl_max_le {places : List Place} {n m : Nat} (hm : m ≤ n)
    (h : ∀ place ∈ places, (place.getLast?.getD "").length ≤ n) :
    places.foldl (fun n place => max n (place.getLast?.getD "").length) m ≤ n := by
  induction places generalizing m with
  | nil => exact hm
  | cons first rest ih =>
    rw [List.foldl_cons]
    exact ih (Nat.max_le.2 ⟨hm, h first List.mem_cons_self⟩) fun place hplace =>
      h place (List.mem_cons_of_mem first hplace)

/-- A disk with more files has names that are as long at least. -/
theorem longestName_le_of {d e : Disk}
    (hfiles : ∀ place, d.isFile place = true → e.isFile place = true)
    (hfolders : d.folders = e.folders) : d.longestName ≤ e.longestName := by
  unfold longestName
  refine foldl_max_le (Nat.zero_le _) fun place hplace => (le_foldl_max _ 0).2 place ?_
  rw [List.mem_append] at hplace ⊢
  refine hplace.imp (fun hfile => ?_) fun hfolder => hfolders ▸ hfolder
  obtain ⟨⟨_, bytes⟩, hmem, rfl⟩ := List.mem_map.1 hfile
  obtain ⟨bytes', hmem'⟩ := isFile_iff.1 (hfiles _ (isFile_iff.2 ⟨bytes, hmem⟩))
  exact List.mem_map.2 ⟨_, hmem', rfl⟩

namespace SameShape

theorem longestName (h : SameShape d e) : e.longestName = d.longestName :=
  Nat.le_antisymm (longestName_le_of (fun place hplace => by rwa [← h.isFile]) h.folders)
    (longestName_le_of (fun place hplace => by rwa [h.isFile]) h.folders.symm)

/-- Scratch files get the same names on disks of one shape. -/
theorem scratchName (h : SameShape d e) (name : String) :
    e.scratchName name = d.scratchName name := by
  unfold Disk.scratchName
  rw [h.longestName]

/-- Disks stay of one shape when a file gets its bytes on both, whichever they are. -/
theorem putFile (h : SameShape d e) (place : Place) (bytes bytes' : List UInt8) :
    SameShape (d.putFile place bytes) (e.putFile place bytes') where
  home := by
    rw [putFile_home, putFile_home, h.home]
  folders := by
    rw [putFile_folders, putFile_folders, h.folders]
  refuses := by
    unfold Disk.putFile
    rw [h.isFile]
    split <;> exact h.refuses
  isFile other := by
    have hfile := h.isFile other
    unfold Disk.isFile at hfile ⊢
    rw [file?_putFile, file?_putFile]
    split
    · rfl
    · exact hfile

/-- A file that gets other bytes leaves the shape as it is. -/
theorem of_putFile {place : Place} (hplace : d.isFile place = true) (bytes : List UInt8) :
    SameShape d (d.putFile place bytes) where
  home := putFile_home ..
  folders := putFile_folders ..
  refuses := by
    unfold Disk.putFile
    split <;> rfl
  isFile other := by
    unfold Disk.isFile at hplace ⊢
    rw [file?_putFile]
    split
    · rename_i hother
      rw [hother, hplace]
      rfl
    · rfl

/-! ## Folders -/

theorem addFolder (h : SameShape d e) (place : Place) :
    SameShape (d.addFolder place) (e.addFolder place) where
  home := h.home
  folders := by
    rw [Disk.addFolder, Disk.addFolder, h.folders]
  refuses := h.refuses
  isFile := h.isFile

/-- Two ends of making a folder: two disks of one shape, or the same trouble. -/
inductive Made : Except Trouble Disk → Except Trouble Disk → Prop
  | done {d e : Disk} : SameShape d e → Made (.ok d) (.ok e)
  | refused {trouble : Trouble} : Made (.error trouble) (.error trouble)

theorem makeFolder (h : SameShape d e) (p : Path) : Made (d.makeFolder p) (e.makeFolder p) := by
  unfold Disk.makeFolder
  rw [h.locate]
  cases d.locate p with
  | error trouble => exact .refused
  | ok place =>
    simp only [h.isFolder, h.isFile, h.permit, bind, Except.bind]
    split
    · exact .refused
    · cases d.permit (.makeFolder place) with
      | error trouble => exact .refused
      | ok u => exact .done (h.addFolder place)

theorem isFolderAt (h : SameShape d e) (p : Path) : e.isFolderAt p = d.isFolderAt p := by
  unfold Disk.isFolderAt
  rw [h.locate]
  cases d.locate p with
  | error trouble => rfl
  | ok place => exact h.isFolder place

theorem ensureFolder (h : SameShape d e) (p : Path) :
    Made (d.ensureFolder p) (e.ensureFolder p) := by
  have hmade := h.makeFolder p
  unfold Disk.ensureFolder
  generalize d.makeFolder p = x at hmade ⊢
  generalize e.makeFolder p = y at hmade ⊢
  cases hmade with
  | done hshape => exact .done hshape
  | refused =>
    simp only [h.isFolderAt]
    split
    · exact .done h
    · exact .refused

/-- Folders are made one in another, and the two disks stay of one shape. -/
theorem makeFolders (h : SameShape d e) (p : Path) :
    (e.makeFolders p).1 = (d.makeFolders p).1 ∧
    SameShape (d.makeFolders p).2 (e.makeFolders p).2 := by
  induction hlength : p.names.length using Nat.strongRecOn generalizing p with
  | ind n ih =>
    have hmade := h.ensureFolder p
    rw [Disk.makeFolders.eq_1 d, Disk.makeFolders.eq_1 e]
    generalize d.ensureFolder p = x at hmade ⊢
    generalize e.ensureFolder p = y at hmade ⊢
    cases hmade with
    | done hshape => exact ⟨rfl, hshape⟩
    | @refused trouble =>
      simp only
      by_cases again : trouble = .missing ∧ p.names ≠ []
      · have hparent : p.parent.names.length < n := by
          have hpos := List.length_pos_iff.2 again.2
          rw [← hlength, Path.parent, List.length_dropLast]
          omega
        obtain ⟨hresult, hshape⟩ := ih _ hparent p.parent rfl
        rw [dif_pos again, dif_pos again]
        generalize d.makeFolders p.parent = above at hresult hshape ⊢
        generalize e.makeFolders p.parent = above' at hresult hshape ⊢
        obtain ⟨result, d'⟩ := above
        obtain ⟨result', e'⟩ := above'
        obtain rfl : result' = result := hresult
        cases result' with
        | error problem => exact ⟨rfl, hshape⟩
        | ok u =>
          replace hshape : SameShape d' e' := hshape
          have hmade := hshape.ensureFolder p
          simp only
          generalize d'.ensureFolder p = x at hmade ⊢
          generalize e'.ensureFolder p = y at hmade ⊢
          cases hmade with
          | done hshape => exact ⟨rfl, hshape⟩
          | refused => exact ⟨rfl, hshape⟩
      · rw [dif_neg again, dif_neg again]
        exact ⟨rfl, h⟩

/-! ## Writing -/

/-- What can be renamed on one disk can be renamed on another one of its shape. -/
theorem rename (h : SameShape d e) (p target : Path) :
    (e.rename p target).map (fun _ => ()) = (d.rename p target).map fun _ => () := by
  unfold Disk.rename
  rw [h.locate, h.locate]
  split
  · rfl
  · split
    · rfl
    · rfl
    · rename_i place onto hplace honto
      rw [h.isFolder]
      split
      · rfl
      · have hfile := h.isFile place
        unfold Disk.isFile at hfile
        rw [h.permit]
        cases hd : d.file? place with
        | none =>
          rw [hd, Option.isSome_none, Option.isSome_eq_false_iff,
            Option.isNone_iff_eq_none] at hfile
          rw [hfile]
        | some bytes =>
          rw [hd, Option.isSome_some, Option.isSome_iff_exists] at hfile
          obtain ⟨bytes', he⟩ := hfile
          rw [he]
          simp only
          cases d.permit (.rename place onto) <;> rfl

theorem fill (h : SameShape d e) (place : Place) (bytes bytes' : List UInt8) :
    (e.fill place bytes').1 = (d.fill place bytes).1 ∧
      SameShape (d.fill place bytes).2 (e.fill place bytes').2 := by
  unfold Disk.fill
  rw [h.permit]
  cases d.permit (.fillFile place) with
  | error trouble => exact ⟨rfl, h.putFile place _ _⟩
  | ok u => exact ⟨rfl, h.putFile place _ _⟩

theorem replace (h : SameShape d e) (p : Path) (place : Place) (target : Path)
    (bytes bytes' : List UInt8) :
    (e.replace p place target bytes').1 = (d.replace p place target bytes).1 := by
  obtain ⟨hresult, hshape⟩ := h.fill place bytes bytes'
  unfold Disk.replace
  generalize d.fill place bytes = x at hresult hshape ⊢
  generalize e.fill place bytes' = y at hresult hshape ⊢
  obtain ⟨result, d'⟩ := x
  obtain ⟨result', e'⟩ := y
  obtain rfl : result' = result := hresult
  cases result' with
  | error problem => rfl
  | ok u =>
    have hrename := SameShape.rename hshape p target
    simp only at hrename ⊢
    generalize d'.rename p target = x at hrename ⊢
    generalize e'.rename p target = y at hrename ⊢
    cases x <;> cases y <;> cases hrename <;> rfl

/-- A scratch file gets the same name and is made or not made alike. -/
theorem makeScratch (h : SameShape d e) (p : Path) :
    (e.makeScratch p).1 = (d.makeScratch p).1 ∧
      SameShape (d.makeScratch p).2 (e.makeScratch p).2 := by
  obtain ⟨hresult, hshape⟩ := h.makeFolders p.parent
  unfold Disk.makeScratch
  generalize d.makeFolders p.parent = x at hresult hshape ⊢
  generalize e.makeFolders p.parent = y at hresult hshape ⊢
  obtain ⟨result, made⟩ := x
  obtain ⟨result', made'⟩ := y
  obtain rfl : result' = result := hresult
  replace hshape : SameShape made made' := hshape
  cases result' with
  | error problem => exact ⟨rfl, hshape⟩
  | ok u =>
    simp only [hshape.scratchName, hshape.locate]
    cases made.locate (p.parent.child (made.scratchName p.lastName)) with
    | error trouble => exact ⟨rfl, hshape⟩
    | ok place =>
      simp only [hshape.permit]
      cases made.permit (.makeFile place) with
      | error trouble => exact ⟨rfl, hshape⟩
      | ok u => exact ⟨rfl, hshape.putFile place [] []⟩

/-- Whether a file can be removed depends on what the disk refuses, and on nothing else. -/
theorem remove_congr (h : e.refuses = d.refuses) (p : Path) (place : Place) :
    (e.remove p place).1 = (d.remove p place).1 := by
  unfold Disk.remove Disk.permit
  rw [h]
  cases d.refuses (.removeFile place) <;> rfl

/-- Two writes end in the same result. -/
theorem write (h : SameShape d e) (p : Path) (bytes bytes' : List UInt8) :
    (e.write p bytes').1 = (d.write p bytes).1 := by
  obtain ⟨hresult, hshape⟩ := h.makeScratch p
  unfold Disk.write
  generalize d.makeScratch p = x at hresult hshape ⊢
  generalize e.makeScratch p = y at hresult hshape ⊢
  obtain ⟨result, made⟩ := x
  obtain ⟨result', made'⟩ := y
  obtain rfl : result' = result := hresult
  replace hshape : SameShape made made' := hshape
  cases result' with
  | error problem => rfl
  | ok found =>
    obtain ⟨scratch, place⟩ := found
    have hreplace := hshape.replace scratch place p bytes bytes'
    have hrefuses : (made'.replace scratch place p bytes').2.refuses =
        (made.replace scratch place p bytes).2.refuses := by
      rw [replace_refuses, replace_refuses, hshape.refuses]
    simp only
    generalize made.replace scratch place p bytes = x at hreplace hrefuses ⊢
    generalize made'.replace scratch place p bytes' = y at hreplace hrefuses ⊢
    obtain ⟨result, d'⟩ := x
    obtain ⟨result', e'⟩ := y
    obtain rfl : result' = result := hreplace
    cases result' with
    | ok u => rfl
    | error problem =>
      have hremove := remove_congr hrefuses scratch place
      simp only at hremove ⊢
      generalize d'.remove scratch place = x at hremove ⊢
      generalize e'.remove scratch place = y at hremove ⊢
      obtain ⟨result, d''⟩ := x
      obtain ⟨result', e''⟩ := y
      obtain rfl : result' = result := hremove
      cases result' <;> rfl

end SameShape

end Pamphlet.Disk
