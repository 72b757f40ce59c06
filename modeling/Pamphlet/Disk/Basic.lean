import Pamphlet.Disk.Problem

/-!
# Disks

The files and folders that a run can see. Reading follows a path name by name from the current
folder. Writing makes the folders that are missing, writes all bytes to a scratch file beside the
target and then renames it, so a target is replaced whole or not at all. After a problem the scratch
file is removed, if the disk lets it be; the folders that have been made stay.

Whatever is asked of a disk it may refuse, for reasons of its own: missing rights, no room.
-/

namespace Pamphlet

namespace Disk

/-- Names from the top down to a file or folder. -/
abbrev Place := List String

/-- What can be refused. A file is made before it is filled, and it may be filled in part. -/
inductive Request
  | read (place : Place)
  | makeFolder (place : Place)
  | makeFile (place : Place)
  | fillFile (place : Place)
  | rename (place onto : Place)
  | removeFile (place : Place)
  deriving DecidableEq, Repr

end Disk

open Disk

/-- The top is a folder that is not listed. Relative paths start at `home`. -/
structure Disk where
  home : Place
  files : List (Place × List UInt8)
  folders : List Place
  refuses : Request → Option Refusal := fun _ => none
  /-- How many bytes a file has been given when it is refused to be filled. -/
  takes : Place → Nat := fun _ => 0

namespace Disk

def permit (d : Disk) (r : Request) : Except Trouble Unit :=
  match d.refuses r with
  | none => .ok ()
  | some refusal => .error refusal

def file? (d : Disk) (place : Place) : Option (List UInt8) :=
  d.files.lookup place

def isFile (d : Disk) (place : Place) : Bool :=
  (d.file? place).isSome

def isFolder (d : Disk) (place : Place) : Bool :=
  place.isEmpty || d.folders.contains place

/-! ## Paths -/

/-- Where a list of names leads; every name but the last must name a folder. -/
def walk (d : Disk) (here : Place) : List String → Except Trouble Place
  | [] => .ok here
  | name :: rest =>
    if d.isFolder here then
      walk d (if name = ".." then here.dropLast else here ++ [name]) rest
    else .error (if d.isFile here then .notFolder else .missing)

def locate (d : Disk) (p : Path) : Except Trouble Place :=
  if p.hasNull then .error .null
  else d.walk (if p.anchor = "" then d.home else []) p.names

def read (d : Disk) (p : Path) : Except FileProblem (List UInt8) :=
  match d.locate p with
  | .error trouble => .error ⟨trouble, p, none⟩
  | .ok place =>
    match d.file? place with
    | some bytes =>
      match d.permit (.read place) with
      | .error trouble => .error ⟨trouble, p, none⟩
      | .ok _ => .ok bytes
    | none => .error ⟨if d.isFolder place then .isFolder else .missing, p, none⟩

/-! ## Folders -/

def addFolder (d : Disk) (place : Place) : Disk :=
  { d with folders := d.folders ++ [place] }

def makeFolder (d : Disk) (p : Path) : Except Trouble Disk := do
  let place ← d.locate p
  if d.isFolder place || d.isFile place then throw .taken
  d.permit (.makeFolder place)
  return d.addFolder place

def isFolderAt (d : Disk) (p : Path) : Bool :=
  match d.locate p with
  | .ok place => d.isFolder place
  | .error _ => false

/-- Makes a folder unless there is one. -/
def ensureFolder (d : Disk) (p : Path) : Except Trouble Disk :=
  match d.makeFolder p with
  | .ok d => .ok d
  | .error trouble => if trouble ≠ .missing ∧ d.isFolderAt p then .ok d else .error trouble

/-- Makes a folder and those above it. -/
def makeFolders (d : Disk) (p : Path) : Except FileProblem Unit × Disk :=
  match d.ensureFolder p with
  | .ok d => (.ok (), d)
  | .error trouble =>
    if _ : trouble = .missing ∧ p.names ≠ [] then
      match d.makeFolders p.parent with
      | (.error problem, d) => (.error problem, d)
      | (.ok _, d) =>
        match d.ensureFolder p with
        | .ok d => (.ok (), d)
        | .error trouble => (.error ⟨trouble, p, none⟩, d)
    else (.error ⟨trouble, p, none⟩, d)
termination_by p.names.length
decreasing_by
  have h : p.names ≠ [] := by simp_all
  have := List.length_pos_iff.2 h
  simp only [Path.parent, List.length_dropLast]
  omega

/-! ## Files -/

def eraseFile (d : Disk) (place : Place) : Disk :=
  { d with files := d.files.filter fun f => f.1 ≠ place }

/-- Gives a file its bytes; an old file stays where it is listed. -/
def putFile (d : Disk) (place : Place) (bytes : List UInt8) : Disk :=
  if d.isFile place then
    { d with files := d.files.map fun f => if f.1 = place then (place, bytes) else f }
  else { d with files := d.files ++ [(place, bytes)] }

/-- The greatest length of a last name on the disk. -/
def longestName (d : Disk) : Nat :=
  (d.files.map (·.1) ++ d.folders).foldl (fun n place => max n (place.getLast?.getD "").length) 0

/-- A name beside `name` that is longer than every name on the disk. -/
def scratchName (d : Disk) (name : String) : String :=
  "." ++ name ++ "." ++ String.ofList (List.replicate d.longestName '0') ++ ".tmp"

/-- Gives a file another name; an old file of that name is replaced, a folder is not. -/
def rename (d : Disk) (p target : Path) : Except FileProblem Disk :=
  if target.lastName = "" ∨ target.lastName = ".." then .error ⟨.busy, p, some target⟩
  else
    match d.locate p, d.locate target with
    | .error trouble, _ => .error ⟨trouble, p, some target⟩
    | _, .error trouble => .error ⟨trouble, p, some target⟩
    | .ok place, .ok onto =>
      if d.isFolder onto then .error ⟨.isFolder, p, some target⟩
      else
        match d.file? place with
        | none => .error ⟨.missing, p, some target⟩
        | some bytes =>
          match d.permit (.rename place onto) with
          | .error trouble => .error ⟨trouble, p, some target⟩
          | .ok _ => .ok ((d.eraseFile place).putFile onto bytes)

/-- Gives a file its bytes, or as many of them as the disk takes. The file is open, so a problem
with it has no path. -/
def fill (d : Disk) (place : Place) (bytes : List UInt8) : Except FileProblem Unit × Disk :=
  match d.permit (.fillFile place) with
  | .error trouble => (.error ⟨trouble, none, none⟩, d.putFile place (bytes.take (d.takes place)))
  | .ok _ => (.ok (), d.putFile place bytes)

/-- Takes a file away; that there is none is no problem. -/
def remove (d : Disk) (p : Path) (place : Place) : Except FileProblem Unit × Disk :=
  match d.permit (.removeFile place) with
  | .error trouble => (if trouble = .missing then .ok () else .error ⟨trouble, p, none⟩, d)
  | .ok _ => (.ok (), d.eraseFile place)

/-! ## Writing -/

/-- Makes the folders above a path and an empty file beside it; tells the path and the place of the
file. -/
def makeScratch (d : Disk) (p : Path) : Except FileProblem (Path × Place) × Disk :=
  match d.makeFolders p.parent with
  | (.error problem, d) => (.error problem, d)
  | (.ok _, d) =>
    let scratch := p.parent.child (d.scratchName p.lastName)
    match d.locate scratch with
    | .error trouble => (.error ⟨trouble, scratch, none⟩, d)
    | .ok place =>
      match d.permit (.makeFile place) with
      | .error trouble => (.error ⟨trouble, scratch, none⟩, d)
      | .ok _ => (.ok (scratch, place), d.putFile place [])

/-- Fills the file at a place, which `p` names, and gives it the name of the target. -/
def replace (d : Disk) (p : Path) (place : Place) (target : Path) (bytes : List UInt8) :
    Except FileProblem Unit × Disk :=
  match d.fill place bytes with
  | (.error problem, d) => (.error problem, d)
  | (.ok _, d) =>
    match d.rename p target with
    | .error problem => (.error problem, d)
    | .ok d => (.ok (), d)

/-- Writes a file and the folders that it needs. If the scratch file cannot be removed after a
problem, it is this that the write fails with. -/
def write (d : Disk) (p : Path) (bytes : List UInt8) : Except FileProblem Unit × Disk :=
  match d.makeScratch p with
  | (.error problem, d) => (.error problem, d)
  | (.ok (scratch, place), d) =>
    match d.replace scratch place p bytes with
    | (.ok _, d) => (.ok (), d)
    | (.error problem, d) =>
      match d.remove scratch place with
      | (.error problem, d) => (.error problem, d)
      | (.ok _, d) => (.error problem, d)

/-! ## Making a disk -/

/-- The folders above a place, the top one first. -/
def foldersAbove (place : Place) : List Place :=
  (List.range place.length).drop 1 |>.map place.take

def ensureAll (d : Disk) (places : List Place) : Disk :=
  places.foldl (fun d place => if d.isFolder place then d else d.addFolder place) d

/-- Adds a file, or a folder if there are no bytes, under the current folder. -/
def add (d : Disk) (p : Path) (bytes : Option (List UInt8)) : Disk :=
  let place := d.home ++ p.names
  let d := d.ensureAll (foldersAbove place)
  match bytes with
  | some bytes => d.putFile place bytes
  | none => d.ensureAll [place]

/-- A disk with nothing but its current folder. -/
def emptyAt (home : Place) : Disk :=
  ({ home, files := [], folders := [] } : Disk).ensureAll (foldersAbove home ++ [home])

/-- The files under the current folder, by their paths from there. -/
def homeFiles (d : Disk) : List (String × List UInt8) :=
  d.files.filterMap fun (place, bytes) =>
    if d.home.isPrefixOf place then
      some ("/".intercalate (place.drop d.home.length), bytes)
    else none

end Disk

end Pamphlet
