import Pamphlet.CommandLine

/-!
# The program

Reads the settings from the environment and the files that the arguments name, runs, and writes what
the run has written. The program has no connection to a network, so every request is lost.
-/

namespace Pamphlet.Main

open Pamphlet.Disk Pamphlet.Text

/-- The environment as far as it is a setting. -/
def readEnvironment : IO Settings.Environment := do
  let mut found := []
  for (name, _) in Settings.usual do
    if let some value ← IO.getEnv name then
      found := found ++ [(name, value)]
  return found

/-- The place of a path, seen from a folder. -/
def placeOf (home : Place) (p : Path) : Place :=
  p.names.foldl (fun here name => if name = ".." then here.dropLast else here ++ [name])
    (if p.anchor = "" then home else [])

def placeText (place : Place) : String :=
  "/" ++ "/".intercalate place

/-- Adds what there is at a place. -/
def addPlace (d : Disk) (place : Place) : IO Disk := do
  let path := System.mkFilePath [placeText place]
  if ← path.isDir then return d.ensureAll [place]
  if ← path.pathExists then return d.putFile place (← IO.FS.readBinFile path).toList
  return d

/-- The disk as far as some paths lead through it. -/
def readDisk (paths : List Path) : IO Disk := do
  let home := (← IO.currentDir).components.filter (· ≠ "")
  let mut d := Disk.emptyAt home
  for p in paths do
    let place := placeOf home p
    for above in foldersAbove place ++ [place] do
      d ← addPlace d above
  return d

/-- Writes a file beside its place and moves it there. -/
def writeFile (place : Place) (bytes : List UInt8) : IO Unit := do
  let path := placeText place
  IO.FS.createDirAll (placeText place.dropLast)
  IO.FS.writeBinFile (path ++ ".tmp") ⟨bytes.toArray⟩
  IO.FS.rename (path ++ ".tmp") path

def writeChanges (before after : Disk) : IO Unit := do
  for (place, bytes) in after.files do
    if before.file? place ≠ some bytes then
      writeFile place bytes

/-- A request that goes nowhere. -/
def noNetwork : Tracker :=
  .steady fun _ => .lost "ConnectError" "All connection attempts failed"

def run (settings : Settings) (args : List String) : IO UInt32 := do
  let disk ← readDisk (args.map .read)
  let name := String.ofList (hexDigits 12 (← IO.monoNanosNow))
  let ending := CommandLine.run ⟨name, settings, noNetwork, [], .absent⟩ disk args
  IO.print ending.printed
  for line in ending.job.log do
    IO.eprintln s!"{line.level.name} | {line.message}"
  writeChanges disk ending.job.disk
  return ending.status.toUInt32

end Pamphlet.Main

def main (args : List String) : IO UInt32 := do
  match Pamphlet.Settings.read (← Pamphlet.Main.readEnvironment) with
  | .error f =>
    IO.eprintln (f.name ++ ": " ++ f.text)
    return 1
  | .ok settings =>
    match settings.problems with
    | [] => Pamphlet.Main.run settings args
    | problems =>
      IO.eprint (Pamphlet.Settings.complaint problems)
      return 1
