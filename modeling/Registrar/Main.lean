import Registrar.CommandLine.Report

/-!
The program as it is called: it looks at the files that its settings name, works out how the run ends,
and brings the directories and files of the result into being. The engine of the database and the
listener of the server are other programs: a database is left as an empty file, and no address can be
listened on.
-/

namespace Registrar.Main

open CommandLine Settings

def pathOf (place : List String) : String :=
  "/" ++ "/".intercalate place

def readVariables : IO (List (String × String)) := do
  let text ← try IO.FS.readFile "/proc/self/environ" catch _ => pure ""
  return (Text.split (Char.ofNat 0) text).filterMap (Text.cut? "=")

def isFile (path : String) : IO Bool := do
  try
    let _ ← IO.FS.readBinFile path
    return true
  catch _ => return false

/-- Adds the file of the path, and those that stand where its directories should be. -/
def notice (disk : Disk) (path : String) : IO Disk := do
  let mut files := disk.files
  for place in Disk.lineage (disk.place path) do
    if ← isFile (pathOf place) then
      files := files ++ [place]
  return { disk with files := files }

def readSettings (surroundings : Surroundings) (arguments : List String) : IO Surroundings := do
  match settingsPath? arguments with
  | none => return surroundings
  | some path =>
    let disk ← notice surroundings.disk path
    let text ← try some <$> IO.FS.readFile path catch _ => pure none
    let texts := (text.map fun text => (disk.place path, text)).toList
    return { surroundings with disk := disk, texts := texts }

def bringAbout (old new : Disk) : IO Unit := do
  for place in new.directories do
    unless old.hasDirectory place do
      IO.FS.createDirAll (pathOf place)
  for place in new.files do
    unless old.hasFile place do
      let _ ← IO.FS.Handle.mk (pathOf place) .append

end Registrar.Main

open Registrar Main CommandLine Settings in
def main (arguments : List String) : IO UInt32 := do
  let current := (← IO.currentDir).toString
  let bare : Surroundings :=
    { disk := ⟨current, [], []⟩
      texts := []
      userHome := ← IO.getEnv "HOME"
      environment := ← readVariables }
  let surroundings ← readSettings bare arguments
  let disk ← (paths surroundings arguments).foldlM notice surroundings.disk
  let (ending, result) := start (fun _ => false) { surroundings with disk := disk } arguments
  bringAbout disk result
  for line in ending.outputLines do
    IO.println line
  for line in ending.errorLines do
    IO.eprintln line
  return .ofNat ending.code
