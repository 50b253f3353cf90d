import Registrar.Files.Path

/-!
A file tree as far as the program changes it: directories and files by their places.
-/

namespace Registrar

structure Disk where
  current : String
  directories : List (List String)
  files : List (List String)
deriving DecidableEq, Repr

namespace Disk

def hasFile (disk : Disk) (place : List String) : Bool :=
  disk.files.contains place

def hasDirectory (disk : Disk) (place : List String) : Bool :=
  place.isEmpty || disk.directories.contains place

def place (disk : Disk) (path : String) : List String :=
  Path.place disk.current path

def has (disk : Disk) (path : String) : Bool :=
  disk.hasFile (disk.place path) || disk.hasDirectory (disk.place path)

/-- A name holds at most 255 octets, and no NUL among them. -/
def isName (name : String) : Bool :=
  name.utf8ByteSize ≤ 255 && !name.toList.contains (Char.ofNat 0)

def lineage (place : List String) : List (List String) :=
  (List.range (place.length + 1)).map place.take

def makeDirectory? (disk : Disk) (place : List String) : Option Disk :=
  if (lineage place).any disk.hasFile || !place.all isName then none
  else
    let missing := (lineage place).filter fun ancestor => !disk.hasDirectory ancestor
    some { disk with directories := disk.directories ++ missing }

/-- Makes the directories that a path leads through one after the other, also those it leaves again by two dots. -/
def makeDirectories? (disk : Disk) (parts : List String) : Option Disk :=
  (lineage parts).foldlM (fun disk parts => disk.makeDirectory? (Path.resolve parts)) disk

def makeWay? (disk : Disk) (path : String) : Option Disk :=
  disk.makeDirectories? (Path.parts (Path.join disk.current path))

def makeAbove? (disk : Disk) (path : String) : Option Disk :=
  match Path.parent? (Path.join disk.current path) with
  | some parts => disk.makeDirectories? parts
  | none => some disk

/-- Makes an empty file unless it exists; fails if its directory is missing or a directory is in its place. -/
def makeFile? (disk : Disk) (place : List String) : Option Disk :=
  if disk.hasDirectory place || !place.all isName then none
  else if disk.hasFile place then some disk
  else if disk.hasDirectory place.dropLast then some { disk with files := disk.files ++ [place] }
  else none

end Disk

end Registrar
