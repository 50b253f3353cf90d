import Registrar.Dsn.Basic
import Registrar.Files.Disk
import Registrar.Text.Form

/-!
What a data source name says about an SQLite database: its file, and how the file is opened.
-/

namespace Registrar.Dsn

open Text

structure SqliteSource where
  file : String
  inMemory : Bool
  readOnly : Bool
  createMissing : Bool
  immutable : Bool
  /-- The layer between the engine and the file system, if it is not the usual one. -/
  layer : Option String
deriving DecidableEq, Repr

def dropLeads (lead text : List Char) : List Char :=
  match _ : dropLead lead text with
  | some rest => if lead.isEmpty then text else dropLeads lead rest
  | none => text
termination_by text.length
decreasing_by
  have split := dropLead_eq_some_iff.mp ‹_›
  cases lead with
  | nil => simp_all
  | cons c lead =>
    rw [split, List.length_append, List.length_cons]
    omega

namespace SqliteSource

def ofFile (file : String) : SqliteSource :=
  ⟨file, false, false, false, false, none⟩

def set? (source : SqliteSource) (option : String × String) : Option SqliteSource :=
  match option.1, option.2 with
  | "mode", "ro" => some { source with readOnly := true }
  | "mode", "rw" => some source
  | "mode", "rwc" => some { source with createMissing := true }
  | "mode", "memory" => some { source with inMemory := true }
  | "cache", "private" => some source
  | "cache", "shared" => some source
  | "immutable", "true" => some { source with immutable := true }
  | "immutable", "1" => some { source with immutable := true }
  | "immutable", "false" => some { source with immutable := false }
  | "immutable", "0" => some { source with immutable := false }
  | "vfs", layer => some { source with layer := some layer }
  | _, _ => none

def named? (file : String) : Option SqliteSource :=
  if file = ":memory:" then some { ofFile file with inMemory := true }
  else (unescaped? file).map ofFile

def read? (dsn : String) : Option SqliteSource :=
  let rest := String.ofList (dropLeads "//".toList (dropLeads "sqlite:".toList dsn.toList))
  match cut? "?" rest with
  | none => named? rest
  | some (file, options) => do (formPairs options).foldlM set? (← named? file)

/-- The layers that the engine knows; the last one keeps files in memory. -/
def layers : List String :=
  ["unix", "unix-none", "unix-dotfile", "unix-excl", "memdb"]

def isVolatile (source : SqliteSource) : Bool :=
  source.inMemory || source.layer == some "memdb"

/-- The path of a file that is written as a locator: what follows its host, which can only be the machine itself. -/
def locatorPath? (rest : List Char) : Option String :=
  let path :=
    match dropLead "//".toList rest with
    | none => some rest
    | some rest =>
      let host := String.ofList (rest.takeWhile (· ≠ '/'))
      if host = "" ∨ host = "localhost" then some (rest.dropWhile (· ≠ '/')) else none
  path.bind fun path => unescaped? (String.ofList (path.takeWhile fun c => c ≠ '?' && c ≠ '#'))

/-- The path of the file. A name that begins with `file:` is a locator unless an option is passed along with it. -/
def path? (source : SqliteSource) : Option String :=
  match after? "file:" source.file with
  | some rest =>
    if source.immutable || source.layer.isSome then some source.file else locatorPath? rest.toList
  | none => some source.file

/-- Whether the database can be changed. What is not kept on the disk is never immutable. -/
def isWritable (source : SqliteSource) : Bool :=
  !source.readOnly && (source.isVolatile || !source.immutable)

/-- Opens the database on a disk, where a missing file may have to be made. A database without a name is a temporary one. -/
def openOn? (source : SqliteSource) (disk : Disk) : Option Disk := do
  guard (source.layer.all layers.contains && !source.file.toList.contains (Char.ofNat 0))
  let path ← source.path?
  if source.isVolatile || path.isEmpty then some disk
  else
    let place := disk.place path
    if disk.hasFile place then some disk
    else if source.createMissing && !source.readOnly then disk.makeFile? place
    else none

end SqliteSource

end Registrar.Dsn
