import Registrar.Json.Decode
import Registrar.Text.Blank

/-!
Logging settings: one section per subsystem, and the section `default` for all others.
-/

namespace Registrar.Log

/-- The settings of one subsystem; an empty file name means no file. -/
structure Section where
  consoleLevel : String
  file : String
  fileLevel : String
  maxBackups : Option Nat
  maxSizeMb : Option Nat
deriving DecidableEq, Repr

namespace Section

def hasFile (settings : Section) : Bool :=
  !Text.isBlankText settings.file

def readField (name : String) (document : Document) (settings : Section) :
    Except Misfit Section := do
  let natOrNull (document : Document) : Except Misfit (Option Nat) :=
    match document with
    | .null => .ok none
    | other => some <$> other.asNat 64
  if name = "console_level" then return { settings with consoleLevel := ← document.asText }
  else if name = "file" then return { settings with file := ← document.asText }
  else if name = "file_level" then return { settings with fileLevel := ← document.asText }
  else if name = "max_backups" then return { settings with maxBackups := ← natOrNull document }
  else return { settings with maxSizeMb := ← natOrNull document }

def decode (document : Document) : Except Misfit Section :=
  document.asRecord
    ⟨"Section", ["console_level", "file", "file_level", "max_backups", "max_size_mb"],
      ["console_level"], false⟩
    readField ⟨"", "", "", none, none⟩

def json (settings : Section) : Json :=
  let count (number : Option Nat) : Json := number.elim .null fun n => .int n
  .obj [("console_level", .str settings.consoleLevel), ("file", .str settings.file),
    ("file_level", .str settings.fileLevel), ("max_backups", count settings.maxBackups),
    ("max_size_mb", count settings.maxSizeMb)]

end Section

structure Settings where
  sections : List (String × Section)
deriving DecidableEq, Repr

namespace Settings

def defaultName : String :=
  "default"

def get? (settings : Settings) (name : String) : Option Section :=
  settings.sections.lookup name

def named (settings : Settings) : List (String × Section) :=
  settings.sections.filter fun entry => entry.1 != defaultName

def standard : Settings :=
  ⟨[(defaultName, ⟨"info", "logs/warden.log", "debug", some 3, some 100⟩)]⟩

def decodeMembers : List (String × Document) → Except Misfit (List (String × Section))
  | [] => .ok []
  | (name, document) :: members => do
    let settings ← (Section.decode document).mapError (·.within name)
    let rest ← decodeMembers members
    return (name, settings) :: rest

def decode : Document → Except Misfit Settings
  | .obj members closed => do
    let sections ← decodeMembers members
    if closed then return ⟨sections⟩ else .error .unreadable
  | other => .error (other.mistyped "a map")

def json (settings : Settings) : Json :=
  .obj (settings.sections.map fun entry => (entry.1, entry.2.json))

end Settings

end Registrar.Log
