import Registrar.Files.Disk
import Registrar.Settings.Environment
import Registrar.Settings.Server
import Registrar.Yaml.Reader

/-!
Loading the settings: standard ones, a file laid over them, and environment variables laid over both.
The home directory becomes an absolute path and is made.
-/

namespace Registrar.Settings

open Text

structure Surroundings where
  disk : Disk
  /-- The texts of the files that are texts. -/
  texts : List (List String × String)
  userHome : Option String
  /-- The variables of the environment with their values. -/
  environment : List (String × String)

inductive LoadFault where
  | missing (path : String)
  | invalid (path : String)
  | noHome (standard : Bool)
deriving DecidableEq, Repr

def LoadFault.message : LoadFault → String
  | .missing path => s!"config file not found: {path}"
  | .invalid path => s!"invalid configuration in {path}"
  | .noHome standard => "Failed to resolve server.home_dir" ++ if standard then " (defaults)" else ""

/-- The path of the home directory. A tilde stands for the home of the user, a blank path for a directory below it. -/
def homePath? (userHome : Option String) (current path : String) : Option String :=
  if isBlankText path then userHome.map fun home => Path.join home ".warden"
  else if path = "~" then userHome
  else
    match after? "~/" path with
    | some rest => userHome.map fun home => Path.join home rest
    | none => some (Path.join current path)

namespace Configuration

def layered (members : List (String × Json)) (environment : List (String × String)) :
    Except Misfit Configuration :=
  decode ((bare.json.overlay (.obj members)).overlay (ofEnvironment environment)).document

def ofFile (path : String) (surroundings : Surroundings) : Except LoadFault Configuration :=
  let place := surroundings.disk.place path
  if !surroundings.disk.hasFile place then .error (.missing path)
  else
    match (surroundings.texts.lookup place).bind Yaml.mapping? with
    | none => .error (.invalid path)
    | some members => (layered members surroundings.environment).mapError fun _ => .invalid path

def settled? (settings : Configuration) (userHome : Option String) (disk : Disk) :
    Option (Configuration × Disk) := do
  let home ← homePath? userHome disk.current settings.server.homeDirectory
  let disk ← disk.makeWay? home
  some ({ settings with server := { settings.server with homeDirectory := home } }, disk)

/-- Loads the settings of a file, or the standard ones. Environment variables count only with a file. -/
def load (path : Option String) (surroundings : Surroundings) :
    Except LoadFault (Configuration × Disk) := do
  let settings ←
    match path with
    | some path => ofFile path surroundings
    | none => .ok standard
  match settings.settled? surroundings.userHome surroundings.disk with
  | some settled => .ok settled
  | none => .error (.noHome path.isNone)

end Configuration

end Registrar.Settings
