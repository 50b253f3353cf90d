import Registrar.CommandLine.Arguments
import Registrar.Log.Routing
import Registrar.Settings.Load
import Registrar.Settings.Resolved

/-!
A run of the program from its arguments to its end: what it prints, with which code it exits, and what
it leaves on the disk. A server that listens does not come to an end.
-/

namespace Registrar

open CommandLine Settings

namespace Settings.Configuration

/-- The settings with those that the arguments override. Asking for more output changes what is shown on the console. -/
def overriddenBy (settings : Configuration) (invocation : Invocation) : Configuration :=
  let raised (entry : Log.Section) : Log.Section :=
    match invocation.verbosity with
    | 0 => entry
    | 1 => { entry with consoleLevel := "debug" }
    | _ => { entry with consoleLevel := "trace" }
  let logging := (settings.logging.getD .standard).sections.map fun entry =>
    if entry.1 = Log.Settings.defaultName then (entry.1, raised entry.2) else entry
  { settings with
    server := { settings.server with port := invocation.port.getD settings.server.port }
    logging := some ⟨logging⟩ }

end Settings.Configuration

namespace CommandLine

inductive Ending where
  | misused (fault : UsageFault)
  | failed (reason : String)
  | shown (settings : Configuration)
  | checked (settings : Configuration)
  | migrated
  | serving (address : Net.SocketAddress)

namespace Ending

def code : Ending → Nat
  | .misused .help => 0
  | .misused .version => 0
  | .misused _ => 2
  | .failed _ => 1
  | _ => 0

def error? : Ending → Option String
  | .failed reason => some reason
  | _ => none

def settings? : Ending → Option Configuration
  | .shown settings => some settings
  | .checked settings => some settings
  | _ => none

end Ending

/-- A step that may fail, with the disk as it is before and after it. -/
abbrev Step (α : Type) :=
  ExceptT String (StateM Disk) α

def resolve {α : Type} (found : Except SettingsFault α) : Step α :=
  match found with
  | .ok value => pure value
  | .error fault => throw fault.message

def connect (settings : Configuration) : Step Dsn.Connection := do
  let database ← resolve settings.databaseSettings
  let dsn ← resolve settings.dsn
  let (result, disk) := Dsn.connect dsn (Configuration.pool database) (← get)
  set disk
  match result with
  | .ok connection => pure connection
  | .error _ => throw "database connection failed"

def migrate (settings : Configuration) : Step Unit := do
  let connection ← connect settings
  if connection.writable then pure () else throw "authz_data migrations failed"

/-- Serves the registry; `binds` tells which addresses can be listened on. -/
def serve (binds : Net.SocketAddress → Bool) (settings : Configuration) : Step Ending := do
  let _ ← resolve settings.registry
  migrate settings
  let address ← resolve settings.address
  if binds address then pure (.serving address) else throw s!"failed to bind {address.text}"

def perform (binds : Net.SocketAddress → Bool) (settings : Configuration) : Command → Step Ending
  | .run => serve binds settings
  | .check => do
    let _ ← resolve settings.check
    pure (.checked settings)
  | .migrate => do
    migrate settings
    pure .migrated

/-- A run of the program. The log files are opened once the settings are known, unless these are only to be shown. -/
def start (binds : Net.SocketAddress → Bool) (surroundings : Surroundings) (arguments : List String) :
    Ending × Disk :=
  match parse arguments with
  | .error fault => (.misused fault, surroundings.disk)
  | .ok invocation =>
    match Configuration.load invocation.config surroundings with
    | .error fault => (.failed fault.message, surroundings.disk)
    | .ok (loaded, disk) =>
      let settings := loaded.overriddenBy invocation
      if invocation.printConfig then (.shown settings, disk)
      else
        let logging := settings.logging.getD ⟨[]⟩
        let disk := Log.openFiles logging settings.server.homeDirectory disk
        match (perform binds settings (invocation.command.getD .run)).run disk with
        | (.ok ending, disk) => (ending, disk)
        | (.error reason, disk) => (.failed reason, disk)

end CommandLine

end Registrar
