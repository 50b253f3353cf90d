import Registrar.Dsn.Connection
import Registrar.Net.Address
import Registrar.Settings.Server

/-!
What the settings come to: the terms of the registry, the name of the data source and the address to
listen on. `Configuration.check` looks at them without using any of them.
-/

namespace Registrar.Settings

open Text

inductive SettingsFault where
  | noDatabase
  | noUrl
  | badDsn (fault : Dsn.DsnError)
  | badModule (name : String)
  | badPageSizes (fault : ModuleSettings.PageSizeFault)
  | noTime
  | badHost (host : String)
deriving DecidableEq, Repr

def SettingsFault.message : SettingsFault → String
  | .noDatabase => "database section is not configured"
  | .noUrl => "Database URL not configured"
  | .badDsn fault => fault.message
  | .badModule name => s!"invalid configuration for module '{name}'"
  | .badPageSizes fault => fault.message
  | .noTime => "server.request_timeout must be positive"
  | .badHost host => s!"invalid bind address {host}"

namespace Configuration

def registryName : String :=
  "authz_data"

def registry (settings : Configuration) : Except SettingsFault ModuleSettings :=
  let decoded : Except Misfit ModuleSettings :=
    match settings.modules.lookup registryName with
    | none => .ok .standard
    | some value => ModuleSettings.decode value.document
  match decoded with
  | .error _ => .error (.badModule registryName)
  | .ok registry =>
    match registry.validate with
    | .ok () => .ok registry
    | .error fault => .error (.badPageSizes fault)

def databaseSettings (settings : Configuration) : Except SettingsFault DatabaseSettings :=
  match settings.database with
  | none => .error .noDatabase
  | some database => if isBlankText database.url then .error .noUrl else .ok database

/-- The name of the data source. The path of an SQLite file is taken from the home directory. -/
def dsn (settings : Configuration) : Except SettingsFault String := do
  let url := trim (← settings.databaseSettings).url
  if leads "sqlite:" url then
    (Dsn.absolutize url settings.server.homeDirectory).mapError .badDsn
  else .ok url

def backend (settings : Configuration) : Except SettingsFault Sql.Backend := do
  (Dsn.backend (← settings.dsn)).mapError .badDsn

/-- How connections to the database are made: ten at most, within thirty seconds, unless the settings say otherwise. -/
def pool (database : DatabaseSettings) : Dsn.PoolSettings where
  maxConnections := database.maxConnections <|> some 10
  acquireTimeout := (database.acquireTimeout.getD (.ofSeconds 30)).nanoseconds
  makeDirectories := true

def address (settings : Configuration) : Except SettingsFault Net.SocketAddress :=
  match Net.SocketAddress.parse? s!"{settings.server.host}:{settings.server.port}" with
  | some address => .ok address
  | none => .error (.badHost settings.server.host)

def check (settings : Configuration) : Except SettingsFault Sql.Backend := do
  let backend ← settings.backend
  let _ ← settings.registry
  if settings.server.requestTimeout = .zero then .error .noTime else .ok backend

end Configuration

end Registrar.Settings
