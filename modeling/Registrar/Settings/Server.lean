import Registrar.Log.Settings
import Registrar.Settings.Module

/-!
The settings of the whole program: the server, its database, its logging, and those of its modules.
-/

namespace Registrar.Settings

open Time

structure ServerSettings where
  homeDirectory : String
  host : String
  port : UInt16
  requestTimeout : Span
deriving DecidableEq, Repr

namespace ServerSettings

/-- The settings of a server on the local machine. An empty home directory stands for the usual one. -/
def standard : ServerSettings :=
  ⟨"", "127.0.0.1", 8087, .ofSeconds 30⟩

def readField (name : String) (document : Document) (settings : ServerSettings) :
    Except Misfit ServerSettings := do
  if name = "home_dir" then return { settings with homeDirectory := ← document.asText }
  else if name = "host" then return { settings with host := ← document.asText }
  else if name = "port" then return { settings with port := .ofNat (← document.asNat 16) }
  else return { settings with requestTimeout := ← readSpan document }

def decode (document : Document) : Except Misfit ServerSettings :=
  document.asRecord
    ⟨"ServerConfig", ["home_dir", "host", "port", "request_timeout"], ["host", "port"], true⟩
    readField standard

def json (settings : ServerSettings) : Json :=
  .obj [("home_dir", .str settings.homeDirectory), ("host", .str settings.host),
    ("port", .int settings.port.toNat), ("request_timeout", .str settings.requestTimeout.text)]

end ServerSettings

structure DatabaseSettings where
  url : String
  maxConnections : Option Nat
  acquireTimeout : Option Span
deriving DecidableEq, Repr

namespace DatabaseSettings

def standard : DatabaseSettings :=
  ⟨"sqlite://database/warden.db?mode=rwc", some 10, some (.ofSeconds 5)⟩

def readField (name : String) (document : Document) (settings : DatabaseSettings) :
    Except Misfit DatabaseSettings := do
  let natOrNull (document : Document) : Except Misfit (Option Nat) :=
    match document with
    | .null => .ok none
    | other => some <$> other.asNat 32
  if name = "url" then return { settings with url := ← document.asText }
  else if name = "max_conns" then return { settings with maxConnections := ← natOrNull document }
  else return { settings with acquireTimeout := ← readSpanOrNull document }

def decode (document : Document) : Except Misfit DatabaseSettings :=
  document.asRecord ⟨"DatabaseConfig", ["url", "max_conns", "acquire_timeout"], ["url"], true⟩
    readField ⟨"", none, none⟩

def json (settings : DatabaseSettings) : Json :=
  .obj [("url", .str settings.url),
    ("max_conns", settings.maxConnections.elim .null fun count => .int count),
    ("acquire_timeout", spanJson settings.acquireTimeout)]

end DatabaseSettings

/-- The settings of the whole program. Those of a module are kept as they were written. -/
structure Configuration where
  server : ServerSettings
  database : Option DatabaseSettings
  logging : Option Log.Settings
  modules : List (String × Json)

namespace Configuration

def standard : Configuration :=
  ⟨.standard, some .standard, some .standard, []⟩

/-- What a file of settings is laid over. -/
def bare : Configuration :=
  ⟨.standard, none, none, []⟩

def readOrNull {α : Type} (read : Document → Except Misfit α) : Document → Except Misfit (Option α)
  | .null => .ok none
  | document => some <$> read document

def readModules : Document → Except Misfit (List (String × Json))
  | .obj members closed =>
    match Document.memberJsons? members with
    | some modules => if closed then .ok modules else .error .unreadable
    | none => .error .unreadable
  | other => .error (other.mistyped "a map")

def readField (name : String) (document : Document) (settings : Configuration) :
    Except Misfit Configuration := do
  if name = "server" then return { settings with server := ← ServerSettings.decode document }
  else if name = "database" then
    return { settings with database := ← readOrNull DatabaseSettings.decode document }
  else if name = "logging" then
    return { settings with logging := ← readOrNull Log.Settings.decode document }
  else return { settings with modules := ← readModules document }

def decode (document : Document) : Except Misfit Configuration :=
  document.asRecord ⟨"AppConfig", ["server", "database", "logging", "modules"], ["server"], true⟩
    readField bare

def json (settings : Configuration) : Json :=
  .obj [("server", settings.server.json),
    ("database", settings.database.elim .null DatabaseSettings.json),
    ("logging", settings.logging.elim .null Log.Settings.json),
    ("modules", .obj settings.modules)]

end Configuration

end Registrar.Settings
