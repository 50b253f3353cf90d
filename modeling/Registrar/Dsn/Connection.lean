import Registrar.Dsn.Locator
import Registrar.Dsn.Sqlite

/-!
Connecting to the database that a data source name speaks of. Only SQLite databases can be reached.
-/

namespace Registrar.Dsn

open Text

/-- How connections are made. Without a limit on their number there is one. -/
structure PoolSettings where
  maxConnections : Option Nat
  /-- How long a connection may take, in nanoseconds. -/
  acquireTimeout : Option Nat
  makeDirectories : Bool
deriving DecidableEq, Repr

inductive ConnectionFault where
  | unknown (redacted : String)
  | noDirectory
  | refused
deriving DecidableEq, Repr

structure Connection where
  backend : Sql.Backend
  dsn : String
  writable : Bool
deriving DecidableEq, Repr

def Connection.notice (connection : Connection) : Sql.Backend × String :=
  (connection.backend, redact connection.dsn)

/-- Makes the directory of an SQLite file. Databases in memory and names that are locators have none. -/
def prepare (dsn : String) (disk : Disk) : Option Disk :=
  let path := (splitQuery ((sqliteRest? dsn).getD dsn)).1
  if asksForMemory dsn || leads "file:" path then some disk else disk.makeAbove? path

/-- Whether a connection may be made at all: there is room for one, and time to make it. A database in memory always has room for one. -/
def PoolSettings.admits (pool : PoolSettings) (dsn : String) : Bool :=
  (asksForMemory dsn || pool.maxConnections != some 0) && pool.acquireTimeout != some 0

def openSqlite? (dsn : String) (pool : PoolSettings) (disk : Disk) : Option (Connection × Disk) := do
  guard (isLocator ((after? "sqlite:" dsn).getD dsn))
  let source ← SqliteSource.read? dsn
  guard (pool.admits dsn)
  let disk ← source.openOn? disk
  some (⟨.sqlite, dsn, source.isWritable⟩, disk)

/-- Connects to the database of a name. The disk may have changed also when that fails. -/
def connect (dsn : String) (pool : PoolSettings) (disk : Disk) :
    Except ConnectionFault Connection × Disk :=
  match backend dsn with
  | .error _ => (.error (.unknown (redact dsn)), disk)
  | .ok .sqlite =>
    let dsn := trimStart dsn
    match if pool.makeDirectories then prepare dsn disk else some disk with
    | none => (.error .noDirectory, disk)
    | some prepared =>
      match openSqlite? dsn pool prepared with
      | none => (.error .refused, prepared)
      | some (connection, opened) => (.ok connection, opened)
  | .ok _ => (.error .refused, disk)

end Registrar.Dsn
