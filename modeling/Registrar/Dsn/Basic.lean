import Registrar.Files.Path
import Registrar.Sql.Dialect
import Registrar.Text.Blank

/-!
Data source names: the database they speak of, hiding passwords in them, and making the paths of
SQLite files absolute.
-/

namespace Registrar.Dsn

open Text

inductive DsnError where
  | unknown (redacted : String)
  | notSqlite (dsn : String)
  | emptyPath
deriving DecidableEq, Repr

def DsnError.message : DsnError → String
  | .unknown redacted => s!"Unknown DSN: {redacted}"
  | .notSqlite dsn => s!"DSN must start with sqlite: (got: {dsn})"
  | .emptyPath => "Empty SQLite path in DSN"

/-- The name with its password replaced by stars. The password stands between the first colon after `://` and the first at sign. -/
def redact (dsn : String) : String :=
  match cut? "://" dsn with
  | none => dsn
  | some (scheme, rest) =>
    match cut? "@" rest with
    | none => dsn
    | some (user, host) =>
      match cut? ":" user with
      | none => dsn
      | some (name, _) => scheme ++ "://" ++ name ++ ":***@" ++ host

def backend (dsn : String) : Except DsnError Sql.Backend :=
  let dsn' := trimStart dsn
  if leads "postgres://" dsn' || leads "postgresql://" dsn' then .ok .postgres
  else if leads "mysql://" dsn' then .ok .mysql
  else if leads "sqlite:" dsn' then .ok .sqlite
  else .error (.unknown (redact dsn))

def asksForMemory (dsn : String) : Bool :=
  Text.contains dsn ":memory:" || Text.contains dsn "mode=memory"

/-- What follows `sqlite:`, and two slashes after it if they are there. -/
def sqliteRest? (dsn : String) : Option String :=
  match after? "sqlite://" dsn with
  | some rest => some rest
  | none => after? "sqlite:" dsn

def splitQuery (rest : String) : String × String :=
  match cut? "?" rest with
  | some (path, query) => (path, "?" ++ query)
  | none => (rest, "")

def forwardSlashes (path : String) : String :=
  path.map fun c => if c = '\\' then '/' else c

/-- The name with an absolute path in place of a relative one; names of databases in memory stay as they are. -/
def absolutize (dsn base : String) : Except DsnError String :=
  if asksForMemory dsn then .ok dsn
  else
    match sqliteRest? dsn with
    | none => .error (.notSqlite dsn)
    | some rest =>
      let (path, query) := splitQuery rest
      if path.isEmpty then .error .emptyPath
      else .ok ("sqlite://" ++ forwardSlashes (Path.join base path) ++ query)

end Registrar.Dsn
