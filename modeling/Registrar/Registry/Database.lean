import Registrar.Registry.Table

/-!
The stores of all kinds of records together, and a database with a table for each.
-/

namespace Registrar

@[reducible] def Stores : Interface :=
  ⟨(kind : ResourceKind) × RepositoryCall kind, fun request => request.2.Reply⟩

def Program.inStores {kind : ResourceKind} {α : Type} (program : Program (Repository kind) α) :
    Program Stores α :=
  program.expand fun request => .call (I := Stores) ⟨kind, request⟩ .done

structure Database where
  users : List (Record .user)
  tenants : List (Record .tenant)
  roles : List (Record .role)
  permissions : List (Record .permission)
deriving DecidableEq, Repr

namespace Database

def empty : Database :=
  ⟨[], [], [], []⟩

def rows (database : Database) : (kind : ResourceKind) → List (Record kind)
  | .user => database.users
  | .tenant => database.tenants
  | .role => database.roles
  | .permission => database.permissions

def setRows (database : Database) : (kind : ResourceKind) → List (Record kind) → Database
  | .user, rows => { database with users := rows }
  | .tenant, rows => { database with tenants := rows }
  | .role, rows => { database with roles := rows }
  | .permission, rows => { database with permissions := rows }

/-- The answers of a SQLite database, each call being carried out without a pause. -/
def sqlite : Stores.Handler Database
  | ⟨kind, request⟩, database =>
    let (reply, rows) :=
      (RecordTable.carryOut Sql.Backend.sqlite.dialect request).run RecordTable.sqlite
        (database.rows kind)
    (reply, database.setRows kind rows)

end Database

end Registrar
