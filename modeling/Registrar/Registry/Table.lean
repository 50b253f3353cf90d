import Registrar.Registry.Repository
import Registrar.Resource.Storage
import Registrar.Sql.Sqlite

/-!
Stores over a table of a database: the statements that carry out each call, and the answers of
SQLite to them.
-/

namespace Registrar

structure StatementFault where
  reason : String
  keyTaken : Bool
deriving DecidableEq, Repr

inductive Statement (kind : ResourceKind) where
  | find (id : String)
  | insert (record : Record kind)
  | update (record : Record kind)
  | delete (id : String)
  | scan (select : Sql.Select)

/-- Updates and deletions tell how many rows they affect. -/
@[reducible] def Statement.Reply {kind : ResourceKind} : Statement kind → Type
  | .find _ => Except StatementFault (Option (Record kind))
  | .insert _ => Except StatementFault Unit
  | .update _ => Except StatementFault Nat
  | .delete _ => Except StatementFault Nat
  | .scan _ => ScanOutcome (Record kind)

@[reducible] def RecordTable (kind : ResourceKind) : Interface :=
  ⟨Statement kind, Statement.Reply⟩

namespace RecordTable

variable {kind : ResourceKind}

def find (id : String) : Program (RecordTable kind) (Except StoreFault (Option (Record kind))) :=
  .call (.find id) fun
    | .ok found => .done (.ok found)
    | .error fault => .done (.error (.failure [s!"find {kind.name} failed", fault.reason]))

def insert (record : Record kind) : Program (RecordTable kind) (Except StoreFault Unit) :=
  .call (.insert record) fun
    | .ok () => .done (.ok ())
    | .error fault =>
      .done (.error (if fault.keyTaken then .duplicateKey else .failure ["insert failed", fault.reason]))

/-- Writes all columns of a row. Some databases count only rows that change, so that a row is looked for when none was affected. -/
def update (record : Record kind) : Program (RecordTable kind) (Except StoreFault Bool) :=
  .call (.update record) fun
    | .error fault => .done (.error (.failure ["update failed", fault.reason]))
    | .ok affected =>
      if 0 < affected then .done (.ok true)
      else (find record.id).bind fun found => .done (found.map Option.isSome)

def delete (id : String) : Program (RecordTable kind) (Except StoreFault Bool) :=
  .call (.delete id) fun
    | .error fault => .done (.error (.failure ["delete failed", fault.reason]))
    | .ok affected => .done (.ok (0 < affected))

def page (dialect : Sql.Dialect) (query : ListQuery) (deadline : Option Nat) :
    Program (RecordTable kind) (Except ListError (Page (Record kind))) :=
  let (request, plan) := RangeRequest.assemble kind.catalog query query.fetchCount
  match Sql.Select.build kind.table kind.fields dialect request with
  | .error fault => .done (.error fault.listError)
  | .ok select => .call (.scan select) fun outcome => .done (query.conclude plan deadline outcome)

def carryOut (dialect : Sql.Dialect) :
    (request : RepositoryCall kind) → Program (RecordTable kind) request.Reply
  | .find id => find id
  | .insert record => insert record
  | .update record => update record
  | .delete id => delete id
  | .page query deadline => page dialect query deadline

/-- The answers of SQLite from the rows of a table; what its statements take no time to do is done at once. -/
def sqlite : (RecordTable kind).Handler (List (Record kind))
  | .find id, rows => (.ok (rows.find? (·.id = id)), rows)
  | .insert record, rows =>
    if rows.any (·.id = record.id) then
      (.error ⟨s!"UNIQUE constraint failed: {kind.collection}.{kind.idColumn}", true⟩, rows)
    else (.ok (), rows ++ [record])
  | .update record, rows =>
    (.ok (rows.countP (·.id = record.id)),
      rows.map fun row => if row.id = record.id then record else row)
  | .delete id, rows => (.ok (rows.countP (·.id = id)), rows.filter (·.id ≠ id))
  | .scan select, rows =>
    let cell (row : Record kind) (column : String) := Sql.Sqlite.stored (row.cell column)
    (⟨.ok (select.run Sql.Sqlite.semantics cell rows), 0⟩, rows)

end RecordTable

end Registrar
