import Registrar.Resource.Storage
import Registrar.Schema.Basic

/-!
The migration that makes the tables of all kinds of records, and the ledger of migrations that were
applied. A migration is entered into the ledger when all of its statements have been carried out; one
that is interrupted before is run from its beginning the next time.
-/

namespace Registrar

open Schema

namespace ResourceKind

def idDefinition (kind : ResourceKind) : Column :=
  ⟨kind.idColumn, .text 128, true, true⟩

def textDefinition (name : String) : Column :=
  ⟨name, .text 255, false, false⟩

def createdDefinition : Column :=
  ⟨"created_at", .instant, true, false⟩

def tableSchema (kind : ResourceKind) : TableSchema where
  name := kind.collection
  columns :=
    [kind.idDefinition, textDefinition kind.labelColumn] ++
      (if kind.describes then [textDefinition "description"] else []) ++ [createdDefinition]

def listingIndex (kind : ResourceKind) (column : String) : Index :=
  ⟨s!"idx_{kind.collection}_{column}_id", kind.collection, [column, kind.idColumn]⟩

def listingIndexes (kind : ResourceKind) : List Index :=
  [kind.listingIndex kind.labelColumn, kind.listingIndex "created_at"]

end ResourceKind

structure Migration where
  name : String
  up : List Schema.Statement
  down : List Schema.Statement
deriving DecidableEq, Repr

namespace Migration

def createTables : Migration where
  name := "m20250101_000001_create_tables"
  up :=
    ResourceKind.all.map (fun kind => .createTable kind.tableSchema) ++
      (ResourceKind.all.flatMap ResourceKind.listingIndexes).map .createIndex
  down := ResourceKind.all.reverse.map fun kind => .dropTable kind.collection

end Migration

structure MigratedSchema where
  schema : Schema
  applied : List String
deriving DecidableEq, Repr

namespace MigratedSchema

def fresh : MigratedSchema :=
  ⟨.empty, []⟩

def migrate (state : MigratedSchema) (migration : Migration) : Except Fault Unit × MigratedSchema :=
  if migration.name ∈ state.applied then (.ok (), state)
  else
    match state.schema.run migration.up with
    | (schema, none) => (.ok (), ⟨schema, state.applied ++ [migration.name]⟩)
    | (schema, some fault) => (.error fault, { state with schema := schema })

/-- An attempt at a migration that is broken off after some of its statements. -/
def interrupted (state : MigratedSchema) (migration : Migration) (count : Nat) : MigratedSchema :=
  if migration.name ∈ state.applied then state
  else { state with schema := (state.schema.run (migration.up.take count)).1 }

def revert (state : MigratedSchema) (migration : Migration) : Except Fault Unit × MigratedSchema :=
  if migration.name ∉ state.applied then (.ok (), state)
  else
    match state.schema.run migration.down with
    | (schema, none) => (.ok (), ⟨schema, state.applied.erase migration.name⟩)
    | (schema, some fault) => (.error fault, { state with schema := schema })

end MigratedSchema

end Registrar
