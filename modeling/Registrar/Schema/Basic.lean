/-!
Database schemas and the statements that change them. A statement that cannot be carried out leaves
the schema as it is.
-/

namespace Registrar.Schema

inductive ColumnType where
  | text (length : Nat)
  | instant
deriving DecidableEq, Repr

def ColumnType.name : ColumnType → String
  | .text length => s!"varchar({length})"
  | .instant => "timestamp_with_timezone_text"

structure Column where
  name : String
  type : ColumnType
  required : Bool
  key : Bool
deriving DecidableEq, Repr

structure TableSchema where
  name : String
  columns : List Column
deriving DecidableEq, Repr

structure Index where
  name : String
  table : String
  columns : List String
deriving DecidableEq, Repr

/-- A statement that changes a schema. A table that exists already is left alone by its creation. -/
inductive Statement where
  | createTable (table : TableSchema)
  | createIndex (index : Index)
  | dropTable (name : String)
deriving DecidableEq, Repr

end Schema

structure Schema where
  tables : List Schema.TableSchema
  indexes : List Schema.Index
deriving DecidableEq, Repr

namespace Schema

def empty : Schema :=
  ⟨[], []⟩

def table? (schema : Schema) (name : String) : Option TableSchema :=
  schema.tables.find? (·.name = name)

def index? (schema : Schema) (name : String) : Option Index :=
  schema.indexes.find? (·.name = name)

inductive Fault where
  | noTable (name : String)
  | noColumn (name : String)
  | indexExists (name : String)
deriving DecidableEq, Repr

def Fault.message : Fault → String
  | .noTable name => s!"no such table: {name}"
  | .noColumn name => s!"no such column: {name}"
  | .indexExists name => s!"index {name} already exists"

def addIndex (schema : Schema) (index : Index) : Except Fault Schema :=
  if (schema.index? index.name).isSome then .error (.indexExists index.name)
  else
    match schema.table? index.table with
    | none => .error (.noTable index.table)
    | some table =>
      match index.columns.find? fun name => name ∉ table.columns.map (·.name) with
      | some name => .error (.noColumn name)
      | none => .ok { schema with indexes := schema.indexes ++ [index] }

def apply (schema : Schema) : Statement → Except Fault Schema
  | .createTable table =>
    if (schema.table? table.name).isSome then .ok schema
    else .ok { schema with tables := schema.tables ++ [table] }
  | .createIndex index => schema.addIndex index
  | .dropTable name =>
    if (schema.table? name).isNone then .error (.noTable name)
    else
      .ok { tables := schema.tables.filter (·.name ≠ name)
            indexes := schema.indexes.filter (·.table ≠ name) }

/-- Carries out statements one by one; those before a fault have been carried out all the same. -/
def run (schema : Schema) : List Statement → Schema × Option Fault
  | [] => (schema, none)
  | statement :: rest =>
    match schema.apply statement with
    | .ok schema => schema.run rest
    | .error fault => (schema, some fault)

end Schema

end Registrar
