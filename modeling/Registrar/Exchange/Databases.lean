import Registrar.Exchange.Requests
import Registrar.Resource.Storage
import Registrar.Schema.Migration
import Registrar.Sql.Statement

/-!
JSON forms of databases: backends, dialects, column maps, bound values and schemas.
-/

namespace Registrar

open Json

namespace Sql

def Backend.ofJson (value : Json) : Except String Backend := do
  match ← value.toText with
  | "sqlite" => return .sqlite
  | "postgres" => return .postgres
  | "mysql" => return .mysql
  | _ => .error "backend expected"

def Backend.title : Backend → String
  | .sqlite => "Sqlite"
  | .postgres => "Postgres"
  | .mysql => "MySql"

def Dialect.ofJson (value backend : Json) : Except String Dialect := do
  match value with
  | .null => return (← Backend.ofJson backend).dialect
  | _ => return ⟨← (value.field "low").toBool false, ← (value.field "clause").toBool false⟩

def FieldMap.ofJson (kind : ResourceKind) : Json → Except String FieldMap
  | .null => .ok kind.fields
  | value => do
    (← value.toItems).foldlM (fun fields entry =>
      match entry with
      | .arr [.str name, .str column, .bool nullable] => .ok (fields.insert name column nullable)
      | _ => .error "field mapping expected") FieldMap.empty

def Bound.json : Bound → Json
  | .text content => .obj [("s", .str content)]
  | .instant moment => .obj [("t", .str moment.text)]
  | .count number => .obj [("n", .str (toString number))]

end Sql

namespace Schema

def Column.json (column : Column) : Json :=
  .obj [("name", .str column.name), ("type", .str column.type.name), ("not_null", .bool column.required),
    ("primary_key", .bool column.key)]

def Index.json (index : Index) : Json :=
  .obj [("name", .str index.name), ("columns", ofTexts index.columns)]

def json (schema : Schema) : Json :=
  .arr ((schema.tables.mergeSort fun a b => a.name ≤ b.name).map fun table =>
    let indexes := (schema.indexes.filter (·.table = table.name)).mergeSort fun a b => a.name ≤ b.name
    .obj [("table", .str table.name), ("columns", .arr (table.columns.map Column.json)),
      ("indexes", .arr (indexes.map Index.json))])

end Schema

end Registrar
