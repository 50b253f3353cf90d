import Registrar.Catalog
import Registrar.Cursor
import Registrar.Json.Access
import Registrar.Order.Terms

/-!
JSON forms of typed values, rows, field specifications and order terms, for tools that record and
replay listings.
-/

namespace Registrar

open Time Json

def Time.Instant.ofJson (value : Json) : Except String Instant := do
  match Instant.read (← value.toText) with
  | .ok moment => return moment
  | .error fault => .error fault.message

namespace Value

def ofJson : Json → Except String Value
  | .null => .ok .null
  | .obj [("s", .str content)] => .ok (.text content)
  | .obj [("t", moment)] => .instant <$> Instant.ofJson moment
  | _ => .error "typed value expected"

def json : Value → Json
  | .null => .null
  | .text content => .obj [("s", .str content)]
  | .instant moment => .obj [("t", .str moment.text)]

end Value

def FieldRow.ofJson (value : Json) : Except String FieldRow := do
  return ⟨← (← value.toMembers).mapM fun member => return (member.1, ← Value.ofJson member.2)⟩

def SortOrder.ofJson (value : Json) : Except String SortOrder := do
  match SortOrder.ofName? (← value.toText) with
  | some order => return order
  | none => .error "order expected"

def Direction.ofJson (value : Json) : Except String Direction := do
  match Direction.ofMarker? (← value.toText) with
  | some direction => return direction
  | none => .error "direction expected"

namespace FieldSpec

def ofJson : Json → Except String FieldSpec
  | .str name => .ok (.identifier name)
  | value => do
    let name ← value.textOf "name"
    let spec : FieldSpec ←
      match ← value.textOf "kind" with
      | "identifier" => pure (.identifier name)
      | "string" => pure (.text name)
      | "timestamp" => pure (.instant name)
      | _ => .error "kind expected"
    return { spec with nullable := ← (value.field "nullable").toBool spec.nullable }

def members (spec : FieldSpec) : List (String × Json) :=
  [("name", .str spec.name), ("kind", .str spec.kind.name), ("nullable", .bool spec.nullable)]

def json (spec : FieldSpec) : Json :=
  .obj spec.members

end FieldSpec

def SortKey.json (key : SortKey) : Json :=
  .obj (("key", .str (if key.isIdentifier then "identifier" else "attribute")) ::
    key.field.members)

def Cursor.ofJson (value : Json) : Except String Cursor := do
  return ⟨← Value.ofJson (value.field "id"), ← Value.ofJson (value.field "value")⟩

def Cursor.json (cursor : Cursor) : Json :=
  .obj [("id", cursor.id.json), ("value", cursor.value.json)]

def OrderTerm.listOfJson (value : Json) : Except String (List OrderTerm) := do
  (← value.toItems).mapM fun
    | .arr [.str name, order] => return ⟨name, ← SortOrder.ofJson order⟩
    | _ => .error "order term expected"

def OrderTerm.listJson (terms : List OrderTerm) : Json :=
  .arr (terms.map fun term =>
    .arr [.str term.field, .str term.order.name, .str term.nulls.name])

end Registrar
