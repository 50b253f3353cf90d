import Registrar.Catalog

/-!
Cursors: the anchor row of a page, given by its identifier and its value of the sort field.
-/

namespace Registrar

/-- The place between two pages, just at the row with this identifier and sort value. -/
structure Cursor where
  id : Value
  value : Value
deriving DecidableEq, Repr

namespace Cursor

/-- A value that does not read back makes the cursor invalid; other failures stay as they are. -/
def refusal : ListError → ListError
  | .invalidSortValue field reason => .invalidCursor s!"anchor value for '{field}': {reason}"
  | other => other

def parseAnchor (catalog : Catalog) (raw name : String) : Except ListError Value :=
  (catalog.parseValue raw name).mapError refusal

/-- Reads a cursor from raw texts. Without a value the anchor's sort value is null, and a listing by identifier needs none. -/
def decode (catalog : Catalog) (key : SortKey) (rawId : String) (rawValue : Option String) :
    Except ListError Cursor := do
  if rawId.isEmpty then
    .error (.invalidCursor "anchor identifier must not be empty")
  let id ← parseAnchor catalog rawId catalog.identifier.name
  let value ←
    match key, rawValue with
    | .identifier _, _ => pure .null
    | .attribute _, none => pure .null
    | .attribute field, some raw => parseAnchor catalog raw field.name
  return ⟨id, value⟩

end Cursor

def Direction.parse (marker : String) : Except ListError Direction :=
  match Direction.ofMarker? marker with
  | some direction => .ok direction
  | none => .error (.invalidCursor s!"unknown direction marker '{marker}'")

def Cursor.decodeWith (catalog : Catalog) (key : SortKey) (marker rawId : String)
    (rawValue : Option String) : Except ListError (Direction × Cursor) := do
  let direction ← Direction.parse marker
  let cursor ← Cursor.decode catalog key rawId rawValue
  return (direction, cursor)

end Registrar
