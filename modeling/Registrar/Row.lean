import Registrar.Value

/-!
Rows as the listing engine sees them: a value for every field name.
-/

namespace Registrar

/-- Types whose members have a value for every field name. -/
class Row (ρ : Type) where
  value : ρ → String → Value

structure FieldRow where
  fields : List (String × Value)
deriving DecidableEq, Repr

def FieldRow.value (row : FieldRow) (field : String) : Value :=
  (row.fields.lookup field).getD .null

instance : Row FieldRow where
  value := FieldRow.value

end Registrar
