import Registrar.Resource.Record
import Registrar.Sql.Select

/-!
The tables that hold records: one per kind, with a column for every part of a record.
-/

namespace Registrar

namespace ResourceKind

def idColumn : ResourceKind → String
  | .user => "user_id"
  | .tenant => "tenant_id"
  | .role => "role_id"
  | .permission => "permission_id"

def labelColumn (kind : ResourceKind) : String :=
  kind.labelField

def table (kind : ResourceKind) : Sql.Table where
  name := kind.collection
  columns :=
    [kind.idColumn, kind.labelColumn] ++ (if kind.describes then ["description"] else []) ++
      ["created_at"]

def fields (kind : ResourceKind) : Sql.FieldMap :=
  ((Sql.FieldMap.empty.insert kind.idField kind.idColumn false).insert kind.labelField
    kind.labelColumn true).insert "createdAt" "created_at" false

end ResourceKind

def Record.cell {kind : ResourceKind} (record : Record kind) (column : String) : Value :=
  if column = kind.idColumn then .text record.id
  else if column = kind.labelColumn then record.label.elim .null .text
  else if column = "description" then record.description.elim .null .text
  else if column = "created_at" then .instant record.created
  else .null

namespace Record

variable {kind : ResourceKind}

theorem cell_idColumn (record : Record kind) : record.cell kind.idColumn = .text record.id :=
  if_pos rfl

theorem cell_labelColumn (record : Record kind) :
    record.cell kind.labelColumn = record.label.elim .null .text := by
  have hid : kind.labelColumn ≠ kind.idColumn := by cases kind <;> decide
  exact (if_neg hid).trans (if_pos rfl)

theorem cell_description (record : Record kind) :
    record.cell "description" = record.description.elim .null .text := by
  have hid : "description" ≠ kind.idColumn := by cases kind <;> decide
  have hlabel : "description" ≠ kind.labelColumn := by cases kind <;> decide
  exact (if_neg hid).trans ((if_neg hlabel).trans (if_pos rfl))

theorem cell_created (record : Record kind) :
    record.cell "created_at" = .instant record.created := by
  have hid : "created_at" ≠ kind.idColumn := by cases kind <;> decide
  have hlabel : "created_at" ≠ kind.labelColumn := by cases kind <;> decide
  have hdescription : "created_at" ≠ "description" := by decide
  exact (if_neg hid).trans ((if_neg hlabel).trans ((if_neg hdescription).trans (if_pos rfl)))

end Record

end Registrar
