import Registrar.Exchange.Values
import Registrar.ListError
import Registrar.Problem
import Registrar.Registry.Faulty

/-!
JSON forms of the faults of listings, records and stores.
-/

namespace Registrar

open Json

def ListError.json (fault : ListError) : Json :=
  .obj [("error", .str fault.code), ("message", .str fault.message), ("client", .bool fault.isClientError)]

def RecordError.kindName : RecordError → String
  | .notFound .. => "NotFound"
  | .alreadyExists .. => "AlreadyExists"
  | .validation .. => "Validation"
  | .database .. => "Database"

def RecordError.json (path : String) (fault : RecordError) : Json :=
  .obj [("error", .str fault.kindName), ("message", .str fault.message), ("problem", (fault.problem path).json)]

def Misfit.json (name : String) (fault : Misfit) : Json :=
  .obj [("error", .str name), ("message", .str fault.message)]

def StoreFault.json (fault : StoreFault) : Json :=
  let name :=
    match fault with
    | .duplicateKey => "DuplicateKey"
    | .failure _ => "Storage"
  .obj [("error", .str name), ("message", .str fault.message)]

/-- The faults that a store shows: per call the causes of its failure, and whether rows are taken or gone. -/
def FaultPlan.ofJson (value : Json) : Except String FaultPlan := do
  let fault (name : String) : Except String (Option StoreFault) :=
    match value.field name with
    | .null => return none
    | causes => return some (.failure (← causes.toTexts))
  let insert ← fault "insert"
  return {
    find := ← fault "find"
    insert := if ← (value.field "duplicate").toBool false then insert <|> some .duplicateKey else insert
    update := ← fault "update"
    delete := ← fault "delete"
    page := ← fault "list"
    gone := ← (value.field "vanish").toBool false }

def Record.ofJson (kind : ResourceKind) (value : Json) : Except String (Record kind) := do
  let draft : Draft :=
    ⟨none, ← (value.field kind.labelField).toTextOrNull, ← (value.field "description").toTextOrNull⟩
  return Record.create kind (← value.textOf "id") draft (← Time.Instant.ofJson (value.field "createdAt"))

namespace Problem

def faultsOfJson : Json → Except String (Option (List FieldFault))
  | .null => return none
  | value => some <$> do
    (← value.toItems).mapM fun fault => return ⟨← fault.textOf "detail", ← fault.textOf "pointer"⟩

def overriddenBy (problem : Problem) (value : Json) : Except String Problem := do
  let text (name : String) := (value.field name).toTextOrNull
  return {
    type := (← text "type").getD problem.type
    title := problem.title
    status := (← (value.field "status").toNatOrNull).getD problem.status
    detail := problem.detail
    instancePath := (← text "instance").getD problem.instancePath
    code := (← text "code").getD problem.code
    requestId := (← text "request_id") <|> problem.requestId
    errors := (← faultsOfJson (value.field "errors")) <|> problem.errors }

end Problem

end Registrar
