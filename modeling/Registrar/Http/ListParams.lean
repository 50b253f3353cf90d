import Registrar.Http.Target
import Registrar.Json.Decode
import Registrar.Problem
import Registrar.Query
import Registrar.Text.Form

/-!
The parameters of a list request, taken from the query of its target.
-/

namespace Registrar

namespace ListParams

/-- Sets the parameter of the given name. A parameter must not be repeated, and names that are none are passed over. -/
def set (params : ListParams) (name value : String) : Except String ListParams :=
  let once (old : Option String) (new : ListParams) : Except String ListParams :=
    if old.isSome then .error s!"duplicate field {Misfit.ticked name}" else .ok new
  match name with
  | "sortBy" => once params.sortBy { params with sortBy := some value }
  | "sortOrder" => once params.sortOrder { params with sortOrder := some value }
  | "q" => once params.q { params with q := some value }
  | "after" => once params.after { params with after := some value }
  | "before" => once params.before { params with before := some value }
  | "afterValue" => once params.afterValue { params with afterValue := some value }
  | "beforeValue" => once params.beforeValue { params with beforeValue := some value }
  | "limit" => once params.limit { params with limit := some value }
  | _ => .ok params

def ofQuery (query : String) : Except String ListParams :=
  (Text.formPairs query).foldlM (fun params pair => params.set pair.1 pair.2) empty

def ofTarget (target : Http.Target) : Except Problem ListParams :=
  (ofQuery (target.query.getD "")).mapError fun reason =>
    { Problem.plain 400 "Invalid Parameter" ("Failed to deserialize query string: " ++ reason) with
      code := "INVALID_PARAMETER"
      instancePath := target.path }

end ListParams

end Registrar
