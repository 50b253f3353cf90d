import Registrar.Http.Message
import Registrar.Resource.Kind

/-!
Places that requests can be sent to.
-/

namespace Registrar.Http

/-- What a path names; the identifier of a record is still escaped. -/
inductive Place where
  | health
  | description
  | collection (kind : ResourceKind)
  | member (kind : ResourceKind) (segment : String)
deriving DecidableEq, Repr

namespace Place

def ofPath? (path : String) : Option Place :=
  match Text.split '/' path with
  | ["", "health"] => some .health
  | ["", "openapi.json"] => some .description
  | ["", "v1", name] => (ResourceKind.ofCollection? name).map .collection
  | ["", "v1", name, segment] =>
    if segment.isEmpty then none
    else (ResourceKind.ofCollection? name).map fun kind => .member kind segment
  | _ => none

def path : Place → String
  | .health => "/health"
  | .description => "/openapi.json"
  | .collection kind => s!"/v1/{kind.collection}"
  | .member kind segment => s!"/v1/{kind.collection}/{segment}"

end Place

end Registrar.Http
