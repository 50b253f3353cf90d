import Registrar.Exchange.Values
import Registrar.Listing
import Registrar.Resource.Kind

/-!
JSON forms of catalogs, list queries and range requests, for tools that record and replay listings.
-/

namespace Registrar

open Json

def ResourceKind.ofJson (value : Json) : Except String ResourceKind := do
  match ResourceKind.ofCollection? (← value.toText) with
  | some kind => return kind
  | none => .error "collection expected"

def Catalog.ofJson : Json → Except String Catalog
  | .str name => ResourceKind.catalog <$> ResourceKind.ofJson (.str name)
  | value => do
    let identifier ← FieldSpec.ofJson (value.field "id")
    let fields ← (← (value.field "fields").toItems).mapM FieldSpec.ofJson
    let searched ← (value.field "search").toTexts
    let catalog := fields.foldl Catalog.addField (Catalog.ofIdentifier identifier)
    let catalog := searched.foldl Catalog.addSearched catalog
    match value.field "order" with
    | .null => return catalog
    | order => return catalog.withOrder (← SortOrder.ofJson order)

def Catalog.keyOfJson (catalog : Catalog) (value : Json) : Except String SortKey := do
  match catalog.resolve (← value.toText) with
  | some key => return key
  | none => .error "sort key expected"

def ListParams.ofJson (value : Json) : Except String ListParams := do
  let text (name : String) := (value.field name).toTextOrNull
  return ⟨← text "sortBy", ← text "sortOrder", ← text "q", ← text "after", ← text "before",
    ← text "afterValue", ← text "beforeValue", ← text "limit"⟩

def ListParams.json (params : ListParams) : Json :=
  .obj [("sortBy", orNull .str params.sortBy), ("sortOrder", orNull .str params.sortOrder),
    ("q", orNull .str params.q), ("after", orNull .str params.after),
    ("before", orNull .str params.before), ("afterValue", orNull .str params.afterValue),
    ("beforeValue", orNull .str params.beforeValue), ("limit", orNull .str params.limit)]

def LimitPolicy.ofJson (value : Json) : Except String LimitPolicy := do
  return ⟨(← (value.field "default").toNatOrNull).getD LimitPolicy.standard.default,
    (← (value.field "max").toNatOrNull).getD LimitPolicy.standard.max⟩

namespace ListQuery

def changed {α : Type} (value : Json) (name : String) (read : Json → Except String α)
    (change : ListQuery → α → ListQuery) (query : ListQuery) : Except String ListQuery := do
  match value.field name with
  | .null => return query
  | part => return change query (← read part)

def ofJson (catalog : Catalog) (value : Json) : Except String ListQuery := do
  let limit := (← (value.field "limit").toNatOrNull).getD LimitPolicy.standard.default
  let order ←
    match value.field "order" with
    | .null => pure SortOrder.asc
    | order => SortOrder.ofJson order
  let query := first catalog limit
  let query ← query.changed value "sort" catalog.keyOfJson fun query key => query.withSort key order
  let query ← query.changed value "search" toText withSearch
  let query ← query.changed value "after" Cursor.ofJson after
  let query ← query.changed value "before" Cursor.ofJson before
  if ← (value.field "from_end").toBool false then return query.fromEnd else return query

def json (query : ListQuery) : Json :=
  .obj [("sort", query.sort.json), ("order", .str query.order.name), ("limit", .ofNat query.limit),
    ("search", orNull .str query.search), ("cursor", orNull Cursor.json query.cursor),
    ("direction", .str query.direction.marker)]

end ListQuery

namespace Predicate

mutual

def ofJson : Json → Except String Predicate
  | .obj [("any", .arr parts)] => return .any (← listOfJson parts)
  | .obj [("all", .arr parts)] => return .all (← listOfJson parts)
  | .obj [("eq", .arr [.str name, value])] => .compare name .eq <$> Value.ofJson value
  | .obj [("gt", .arr [.str name, value])] => .compare name .gt <$> Value.ofJson value
  | .obj [("lt", .arr [.str name, value])] => .compare name .lt <$> Value.ofJson value
  | .obj [("null", .str name)] => .ok (.isNull name)
  | .obj [("notnull", .str name)] => .ok (.isNotNull name)
  | .obj [("contains", .arr [.str name, .str term])] => .ok (.contains name term)
  | _ => .error "predicate expected"

def listOfJson : List Json → Except String (List Predicate)
  | [] => return []
  | part :: parts => return (← ofJson part) :: (← listOfJson parts)

end

mutual

def json : Predicate → Json
  | .any parts => .obj [("any", .arr (listJson parts))]
  | .all parts => .obj [("all", .arr (listJson parts))]
  | .compare name .eq value => .obj [("eq", .arr [.str name, value.json])]
  | .compare name .gt value => .obj [("gt", .arr [.str name, value.json])]
  | .compare name .lt value => .obj [("lt", .arr [.str name, value.json])]
  | .isNull name => .obj [("null", .str name)]
  | .isNotNull name => .obj [("notnull", .str name)]
  | .contains name term => .obj [("contains", .arr [.str name, .str term])]

def listJson : List Predicate → List Json
  | [] => []
  | part :: parts => part.json :: listJson parts

end

end Predicate

namespace RangeRequest

def ofJson (value : Json) : Except String RangeRequest := do
  let predicate (name : String) : Except String (Option Predicate) :=
    match value.field name with
    | .null => return none
    | part => some <$> Predicate.ofJson part
  return {
    search := ← predicate "search"
    boundary := ← predicate "boundary"
    order := ← OrderTerm.listOfJson (value.field "order")
    limit := (← (value.field "limit").toNatOrNull).getD (LimitPolicy.standard.default + 1) }

def json (request : RangeRequest) : Json :=
  .obj [("search", orNull Predicate.json request.search),
    ("boundary", orNull Predicate.json request.boundary),
    ("filter", orNull Predicate.json request.filter), ("order", OrderTerm.listJson request.order),
    ("limit", .ofNat request.limit)]

end RangeRequest

end Registrar
