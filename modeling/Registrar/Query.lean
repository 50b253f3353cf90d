import Registrar.Cursor
import Registrar.Text.Blank

/-!
List queries and their validation from raw parameters. Parameters are checked in a fixed order,
and the first fault found is the one reported.
-/

namespace Registrar

structure ListParams where
  sortBy : Option String
  sortOrder : Option String
  q : Option String
  after : Option String
  before : Option String
  afterValue : Option String
  beforeValue : Option String
  limit : Option String
deriving DecidableEq, Repr

def ListParams.empty : ListParams :=
  ⟨none, none, none, none, none, none, none, none⟩

structure LimitPolicy where
  default : Nat
  max : Nat
deriving DecidableEq, Repr

def LimitPolicy.standard : LimitPolicy :=
  ⟨25, 1000⟩

def signed64? (text : String) : Option Int :=
  let (negative, digits) :=
    match text.toList with
    | '-' :: rest => (true, rest)
    | '+' :: rest => (false, rest)
    | rest => (false, rest)
  if digits.isEmpty || !digits.all Text.isDigit then none
  else
    let size := Text.digitsValue digits
    if negative then (if size ≤ Nat.pow 2 63 then some (-(size : Int)) else none)
    else (if size < Nat.pow 2 63 then some size else none)

/-- The page size asked for. A size out of range is refused, never clamped. -/
def parseLimit (raw : Option String) (policy : LimitPolicy) : Except ListError Nat :=
  match raw with
  | none => .ok policy.default
  | some raw =>
    match signed64? (Text.trim raw) with
    | none => .error (.invalidParameter "limit" s!"'{raw}' is not an integer")
    | some n =>
      if n < 1 ∨ policy.max < n.toNat then
        .error (.invalidParameter "limit" s!"must be between 1 and {policy.max}, got {n}")
      else .ok n.toNat

/-- A validated list request. Without a cursor it starts at the beginning of the listing, or at its end when the direction is `before`. -/
structure ListQuery where
  sort : SortKey
  order : SortOrder
  limit : Nat
  search : Option String
  cursor : Option Cursor
  direction : Direction
deriving DecidableEq, Repr

namespace ListQuery

def first (catalog : Catalog) (limit : Nat) : ListQuery :=
  ⟨catalog.defaultKey, catalog.order, limit, none, none, .after⟩

def withSort (query : ListQuery) (sort : SortKey) (order : SortOrder) : ListQuery :=
  { query with sort := sort, order := order }

def withSearch (query : ListQuery) (term : String) : ListQuery :=
  { query with search := if term.isEmpty then none else some term }

def after (query : ListQuery) (cursor : Cursor) : ListQuery :=
  { query with cursor := some cursor, direction := .after }

def before (query : ListQuery) (cursor : Cursor) : ListQuery :=
  { query with cursor := some cursor, direction := .before }

def fromEnd (query : ListQuery) : ListQuery :=
  { query with cursor := none, direction := .before }

def parseSort (catalog : Catalog) (raw : Option String) : Except ListError SortKey :=
  match raw with
  | none => .ok catalog.defaultKey
  | some name =>
    if name.isEmpty then .ok catalog.defaultKey
    else
      match catalog.resolve name with
      | some key => .ok key
      | none =>
        let supported := ", ".intercalate catalog.sortNames
        .error (.invalidParameter "sortBy"
          s!"unsupported field '{name}', expected one of {supported}")

def parseOrder (catalog : Catalog) (raw : Option String) : Except ListError SortOrder :=
  match raw with
  | none => .ok catalog.order
  | some name =>
    if name.isEmpty then .ok catalog.order
    else (SortOrder.parse name).mapError (.invalidParameter "sortOrder")

def parseCursor (catalog : Catalog) (key : SortKey) (params : ListParams) :
    Except ListError (Direction × Option Cursor) :=
  match params.after, params.before with
  | some _, some _ =>
    .error (.invalidParameter "after" "'after' and 'before' are mutually exclusive")
  | some id, none =>
    (Cursor.decodeWith catalog key "after" id params.afterValue).map fun found =>
      (found.1, some found.2)
  | none, some id =>
    (Cursor.decodeWith catalog key "before" id params.beforeValue).map fun found =>
      (found.1, some found.2)
  | none, none => .ok (.after, none)

def parse (params : ListParams) (catalog : Catalog) (policy : LimitPolicy) :
    Except ListError ListQuery := do
  let sort ← parseSort catalog params.sortBy
  let order ← parseOrder catalog params.sortOrder
  let limit ← parseLimit params.limit policy
  let search := params.q.filter fun term => !term.isEmpty
  if params.afterValue.isSome && params.after.isNone then
    .error (.invalidParameter "afterValue" "only allowed together with 'after'")
  if params.beforeValue.isSome && params.before.isNone then
    .error (.invalidParameter "beforeValue" "only allowed together with 'before'")
  let (direction, cursor) ← parseCursor catalog sort params
  return ⟨sort, order, limit, search, cursor, direction⟩

end ListQuery

end Registrar
