import Registrar.Page
import Registrar.Predicate
import Registrar.Query

/-!
Range requests and paging. A page is fetched with one row more than it holds, which tells whether
further rows follow; a page before the cursor is scanned backwards and turned round.
-/

namespace Registrar

structure RangeRequest where
  search : Option Predicate
  boundary : Option Predicate
  order : List OrderTerm
  limit : Nat

namespace RangeRequest

def assemble (catalog : Catalog) (query : ListQuery) (limit : Nat) : RangeRequest × OrderPlan :=
  let plan := OrderPlan.of catalog.identifier query.sort query.order query.direction
  let boundary := query.cursor.map fun cursor =>
    cursor.boundary catalog.identifier query.sort query.direction query.order
  ({ search := query.search.bind catalog.search
     boundary := boundary
     order := plan.terms
     limit := limit }, plan)

def filter (request : RangeRequest) : Option Predicate :=
  match request.search, request.boundary with
  | some search, some boundary => some (search.and boundary)
  | some search, none => some search
  | none, some boundary => some boundary
  | none, none => none

def selects {ρ : Type} [Row ρ] (request : RangeRequest) (row : ρ) : Bool :=
  request.filter.all (·.matches row)

def scan {ρ : Type} [Row ρ] (rows : List ρ) (request : RangeRequest) : List ρ :=
  (sortRows request.order (rows.filter request.selects)).take request.limit

end RangeRequest

def maxCount : Nat := Nat.pow 2 64 - 1

/-- One row more than the page holds, as far as 64 bits go. -/
def ListQuery.fetchCount (query : ListQuery) : Nat :=
  min (query.limit + 1) maxCount

structure ScanOutcome (ρ : Type) where
  rows : Except ListError (List ρ)
  elapsed : Nat

def ListQuery.pageOf {ρ : Type} (query : ListQuery) (plan : OrderPlan) (rows : List ρ) : Page ρ :=
  let kept := rows.take query.limit
  { items := if plan.reversed then kept.reverse else kept
    info := ⟨query.limit, query.limit < rows.length⟩ }

/-- The page of a query after its scan. A scan that outlives the deadline, given in nanoseconds, fails, and no part of its rows is returned. -/
def ListQuery.conclude {ρ : Type} (query : ListQuery) (plan : OrderPlan) (deadline : Option Nat)
    (outcome : ScanOutcome ρ) : Except ListError (Page ρ) :=
  if deadline.any (· < outcome.elapsed) then
    .error (.storage s!"range scan exceeded {deadline.getD 0 / 1000000}ms")
  else outcome.rows.map (query.pageOf plan)

def paginate {ρ : Type} (scan : RangeRequest → ScanOutcome ρ) (catalog : Catalog)
    (query : ListQuery) (deadline : Option Nat) : Except ListError (Page ρ) :=
  let (request, plan) := RangeRequest.assemble catalog query query.fetchCount
  query.conclude plan deadline (scan request)

def pageOfRows {ρ : Type} [Row ρ] (rows : List ρ) (catalog : Catalog) (query : ListQuery) :
    Page ρ :=
  let (request, plan) := RangeRequest.assemble catalog query query.fetchCount
  query.pageOf plan (request.scan rows)

def Cursor.at {ρ : Type} [Row ρ] (catalog : Catalog) (key : SortKey) (row : ρ) : Cursor where
  id := Row.value row catalog.identifier.name
  value := if key.isIdentifier then .null else Row.value row key.field.name

/-- The pages met from the query on, each found from the last row of the one before, as long as more rows follow and at most `fuel` of them. -/
def walkForward {ρ : Type} (fetch : ListQuery → Except ListError (Page ρ))
    (anchor : ρ → Cursor) : Nat → ListQuery → Except ListError (List (Page ρ))
  | 0, _ => .ok []
  | fuel + 1, query => do
    let page ← fetch query
    match page.info.hasMore, page.last? with
    | true, some row => return page :: (← walkForward fetch anchor fuel (query.after (anchor row)))
    | _, _ => return [page]

def walkBackward {ρ : Type} (fetch : ListQuery → Except ListError (Page ρ))
    (anchor : ρ → Cursor) : Nat → ListQuery → Except ListError (List (Page ρ))
  | 0, _ => .ok []
  | fuel + 1, query => do
    let page ← fetch query
    match page.info.hasMore, page.first? with
    | true, some row => return page :: (← walkBackward fetch anchor fuel (query.before (anchor row)))
    | _, _ => return [page]

end Registrar
