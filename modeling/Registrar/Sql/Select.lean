import Registrar.Listing
import Registrar.Sql.Condition
import Registrar.Sql.Dialect

/-!
Statements that select the rows of a range request.
-/

namespace Registrar.Sql

structure Table where
  name : String
  columns : List String
deriving DecidableEq, Repr

/-- A term of `ORDER BY`: a column, with a placement of nulls if one is written, or whether a column is null. -/
inductive OrderBy where
  | column (name : String) (order : SortOrder) (nulls : Option NullPlacement)
  | isNull (name : String) (order : SortOrder)
deriving DecidableEq, Repr

structure Select where
  table : Table
  filter : Option Condition
  order : List OrderBy
  limit : Nat

/-- The order in which a test for null puts nulls into the wanted place. -/
def nullOrder : NullPlacement → SortOrder
  | .first => .desc
  | .last => .asc

/-- The terms for one field: plain where the field is never null or the database places nulls well by itself. -/
def OrderBy.ofTerm (dialect : Dialect) (column : MappedColumn) (term : OrderTerm) : List OrderBy :=
  if column.nullable then
    match dialect.strategy term.order term.nulls with
    | .native => [.column column.column term.order none]
    | .clause => [.column column.column term.order (some term.nulls)]
    | .isNullTerm =>
      [.isNull column.column (nullOrder term.nulls), .column column.column term.order none]
  else [.column column.column term.order none]

def OrderBy.ofTerms (fields : FieldMap) (dialect : Dialect) :
    List OrderTerm → Except BuildError (List OrderBy)
  | [] => return []
  | term :: terms => do
    let column ← fields.resolve term.field
    return OrderBy.ofTerm dialect column term ++ (← OrderBy.ofTerms fields dialect terms)

def Select.build (table : Table) (fields : FieldMap) (dialect : Dialect) (request : RangeRequest) :
    Except BuildError Select := do
  let filter ←
    match request.filter with
    | none => pure none
    | some predicate => some <$> Condition.ofPredicate fields predicate
  let order ← OrderBy.ofTerms fields dialect request.order
  return ⟨table, filter, order, request.limit⟩

end Registrar.Sql
