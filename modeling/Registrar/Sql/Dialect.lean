import Registrar.Order.Terms

/-!
Databases and the ways in which they order nulls.
-/

namespace Registrar.Sql

inductive Backend where
  | sqlite
  | postgres
  | mysql
deriving DecidableEq, Repr

/-- What a database does with nulls in `ORDER BY`: whether they sort below all values, and whether it takes `NULLS FIRST` and `NULLS LAST`. -/
structure Dialect where
  nullsLow : Bool
  nullsClause : Bool
deriving DecidableEq, Repr

def Backend.dialect : Backend → Dialect
  | .sqlite => ⟨true, true⟩
  | .postgres => ⟨false, true⟩
  | .mysql => ⟨true, false⟩

inductive NullStrategy where
  | native
  | clause
  | isNullTerm
deriving DecidableEq, Repr

def NullStrategy.name : NullStrategy → String
  | .native => "native"
  | .clause => "clause"
  | .isNullTerm => "is_null_term"

namespace Dialect

def nativePlacement (dialect : Dialect) (order : SortOrder) : NullPlacement :=
  match dialect.nullsLow, order with
  | true, .asc => .first
  | false, .desc => .first
  | true, .desc => .last
  | false, .asc => .last

/-- A plain term where that places nulls as wanted, else a clause where the database takes one, else a term on whether the field is null. -/
def strategy (dialect : Dialect) (order : SortOrder) (wanted : NullPlacement) : NullStrategy :=
  if dialect.nativePlacement order = wanted then .native
  else if dialect.nullsClause then .clause
  else .isNullTerm

end Dialect

end Registrar.Sql
