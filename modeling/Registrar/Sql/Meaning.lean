import Registrar.Sql.Select

/-!
What statements select. Conditions take three truth values; a row is kept when its condition is
true, and rows are then put in order and cut off at the limit. What databases do differently is
collected in `Semantics`.
-/

namespace Registrar.Sql

/-- A truth value of SQL; `none` is unknown. -/
abbrev Truth := Option Bool

namespace Truth

def and : Truth → Truth → Truth
  | some false, _ => some false
  | _, some false => some false
  | some true, other => other
  | other, some true => other
  | none, none => none

def or : Truth → Truth → Truth
  | some true, _ => some true
  | _, some true => some true
  | some false, other => other
  | other, some false => other
  | none, none => none

end Truth

structure Semantics where
  /-- The function `LOWER`. -/
  lower : String → String
  /-- Whether a text is like a pattern. -/
  like : (pattern text : String) → Bool
  /-- The value that a bound value is compared as. -/
  bound : Bound → Value
  /-- Whether nulls sort below all values. -/
  nullsLow : Bool

def compareTruth (comparison : Comparison) (actual value : Value) : Truth :=
  if actual.isNull || value.isNull then none else some (comparison.admits (actual.cmp value))

def likeTruth (semantics : Semantics) (pattern : String) : Value → Truth
  | .null => none
  | .text content => some (semantics.like pattern (semantics.lower content))
  | .instant moment => some (semantics.like pattern (semantics.lower moment.text))

mutual

def Condition.truth (semantics : Semantics) (row : String → Value) : Condition → Truth
  | .any parts => anyTruth semantics row parts
  | .all parts => allTruth semantics row parts
  | .compare column comparison value =>
    compareTruth comparison (row column) (semantics.bound value)
  | .isNull column => some (row column).isNull
  | .isNotNull column => some (!(row column).isNull)
  | .like column pattern => likeTruth semantics pattern (row column)

def anyTruth (semantics : Semantics) (row : String → Value) : List Condition → Truth
  | [] => some false
  | part :: parts => (part.truth semantics row).or (anyTruth semantics row parts)

def allTruth (semantics : Semantics) (row : String → Value) : List Condition → Truth
  | [] => some true
  | part :: parts => (part.truth semantics row).and (allTruth semantics row parts)

end

/-- Compares two values of a column. Nulls go where the placement says, whatever the order of values. -/
def compareValues (order : SortOrder) (nulls : NullPlacement) (a b : Value) : Ordering :=
  match a.isNull, b.isNull with
  | true, true => .eq
  | true, false => if nulls = .first then .lt else .gt
  | false, true => if nulls = .first then .gt else .lt
  | false, false =>
    match order with
    | .asc => a.cmp b
    | .desc => (a.cmp b).swap

def OrderBy.compare (semantics : Semantics) (a b : String → Value) : OrderBy → Ordering
  | .column name order nulls =>
    let placement := nulls.getD ((Dialect.mk semantics.nullsLow true).nativePlacement order)
    compareValues order placement (a name) (b name)
  | .isNull name order =>
    let compared := Ord.compare (a name).isNull.toNat (b name).isNull.toNat
    match order with
    | .asc => compared
    | .desc => compared.swap

def compareByTerms (semantics : Semantics) (a b : String → Value) : List OrderBy → Ordering
  | [] => .eq
  | term :: terms => (term.compare semantics a b).then (compareByTerms semantics a b terms)

def Select.run {ρ : Type} (semantics : Semantics) (cell : ρ → String → Value) (rows : List ρ)
    (select : Select) : List ρ :=
  let kept := rows.filter fun row =>
    match select.filter with
    | none => true
    | some condition => condition.truth semantics (cell row) == some true
  let sorted := kept.mergeSort fun a b =>
    compareByTerms semantics (cell a) (cell b) select.order != .gt
  sorted.take select.limit

end Registrar.Sql
