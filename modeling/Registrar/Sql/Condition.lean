import Registrar.Predicate
import Registrar.Sql.Like

/-!
Conditions of SQL statements and their construction from predicates. Field names are mapped to
columns, and a predicate that names an unknown field or compares with null has no condition.
-/

namespace Registrar.Sql

inductive Bound where
  | text (content : String)
  | instant (moment : Time.Instant)
  | count (number : Nat)
deriving DecidableEq, Repr

def Bound.ofValue? : Value → Option Bound
  | .null => none
  | .text content => some (.text content)
  | .instant moment => some (.instant moment)

inductive Condition where
  | any (parts : List Condition)
  | all (parts : List Condition)
  | compare (column : String) (comparison : Comparison) (value : Bound)
  | isNull (column : String)
  | isNotNull (column : String)
  | like (column pattern : String)

structure MappedColumn where
  column : String
  nullable : Bool
deriving DecidableEq, Repr

structure FieldMap where
  entries : List (String × MappedColumn)
deriving DecidableEq, Repr

namespace FieldMap

def empty : FieldMap :=
  ⟨[]⟩

/-- Maps a field; an earlier mapping of the same name is replaced. -/
def insert (fields : FieldMap) (name column : String) (nullable : Bool) : FieldMap :=
  ⟨(name, ⟨column, nullable⟩) :: fields.entries⟩

def get? (fields : FieldMap) (name : String) : Option MappedColumn :=
  fields.entries.lookup name

def missing (fields : FieldMap) (catalog : Catalog) : List String :=
  ((catalog.sortNames ++ catalog.searched).filter fun name => (fields.get? name).isNone).eraseDups

end FieldMap

inductive BuildError where
  | unknownField (name : String)
  | nullComparison (name : String)
deriving DecidableEq, Repr

namespace BuildError

def message : BuildError → String
  | .unknownField name => s!"unknown field: {name}"
  | .nullComparison name => s!"null comparison on field {name}"

def listError (fault : BuildError) : ListError :=
  .storage fault.message

end BuildError

def FieldMap.resolve (fields : FieldMap) (name : String) : Except BuildError MappedColumn :=
  match fields.get? name with
  | some column => .ok column
  | none => .error (.unknownField name)

namespace Condition

def collapse : Condition → Condition
  | .any [part] => part
  | .all [part] => part
  | other => other

mutual

/-- The condition of a predicate; the first fault in reading order is reported. -/
def ofPredicate (fields : FieldMap) : Predicate → Except BuildError Condition
  | .any parts => return .any (← ofPredicates fields parts)
  | .all parts => return .all (← ofPredicates fields parts)
  | .compare field comparison value => do
    let column ← fields.resolve field
    match Bound.ofValue? value with
    | some bound => return .compare column.column comparison bound
    | none => .error (.nullComparison field)
  | .isNull field => return .isNull (← fields.resolve field).column
  | .isNotNull field => return .isNotNull (← fields.resolve field).column
  | .contains field term => do
    let column ← fields.resolve field
    let term := Text.lowerChars term.toList
    return .like column.column (String.ofList (Like.containing term))

def ofPredicates (fields : FieldMap) : List Predicate → Except BuildError (List Condition)
  | [] => return []
  | part :: parts => do
    let first ← ofPredicate fields part
    return first.collapse :: (← ofPredicates fields parts)

end

end Condition

end Registrar.Sql
