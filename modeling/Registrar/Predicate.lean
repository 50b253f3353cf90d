import Registrar.Order.Terms
import Registrar.Cursor
import Registrar.Text.Lowercase

/-!
Conditions on rows and the boundary of a page. A boundary is a disjunction of cases that exclude
one another, so that rows with the anchor's sort value, null included, are neither skipped nor
repeated.
-/

namespace Registrar

inductive Comparison where
  | eq
  | gt
  | lt
deriving DecidableEq, Repr

def Comparison.admits : Comparison → Ordering → Bool
  | .eq, .eq => true
  | .gt, .gt => true
  | .lt, .lt => true
  | _, _ => false

inductive Predicate where
  | any (parts : List Predicate)
  | all (parts : List Predicate)
  | compare (field : String) (comparison : Comparison) (value : Value)
  | isNull (field : String)
  | isNotNull (field : String)
  | contains (field term : String)

namespace Predicate

def and : Predicate → Predicate → Predicate
  | .all parts, .all others => .all (parts ++ others)
  | .all parts, other => .all (parts ++ [other])
  | part, .all others => .all (part :: others)
  | part, other => .all [part, other]

/-- Whether a field's value stands in the given relation to `value`; never, if a null or two kinds meet. -/
def comparesTo (comparison : Comparison) (actual value : Value) : Bool :=
  !actual.isNull && !value.isNull && actual.kind? == value.kind? &&
    comparison.admits (actual.cmp value)

def containsTerm (term : String) : Value → Bool
  | .text content => Text.contains (Text.lowercase content) (Text.lowercase term)
  | _ => false

mutual

def «matches» {ρ : Type} [Row ρ] (row : ρ) : Predicate → Bool
  | .any parts => matchesAny row parts
  | .all parts => matchesAll row parts
  | .compare field comparison value => comparesTo comparison (Row.value row field) value
  | .isNull field => (Row.value row field).isNull
  | .isNotNull field => !(Row.value row field).isNull
  | .contains field term => containsTerm term (Row.value row field)

def matchesAny {ρ : Type} [Row ρ] (row : ρ) : List Predicate → Bool
  | [] => false
  | part :: parts => part.matches row || matchesAny row parts

def matchesAll {ρ : Type} [Row ρ] (row : ρ) : List Predicate → Bool
  | [] => true
  | part :: parts => part.matches row && matchesAll row parts

end

theorem matchesAny_eq_any {ρ : Type} [Row ρ] (row : ρ) (parts : List Predicate) :
    matchesAny row parts = parts.any (·.matches row) := by
  induction parts with
  | nil => rfl
  | cons part parts ih => simp [matchesAny, ih]

theorem matchesAll_eq_all {ρ : Type} [Row ρ] (row : ρ) (parts : List Predicate) :
    matchesAll row parts = parts.all (·.matches row) := by
  induction parts with
  | nil => rfl
  | cons part parts ih => simp [matchesAll, ih]

end Predicate

/-- The side of the anchor, in ascending order of keys, on which a page lies. -/
inductive Relation where
  | greater
  | less
deriving DecidableEq, Repr

namespace Relation

def of : Direction → SortOrder → Relation
  | .after, .asc => .greater
  | .after, .desc => .less
  | .before, .asc => .less
  | .before, .desc => .greater

def name : Relation → String
  | .greater => "greater"
  | .less => "less"

def comparison : Relation → Comparison
  | .greater => .gt
  | .less => .lt

end Relation

/-- The condition on rows strictly beyond the cursor in the direction of the page. -/
def Cursor.boundary (cursor : Cursor) (identifier : FieldSpec) (key : SortKey)
    (direction : Direction) (order : SortOrder) : Predicate :=
  let relation := Relation.of direction order
  let idBeyond := Predicate.compare identifier.name relation.comparison cursor.id
  match key with
  | .identifier _ => idBeyond
  | .attribute field =>
    match cursor.value, relation with
    | .null, .greater => .any [.isNotNull field.name, .all [.isNull field.name, idBeyond]]
    | .null, .less => .all [.isNull field.name, idBeyond]
    | value, .greater =>
      .any [.compare field.name .gt value, .all [.compare field.name .eq value, idBeyond]]
    | value, .less =>
      .any [.compare field.name .lt value, .isNull field.name,
        .all [.compare field.name .eq value, idBeyond]]

/-- The condition that some searched field contains the term; no condition without a term or a searched field. -/
def Catalog.search (catalog : Catalog) (term : String) : Option Predicate :=
  if term.isEmpty || catalog.searched.isEmpty then none
  else some (.any (catalog.searched.map fun field => .contains field term))

end Registrar
