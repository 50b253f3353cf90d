import Registrar.Catalog
import Registrar.Row

/-!
Order terms and the order in which a listing is scanned. Nulls come first in an ascending term and
last in a descending one, and a scan towards earlier rows runs every term backwards.
-/

namespace Registrar

inductive NullPlacement where
  | first
  | last
deriving DecidableEq, Repr

def NullPlacement.name : NullPlacement → String
  | .first => "first"
  | .last => "last"

structure OrderTerm where
  field : String
  order : SortOrder
deriving DecidableEq, Repr

namespace OrderTerm

def nulls (term : OrderTerm) : NullPlacement :=
  match term.order with
  | .asc => .first
  | .desc => .last

def reverse (term : OrderTerm) : OrderTerm :=
  { term with order := term.order.reverse }

def compare {ρ : Type} [Row ρ] (term : OrderTerm) (a b : ρ) : Ordering :=
  match term.order with
  | .asc => (Row.value a term.field).cmp (Row.value b term.field)
  | .desc => ((Row.value a term.field).cmp (Row.value b term.field)).swap

end OrderTerm

def compareRows {ρ : Type} [Row ρ] : List OrderTerm → ρ → ρ → Ordering
  | [], _, _ => .eq
  | term :: terms, a, b => (term.compare a b).then (compareRows terms a b)

/-- The rows in the order of the terms; rows that compare equal keep their places. -/
def sortRows {ρ : Type} [Row ρ] (terms : List OrderTerm) (rows : List ρ) : List ρ :=
  rows.mergeSort fun a b => compareRows terms a b != .gt

/-- The order of a listing as it is presented: the sort field, then the identifier to tell ties apart. -/
def logicalTerms (identifier : FieldSpec) (key : SortKey) (order : SortOrder) : List OrderTerm :=
  match key with
  | .identifier _ => [⟨identifier.name, order⟩]
  | .attribute field => [⟨field.name, order⟩, ⟨identifier.name, order⟩]

structure OrderPlan where
  terms : List OrderTerm
  reversed : Bool
deriving DecidableEq, Repr

def OrderPlan.of (identifier : FieldSpec) (key : SortKey) (order : SortOrder)
    (direction : Direction) : OrderPlan :=
  let logical := logicalTerms identifier key order
  match direction with
  | .after => ⟨logical, false⟩
  | .before => ⟨logical.map OrderTerm.reverse, true⟩

end Registrar
