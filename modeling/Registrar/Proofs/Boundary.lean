import Registrar.Proofs.PlaceOrder

/-!
# The boundary of a page

A boundary selects the rows that lie strictly beyond its cursor in the order of the scan. This needs
values of one kind: the parts of a boundary that compare a field with a value of another kind hold
of no row, while the order puts every text before every instant.
-/

namespace Registrar

open Std

def FieldSpec.Admits (field : FieldSpec) (value : Value) : Prop :=
  value = .null ∨ value.kind? = some field.kind

instance (field : FieldSpec) (value : Value) : Decidable (field.Admits value) :=
  inferInstanceAs (Decidable (value = .null ∨ value.kind? = some field.kind))

/-- The anchor has an identifier, of the identifier's kind, and a sort value that its field admits. A listing by identifier asks for no sort value. -/
structure Cursor.WellTyped (catalog : Catalog) (key : SortKey) (cursor : Cursor) : Prop where
  id_kind : cursor.id.kind? = some catalog.identifier.kind
  value_admitted : ∀ field, key = .attribute field → field.Admits cursor.value

structure Sortable {ρ : Type} [Row ρ] (catalog : Catalog) (key : SortKey) (row : ρ) : Prop where
  id_kind : (Row.value row catalog.identifier.name).kind? = some catalog.identifier.kind
  value_admitted : ∀ field, key = .attribute field → field.Admits (Row.value row field.name)

/-- The place that a cursor stands for in a listing by `key`; a listing by identifier ignores its sort value. -/
def Cursor.placeIn (key : SortKey) (cursor : Cursor) : Cursor :=
  { cursor with value := if key.isIdentifier then .null else cursor.value }

/-! ### Comparisons with an anchor -/

theorem Value.isNull_eq_true {value : Value} : value.isNull = true ↔ value = .null := by
  cases value <;> simp [isNull]

theorem Value.isNull_eq_false {value : Value} : value.isNull = false ↔ value ≠ .null := by
  cases value <;> simp [isNull]

theorem Value.ne_null_of_kind {value : Value} {kind : Kind} (hkind : value.kind? = some kind) :
    value ≠ .null := by
  rintro rfl
  simp [kind?] at hkind

theorem Value.null_cmp_eq_lt {value : Value} : Value.cmp .null value = .lt ↔ value ≠ .null := by
  cases value <;> simp [cmp]

theorem Value.null_cmp_ne_gt (value : Value) : Value.cmp .null value ≠ .gt := by
  cases value <;> simp [cmp]

theorem Value.cmp_null_of_ne {value : Value} (hvalue : value ≠ .null) :
    value.cmp .null = .gt := by
  cases value <;> simp_all [cmp]

def Comparison.ordering : Comparison → Ordering
  | .eq => .eq
  | .gt => .gt
  | .lt => .lt

theorem Comparison.admits_eq_true {comparison : Comparison} {ordering : Ordering} :
    comparison.admits ordering = true ↔ ordering = comparison.ordering := by
  cases comparison <;> cases ordering <;> simp [admits, Comparison.ordering]

namespace Predicate

theorem comparesTo_of_kind {comparison : Comparison} {actual value : Value} {kind : Kind}
    (hactual : actual.kind? = some kind) (hvalue : value.kind? = some kind) :
    comparesTo comparison actual value = comparison.admits (actual.cmp value) := by
  have hactualNull := Value.isNull_eq_false.mpr (Value.ne_null_of_kind hactual)
  have hvalueNull := Value.isNull_eq_false.mpr (Value.ne_null_of_kind hvalue)
  simp [comparesTo, hactual, hvalue, hactualNull, hvalueNull]

theorem comparesTo_null (comparison : Comparison) (value : Value) :
    comparesTo comparison .null value = false := by
  simp [comparesTo, Value.isNull]

section Admitted

variable {actual value : Value} {field : FieldSpec}

/-- Only a null is compared with nothing; among the values of one kind the comparison is that of the order. -/
theorem comparesTo_of_admits (hactual : field.Admits actual)
    (hvalue : value.kind? = some field.kind) (comparison : Comparison) :
    comparesTo comparison actual value = true ↔
      actual ≠ .null ∧ actual.cmp value = comparison.ordering := by
  rcases hactual with rfl | hactual
  · simp [comparesTo_null]
  · rw [comparesTo_of_kind hactual hvalue, Comparison.admits_eq_true]
    exact (and_iff_right (Value.ne_null_of_kind hactual)).symm

theorem comparesTo_eq_iff (hactual : field.Admits actual)
    (hvalue : value.kind? = some field.kind) :
    comparesTo .eq actual value = true ↔ actual = value := by
  rw [comparesTo_of_admits hactual hvalue, Comparison.ordering, LawfulEqCmp.compare_eq_iff_eq]
  constructor
  · exact And.right
  · rintro rfl
    exact ⟨Value.ne_null_of_kind hvalue, rfl⟩

theorem comparesTo_gt_iff (hactual : field.Admits actual)
    (hvalue : value.kind? = some field.kind) :
    comparesTo .gt actual value = true ↔ value.cmp actual = .lt := by
  rw [comparesTo_of_admits hactual hvalue, Comparison.ordering, OrientedCmp.gt_iff_lt]
  refine and_iff_right_of_imp fun hlt hnull => ?_
  rw [hnull, Value.cmp_null_of_ne (Value.ne_null_of_kind hvalue)] at hlt
  exact absurd hlt (by decide)

/-- A null is less than every value in the order, though it compares with none. -/
theorem comparesTo_lt_or_null_iff (hactual : field.Admits actual)
    (hvalue : value.kind? = some field.kind) :
    comparesTo .lt actual value = true ∨ actual = .null ↔ value.cmp actual = .gt := by
  rw [comparesTo_of_admits hactual hvalue, Comparison.ordering, ← OrientedCmp.gt_iff_lt]
  by_cases hnull : actual = .null
  · simp [hnull, Value.cmp_null_of_ne (Value.ne_null_of_kind hvalue)]
  · simp [hnull]

end Admitted

end Predicate

/-! ### What the boundary selects -/

section Boundary

variable {ρ : Type} [Row ρ] {catalog : Catalog} {key : SortKey} {cursor : Cursor} {row : ρ}

theorem Sortable.wellTyped_at (hrow : Sortable catalog key row) :
    (Cursor.at catalog key row).WellTyped catalog key where
  id_kind := hrow.id_kind
  value_admitted := by
    rintro field rfl
    exact hrow.value_admitted field rfl

namespace Cursor

theorem placeIn_at (catalog : Catalog) (key : SortKey) (row : ρ) :
    (Cursor.at catalog key row).placeIn key = Cursor.at catalog key row := by
  unfold placeIn Cursor.at
  cases key <;> rfl

/-- Only the order of the scan matters for the boundary, not how it comes about. -/
theorem boundary_scanOrder (cursor : Cursor) (identifier : FieldSpec) (key : SortKey)
    (direction : Direction) (order : SortOrder) :
    cursor.boundary identifier key direction order
      = cursor.boundary identifier key .after (direction.scanOrder order) := by
  cases direction <;> cases order <;> rfl

theorem precedes_identifier_iff {field : FieldSpec} {order : SortOrder} :
    Precedes order (cursor.placeIn (.identifier field)) (Cursor.at catalog (.identifier field) row)
      ↔ order.orient (cursor.id.cmp (Row.value row catalog.identifier.name)) = .lt :=
  Iff.rfl

/-- Places are told apart by the sort value first, and by the identifier where this is the same. -/
theorem precedes_attribute_iff {field : FieldSpec} {order : SortOrder} :
    Precedes order (cursor.placeIn (.attribute field)) (Cursor.at catalog (.attribute field) row)
      ↔ order.orient (cursor.value.cmp (Row.value row field.name)) = .lt
        ∨ cursor.value = Row.value row field.name
          ∧ order.orient (cursor.id.cmp (Row.value row catalog.identifier.name)) = .lt := by
  unfold Precedes cmpIn cmp
  rw [SortOrder.orient_then, Ordering.then_eq_lt, SortOrder.orient_eq_eq,
    LawfulEqCmp.compare_eq_iff_eq]
  rfl

/-- The comparison that every boundary ends in: the identifier lies beyond that of the anchor. -/
theorem idBeyond_matches_iff (hcursor : cursor.WellTyped catalog key)
    (hrow : Sortable catalog key row) (order : SortOrder) :
    Predicate.matches row (.compare catalog.identifier.name (Relation.of .after order).comparison
      cursor.id) = true
      ↔ order.orient (cursor.id.cmp (Row.value row catalog.identifier.name)) = .lt := by
  unfold Predicate.matches
  rw [Predicate.comparesTo_of_kind hrow.id_kind hcursor.id_kind, Comparison.admits_eq_true]
  cases order with
  | asc => exact OrientedCmp.gt_iff_lt
  | desc =>
      simp only [SortOrder.orient, Ordering.swap_eq_lt]
      exact OrientedCmp.gt_iff_lt.symm

/-- The identifiers tell rows without a value from a cursor that has none, and all other rows lie on one side of it. -/
theorem boundary_matches_iff_of_null {field : FieldSpec}
    (hcursor : cursor.WellTyped catalog (.attribute field))
    (hrow : Sortable catalog (.attribute field) row) (hnull : cursor.value = .null)
    (order : SortOrder) :
    (cursor.boundary catalog.identifier (.attribute field) .after order).matches row = true
      ↔ Precedes order (cursor.placeIn (.attribute field))
        (Cursor.at catalog (.attribute field) row) := by
  rw [precedes_attribute_iff, ← idBeyond_matches_iff hcursor hrow order, hnull,
    eq_comm (a := Value.null)]
  cases order with
  | asc =>
      simp [boundary, hnull, Relation.of, Predicate.matches, Predicate.matchesAny,
        Predicate.matchesAll, SortOrder.orient, Value.null_cmp_eq_lt, Value.isNull_eq_true,
        Value.isNull_eq_false]
  | desc =>
      simp [boundary, hnull, Relation.of, Predicate.matches, Predicate.matchesAll,
        SortOrder.orient, Value.null_cmp_ne_gt, Value.isNull_eq_true]

theorem boundary_of_ne_null (identifier field : FieldSpec) (hvalue : cursor.value ≠ .null)
    (order : SortOrder) :
    cursor.boundary identifier (.attribute field) .after order
      = .any ((match order with
        | .asc => [.compare field.name .gt cursor.value]
        | .desc => [.compare field.name .lt cursor.value, .isNull field.name]) ++
        [.all [.compare field.name .eq cursor.value,
          .compare identifier.name (Relation.of .after order).comparison cursor.id]]) := by
  obtain ⟨id, value⟩ := cursor
  cases value with
  | null => exact absurd rfl hvalue
  | text content => cases order <;> rfl
  | instant moment => cases order <;> rfl

/-- In descending order the rows without a value come last, so the boundary has to ask for them by a test of its own. -/
theorem boundary_matches_iff_of_ne_null {field : FieldSpec}
    (hcursor : cursor.WellTyped catalog (.attribute field))
    (hrow : Sortable catalog (.attribute field) row) (hvalue : cursor.value ≠ .null)
    (order : SortOrder) :
    (cursor.boundary catalog.identifier (.attribute field) .after order).matches row = true
      ↔ Precedes order (cursor.placeIn (.attribute field))
        (Cursor.at catalog (.attribute field) row) := by
  have hadmitted : field.Admits (Row.value row field.name) := hrow.value_admitted field rfl
  have hkind : cursor.value.kind? = some field.kind :=
    (hcursor.value_admitted field rfl).resolve_left hvalue
  have heq := Predicate.comparesTo_eq_iff hadmitted hkind
  have hgt := Predicate.comparesTo_gt_iff hadmitted hkind
  have hlt := Predicate.comparesTo_lt_or_null_iff hadmitted hkind
  rw [precedes_attribute_iff, ← idBeyond_matches_iff hcursor hrow order,
    eq_comm (b := Row.value row field.name), ← heq, boundary_of_ne_null _ _ hvalue]
  cases order with
  | asc =>
      simp only [SortOrder.orient]
      rw [← hgt]
      simp [Predicate.matches, Predicate.matchesAny, Predicate.matchesAll]
  | desc =>
      simp only [SortOrder.orient, Ordering.swap_eq_lt]
      rw [← hlt]
      simp [Predicate.matches, Predicate.matchesAny, Predicate.matchesAll,
        Value.isNull_eq_true, or_assoc]

/-- **The boundary.** It selects exactly the rows whose places lie strictly beyond the cursor in the order of the scan. -/
theorem boundary_matches_iff (hcursor : cursor.WellTyped catalog key)
    (hrow : Sortable catalog key row) (direction : Direction) (order : SortOrder) :
    (cursor.boundary catalog.identifier key direction order).matches row = true
      ↔ Precedes (direction.scanOrder order) (cursor.placeIn key) (Cursor.at catalog key row) := by
  rw [boundary_scanOrder]
  rcases key with field | field
  · rw [precedes_identifier_iff, ← idBeyond_matches_iff hcursor hrow]
    rfl
  · by_cases hnull : cursor.value = .null
    · exact boundary_matches_iff_of_null hcursor hrow hnull _
    · exact boundary_matches_iff_of_ne_null hcursor hrow hnull _

end Cursor

end Boundary

end Registrar
