import Registrar.Proofs.ConditionTruth

/-!
# The place of nulls in a statement's order

Databases differ in where they put nulls and in whether they can be told. Whichever way a statement
takes, its terms put the rows in the engine's order.
-/

namespace Registrar.Sql

open Std

variable {semantics : Semantics} {dialect : Dialect} {column : MappedColumn} {term : OrderTerm}
  {a b : String → Value}

/-- The placement of nulls in a term is the one that its order has by itself. -/
theorem compareValues_nulls (term : OrderTerm) (a b : Value) :
    compareValues term.order term.nulls a b = term.order.orient (a.cmp b) := by
  obtain ⟨field, order⟩ := term
  cases order <;> cases a <;> cases b <;> rfl

theorem compareValues_of_ne_null {order : SortOrder} {a b : Value} (ha : a ≠ .null)
    (hb : b ≠ .null) (nulls : NullPlacement) :
    compareValues order nulls a b = order.orient (a.cmp b) := by
  rw [← Value.isNull_eq_false] at ha hb
  unfold compareValues
  rw [ha, hb]
  cases order <;> rfl

theorem OrderBy.compare_isNull (semantics : Semantics) (a b : String → Value) (name : String)
    (order : SortOrder) :
    OrderBy.compare semantics a b (.isNull name order)
      = order.orient (Ord.compare (a name).isNull.toNat (b name).isNull.toNat) := by
  cases order <;> rfl

/-- A test for null in front decides wherever the placement of nulls would, so the latter may be any. -/
theorem isNull_then_compareValues (term : OrderTerm) (nulls : NullPlacement) (name : String) :
    (OrderBy.compare semantics a b (.isNull name (nullOrder term.nulls))).then
        (compareValues term.order nulls (a name) (b name))
      = term.order.orient ((a name).cmp (b name)) := by
  obtain ⟨field, order⟩ := term
  rw [OrderBy.compare_isNull]
  generalize a name = x
  generalize b name = y
  cases order <;> cases nulls <;> cases x <;> cases y <;> rfl

theorem compareByTerms_append (terms others : List OrderBy) :
    compareByTerms semantics a b (terms ++ others)
      = (compareByTerms semantics a b terms).then (compareByTerms semantics a b others) := by
  induction terms with
  | nil => rfl
  | cons term terms ih =>
      rw [List.cons_append, compareByTerms, compareByTerms, ih, Ordering.then_assoc]

theorem compareByTerms_singleton (term : OrderBy) :
    compareByTerms semantics a b [term] = term.compare semantics a b :=
  Ordering.then_eq

/-- **One term.** However nulls are put into their place, the terms of a field order its values as the engine does. -/
theorem compareByTerms_ofTerm (hnulls : semantics.nullsLow = dialect.nullsLow)
    (hnullable : column.nullable = false →
      a column.column ≠ .null ∧ b column.column ≠ .null) :
    compareByTerms semantics a b (OrderBy.ofTerm dialect column term)
      = term.order.orient ((a column.column).cmp (b column.column)) := by
  have hnative : (Dialect.mk semantics.nullsLow true).nativePlacement term.order
      = dialect.nativePlacement term.order := by
    rw [hnulls]
    rfl
  unfold OrderBy.ofTerm
  by_cases hcolumn : column.nullable = true
  · rw [if_pos hcolumn]
    unfold Dialect.strategy
    by_cases hplaced : dialect.nativePlacement term.order = term.nulls
    · rw [if_pos hplaced, compareByTerms_singleton, OrderBy.compare, Option.getD_none, hnative,
        hplaced, compareValues_nulls]
    · rw [if_neg hplaced]
      cases dialect.nullsClause with
      | true => exact (compareByTerms_singleton _).trans (compareValues_nulls ..)
      | false =>
          rw [if_neg Bool.false_ne_true, compareByTerms, compareByTerms_singleton]
          exact isNull_then_compareValues ..
  · obtain ⟨ha, hb⟩ := hnullable (by simpa using hcolumn)
    rw [if_neg hcolumn, compareByTerms_singleton]
    exact compareValues_of_ne_null ha hb _

/-- A placement of nulls is written only where the database takes one. -/
theorem nullsClause_of_mem_ofTerm {name : String} {order : SortOrder} {nulls : NullPlacement}
    (hmem : .column name order (some nulls) ∈ OrderBy.ofTerm dialect column term) :
    dialect.nullsClause = true := by
  unfold OrderBy.ofTerm Dialect.strategy at hmem
  split at hmem
  · split at hmem
    · simp at hmem
    · next hstrategy =>
        by_contra hclause
        simp only [hclause, if_false] at hstrategy
        split at hstrategy <;> contradiction
    · simp at hmem
  · simp at hmem

/-! ### All terms -/

variable {ρ : Type} [Row ρ] {fields : FieldMap} {terms : List OrderTerm} {orders : List OrderBy}

/-- Fields that have columns can be ordered by, whatever the database does with nulls. -/
theorem exists_ofTerms (dialect : Dialect)
    (hmapped : ∀ term ∈ terms, ∃ column, fields.get? term.field = some column) :
    ∃ orders, OrderBy.ofTerms fields dialect terms = .ok orders := by
  induction terms with
  | nil => exact ⟨[], rfl⟩
  | cons term terms ih =>
      obtain ⟨column, hcolumn⟩ := hmapped term List.mem_cons_self
      obtain ⟨orders, horders⟩ := ih fun other hother =>
        hmapped other (List.mem_cons_of_mem _ hother)
      refine ⟨OrderBy.ofTerm dialect column term ++ orders, ?_⟩
      rw [OrderBy.ofTerms, FieldMap.resolve, hcolumn, horders]
      rfl

theorem ofTerms_cons_eq_ok
    (horders : OrderBy.ofTerms fields dialect (term :: terms) = .ok orders) :
    ∃ column rest, fields.get? term.field = some column
      ∧ OrderBy.ofTerms fields dialect terms = .ok rest
      ∧ orders = OrderBy.ofTerm dialect column term ++ rest := by
  obtain ⟨column, hcolumn, hcons⟩ := bind_eq_ok horders
  obtain ⟨rest, hrest, hconcat⟩ := bind_eq_ok hcons
  exact ⟨column, rest, resolve_eq_ok hcolumn, hrest, (Except.ok.inj hconcat).symm⟩

structure Ordered (fields : FieldMap) (cell : String → Value) (row : ρ) (field : String) :
    Prop where
  shown : Shows fields cell row field
  nullable : ∀ column, fields.get? field = some column → column.nullable = false →
    Row.value row field ≠ .null

/-- **All terms.** A statement compares rows as the engine does. -/
theorem compareByTerms_ofTerms {first second : ρ}
    (horders : OrderBy.ofTerms fields dialect terms = .ok orders)
    (hnulls : semantics.nullsLow = dialect.nullsLow)
    (hfirst : ∀ term ∈ terms, Ordered fields a first term.field)
    (hsecond : ∀ term ∈ terms, Ordered fields b second term.field) :
    compareByTerms semantics a b orders = compareRows terms first second := by
  induction terms generalizing orders with
  | nil =>
      obtain rfl := Except.ok.inj horders
      rfl
  | cons term terms ih =>
      obtain ⟨column, rest, hcolumn, hrest, rfl⟩ := ofTerms_cons_eq_ok horders
      have ha := hfirst term List.mem_cons_self
      have hb := hsecond term List.mem_cons_self
      have hterm : compareByTerms semantics a b (OrderBy.ofTerm dialect column term)
          = term.compare first second := by
        rw [compareByTerms_ofTerm hnulls, ha.shown column hcolumn, hb.shown column hcolumn,
          OrderTerm.compare_eq_orient]
        rw [ha.shown column hcolumn, hb.shown column hcolumn]
        exact fun hcell => ⟨ha.nullable column hcolumn hcell, hb.nullable column hcolumn hcell⟩
      rw [compareByTerms_append, hterm, compareRows,
        ih hrest (fun other hother => hfirst other (List.mem_cons_of_mem _ hother))
          (fun other hother => hsecond other (List.mem_cons_of_mem _ hother))]

theorem nullsClause_of_mem_ofTerms {name : String} {order : SortOrder} {nulls : NullPlacement}
    (horders : OrderBy.ofTerms fields dialect terms = .ok orders)
    (hmem : .column name order (some nulls) ∈ orders) : dialect.nullsClause = true := by
  induction terms generalizing orders with
  | nil =>
      obtain rfl := Except.ok.inj horders
      simp at hmem
  | cons term terms ih =>
      obtain ⟨column, rest, -, hrest, rfl⟩ := ofTerms_cons_eq_ok horders
      rcases List.mem_append.mp hmem with hmem | hmem
      · exact nullsClause_of_mem_ofTerm hmem
      · exact ih hrest hmem

end Registrar.Sql
