import Registrar.Listing

/-!
# Places in a listing

A cursor is a place in a listing. Places are ordered by sort value, nulls least, and then by
identifier. The order of rows under the terms of a listing is the order of their places, turned
round in a descending listing, so that whatever is proved of places holds of every sort key and of
both orders at once.
-/

namespace Registrar

open Std Time

/-! ### Lawful comparisons -/

instance : TransCmp Instant.cmp :=
  inferInstanceAs (TransCmp (compareLex (compareOn Instant.seconds) (compareOn Instant.nanos)))

instance : LawfulEqCmp Instant.cmp where
  eq_of_compare {a b} h := by
    obtain ⟨hseconds, hnanos⟩ := Ordering.then_eq_eq.mp h
    cases a
    cases b
    rw [Instant.mk.injEq]
    exact ⟨LawfulEqOrd.eq_of_compare hseconds, LawfulEqOrd.eq_of_compare hnanos⟩

/-- Values have one order, and looking at it from the other side turns it round. -/
theorem Value.cmp_swap (a b : Value) : a.cmp b = (b.cmp a).swap := by
  cases a <;> cases b <;> simp only [cmp, Ordering.swap_lt, Ordering.swap_gt, Ordering.swap_eq]
  · exact OrientedOrd.eq_swap
  · exact OrientedCmp.eq_swap

theorem Value.cmp_isLE_trans {a b c : Value} (hab : (a.cmp b).isLE) (hbc : (b.cmp c).isLE) :
    (a.cmp c).isLE := by
  cases a <;> cases b <;> cases c <;>
    simp only [cmp, Ordering.isLE_lt, Ordering.isLE_eq, Ordering.isLE_gt] at hab hbc ⊢
  case text.text.text => exact TransOrd.isLE_trans hab hbc
  case instant.instant.instant => exact TransCmp.isLE_trans hab hbc
  all_goals contradiction

/-- Values that compare equal are one value, so places that are tied are one place. -/
theorem Value.eq_of_cmp {a b : Value} (h : a.cmp b = .eq) : a = b := by
  cases a <;> cases b <;> simp only [cmp, reduceCtorEq] at h
  case null.null => rfl
  case text.text => rw [LawfulEqOrd.eq_of_compare h]
  case instant.instant => rw [LawfulEqCmp.eq_of_compare h]

instance : Ord Value :=
  ⟨Value.cmp⟩

instance : TransCmp Value.cmp where
  eq_swap := Value.cmp_swap _ _
  isLE_trans := Value.cmp_isLE_trans

instance : LawfulEqCmp Value.cmp where
  eq_of_compare := Value.eq_of_cmp

instance : TransOrd Value :=
  inferInstanceAs (TransCmp Value.cmp)

def SortOrder.orient (order : SortOrder) (ordering : Ordering) : Ordering :=
  match order with
  | .asc => ordering
  | .desc => ordering.swap

theorem SortOrder.orient_then (order : SortOrder) (first second : Ordering) :
    order.orient (first.then second) = (order.orient first).then (order.orient second) := by
  cases order
  · rfl
  · exact Ordering.swap_then first second

@[simp]
theorem SortOrder.orient_eq_eq {order : SortOrder} {ordering : Ordering} :
    order.orient ordering = .eq ↔ ordering = .eq := by
  cases order <;> cases ordering <;> simp [orient]

theorem SortOrder.orient_reverse (order : SortOrder) (ordering : Ordering) :
    order.reverse.orient ordering = (order.orient ordering).swap := by
  cases order <;> simp [orient, reverse]

instance SortOrder.orient_transCmp {α : Type} (order : SortOrder) (cmp : α → α → Ordering)
    [TransCmp cmp] : TransCmp fun a b => order.orient (cmp a b) where
  eq_swap {a b} := by
    have hswap : cmp a b = (cmp b a).swap := OrientedCmp.eq_swap
    rw [hswap]
    cases order <;> rfl
  isLE_trans {a b c} hab hbc := by
    cases order with
    | asc =>
        simp only [orient] at hab hbc ⊢
        exact TransCmp.isLE_trans hab hbc
    | desc =>
        simp only [orient, Ordering.isLE_swap] at hab hbc ⊢
        exact TransCmp.isGE_trans hab hbc

section Rows

variable {ρ : Type} [Row ρ]

theorem OrderTerm.compare_eq_orient (term : OrderTerm) (a b : ρ) :
    term.compare a b
      = term.order.orient ((Row.value a term.field).cmp (Row.value b term.field)) := by
  unfold compare SortOrder.orient
  cases term.order <;> rfl

instance OrderTerm.compare_transCmp (term : OrderTerm) : TransCmp (term.compare (ρ := ρ)) := by
  have hterm : term.compare (ρ := ρ) = fun a b =>
      term.order.orient (compareOn (fun row => Row.value row term.field) a b) := by
    funext a b
    exact term.compare_eq_orient a b
  rw [hterm]
  infer_instance

/-- Every list of terms orders rows: comparison is antisymmetric and transitive, ties being allowed. -/
instance compareRows_transCmp (terms : List OrderTerm) :
    TransCmp (compareRows (ρ := ρ) terms) := by
  induction terms with
  | nil => exact { eq_swap := rfl, isLE_trans := fun _ _ => rfl }
  | cons term terms ih =>
      exact inferInstanceAs (TransCmp (compareLex term.compare (compareRows terms)))

end Rows

/-! ### Places -/

namespace Cursor

def cmp (a b : Cursor) : Ordering :=
  (a.value.cmp b.value).then (a.id.cmp b.id)

instance : TransCmp cmp :=
  inferInstanceAs (TransCmp (compareLex (compareOn Cursor.value) (compareOn Cursor.id)))

instance : LawfulEqCmp cmp where
  eq_of_compare {a b} h := by
    obtain ⟨hvalue, hid⟩ := Ordering.then_eq_eq.mp h
    cases a
    cases b
    rw [Cursor.mk.injEq]
    exact ⟨LawfulEqCmp.eq_of_compare hid, LawfulEqCmp.eq_of_compare hvalue⟩

def cmpIn (order : SortOrder) (a b : Cursor) : Ordering :=
  order.orient (a.cmp b)

instance (order : SortOrder) : TransCmp (cmpIn order) :=
  SortOrder.orient_transCmp order cmp

instance (order : SortOrder) : LawfulEqCmp (cmpIn order) where
  eq_of_compare h := LawfulEqCmp.eq_of_compare (SortOrder.orient_eq_eq.mp h)

def Precedes (order : SortOrder) (a b : Cursor) : Prop :=
  cmpIn order a b = .lt

instance (order : SortOrder) (a b : Cursor) : Decidable (a.Precedes order b) :=
  inferInstanceAs (Decidable (cmpIn order a b = .lt))

variable {order : SortOrder} {a b c : Cursor}

theorem Precedes.trans (hab : Precedes order a b) (hbc : Precedes order b c) :
    Precedes order a c :=
  TransCmp.lt_trans hab hbc

theorem Precedes.asymm (hab : Precedes order a b) : ¬ Precedes order b a :=
  OrientedCmp.not_lt_of_lt hab

theorem not_precedes_self (a : Cursor) : ¬ Precedes order a a := fun haa => haa.asymm haa

/-- Different places are never tied. -/
theorem precedes_or_precedes (hne : a ≠ b) : Precedes order a b ∨ Precedes order b a := by
  cases hcmp : cmpIn order a b with
  | lt => exact Or.inl hcmp
  | eq => exact absurd (LawfulEqCmp.eq_of_compare hcmp) hne
  | gt => exact Or.inr (OrientedCmp.lt_of_gt hcmp)

theorem precedes_reverse : Precedes order.reverse a b ↔ Precedes order b a := by
  unfold Precedes
  rw [cmpIn, SortOrder.orient_reverse, Ordering.swap_eq_lt]
  change cmpIn order a b = .gt ↔ _
  exact OrientedCmp.gt_iff_lt

end Cursor

/-- Rows stand in a listing as their places do. -/
theorem compareRows_logicalTerms {ρ : Type} [Row ρ] (catalog : Catalog) (key : SortKey)
    (order : SortOrder) (a b : ρ) :
    compareRows (logicalTerms catalog.identifier key order) a b
      = Cursor.cmpIn order (Cursor.at catalog key a) (Cursor.at catalog key b) := by
  rcases key with field | field
  · simp only [logicalTerms, compareRows, OrderTerm.compare_eq_orient, Ordering.then_eq]
    rfl
  · simp only [logicalTerms, compareRows, OrderTerm.compare_eq_orient, Ordering.then_eq,
      ← SortOrder.orient_then]
    rfl

def Direction.scanOrder (direction : Direction) (order : SortOrder) : SortOrder :=
  match direction with
  | .after => order
  | .before => order.reverse

/-- A scan towards earlier rows is the listing in the other order. -/
theorem OrderPlan.terms_of (identifier : FieldSpec) (key : SortKey) (order : SortOrder)
    (direction : Direction) :
    (OrderPlan.of identifier key order direction).terms
      = logicalTerms identifier key (direction.scanOrder order) := by
  cases direction with
  | after => rfl
  | before => cases key <;> rfl

end Registrar
