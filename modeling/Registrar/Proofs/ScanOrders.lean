import Registrar.Proofs.PageWindow
import Mathlib.Data.List.Nodup
import Mathlib.Order.Defs.Unbundled

/-!
# The orders of scans

Any list of terms compares rows consistently, and turning every term round turns the comparison
round. The terms of a scan end in the identifier, so that they tell any two rows of a store apart;
therefore a scan does not show how the rows are stored, and scans in opposite directions or orders
meet the same rows in opposite sequence.
-/

namespace Registrar

open Std

/-! ### Terms turned round -/

section Terms

variable {ρ : Type} [Row ρ] {terms earlier later : List OrderTerm} {term : OrderTerm} {a b : ρ}
  {rows others : List ρ}

theorem OrderTerm.compare_reverse (term : OrderTerm) (a b : ρ) :
    term.reverse.compare a b = (term.compare a b).swap := by
  rw [compare_eq_orient, compare_eq_orient]
  exact SortOrder.orient_reverse ..

/-- With all terms turned round, rows compare the other way. -/
theorem compareRows_reverse (terms : List OrderTerm) (a b : ρ) :
    compareRows (terms.map OrderTerm.reverse) a b = (compareRows terms a b).swap := by
  induction terms with
  | nil => rfl
  | cons term terms ih =>
      rw [List.map_cons, compareRows, compareRows, term.compare_reverse, ih, Ordering.swap_then]

theorem StrictlySorted.turned {sorted : List ρ} (hsorted : StrictlySorted terms sorted) :
    StrictlySorted (terms.map OrderTerm.reverse) sorted.reverse := by
  refine List.pairwise_reverse.mpr (hsorted.imp fun {a b} hlt => ?_)
  rw [compareRows_reverse, Ordering.swap_eq_lt]
  exact OrientedCmp.gt_of_lt hlt

/-- Sorted by terms that are turned round, untied rows stand in reverse. -/
theorem Untied.sortRows_turned (hrows : Untied terms rows) :
    sortRows (terms.map OrderTerm.reverse) rows = (sortRows terms rows).reverse :=
  (hrows.strictlySorted_sortRows.turned.eq_sortRows
    ((List.reverse_perm _).trans (sortRows_perm terms rows))).symm

/-! ### Where nulls stand -/

def NullPlacement.ordering : NullPlacement → Ordering
  | .first => .lt
  | .last => .gt

theorem OrderTerm.compare_of_null (ha : Row.value a term.field = .null)
    (hb : Row.value b term.field ≠ .null) : term.compare a b = term.nulls.ordering := by
  have hlt : (Row.value a term.field).cmp (Row.value b term.field) = .lt := by
    rw [ha]
    exact Value.null_cmp_eq_lt.mpr hb
  unfold compare nulls
  rw [hlt]
  cases term.order <;> rfl

theorem compareRows_append (earlier later : List OrderTerm) (a b : ρ) :
    compareRows (earlier ++ later) a b
      = (compareRows earlier a b).then (compareRows later a b) := by
  induction earlier with
  | nil => rfl
  | cons term earlier ih =>
      rw [List.cons_append, compareRows, compareRows, ih, Ordering.then_assoc]

/-- Among rows that the earlier terms leave tied, a term puts those without a value where it says. -/
theorem compareRows_of_null (htied : compareRows earlier a b = .eq)
    (ha : Row.value a term.field = .null) (hb : Row.value b term.field ≠ .null) :
    compareRows (earlier ++ term :: later) a b = term.nulls.ordering := by
  rw [compareRows_append, htied, compareRows, OrderTerm.compare_of_null ha hb]
  cases term.nulls <;> rfl

/-! ### How rows are stored -/

theorem RangeRequest.scan_of_perm {request : RangeRequest} (hrows : Untied request.order rows)
    (hperm : others.Perm rows) : request.scan others = request.scan rows := by
  unfold scan
  rw [(hrows.filter _).sortRows_eq_of_perm (hperm.symm.filter _)]

end Terms

/-! ### The terms of a scan -/

/-- Comparison by the terms is lawful on all rows, is turned round with the terms, and puts nulls where the terms say. -/
structure LawfulTerms (ρ : Type) [Row ρ] (terms : List OrderTerm) : Prop where
  self : ∀ a : ρ, compareRows terms a a = .eq
  swap : ∀ a b : ρ, compareRows terms b a = (compareRows terms a b).swap
  trans : ∀ a b c : ρ, (compareRows terms a b).isLE → (compareRows terms b c).isLE →
    (compareRows terms a c).isLE
  turned : ∀ a b : ρ, compareRows (terms.map OrderTerm.reverse) a b = (compareRows terms a b).swap
  nulls : ∀ earlier term later, terms = earlier ++ term :: later → ∀ a b : ρ,
    compareRows earlier a b = .eq → Row.value a term.field = .null →
      Row.value b term.field ≠ .null → compareRows terms a b = term.nulls.ordering

/-- The terms put the rows in one strict order, and what is sorted or scanned by them does not depend on how the rows are stored. -/
structure Arranges {ρ : Type} [Row ρ] (terms : List OrderTerm) (rows : List ρ) : Prop where
  strict : IsStrictTotalOrder {row // row ∈ rows} fun a b =>
    compareRows terms a.val b.val = .lt
  sorted : ∀ others : List ρ, others.Perm rows → sortRows terms others = sortRows terms rows
  scanned : ∀ (request : RangeRequest) (others : List ρ), request.order = terms →
    others.Perm rows → request.scan others = request.scan rows

section Scans

variable {ρ : Type} [Row ρ] {catalog : Catalog} {key : SortKey} {rows : List ρ}

theorem lawfulTerms (terms : List OrderTerm) : LawfulTerms ρ terms where
  self _ := ReflCmp.compare_self
  swap _ _ := OrientedCmp.eq_swap
  trans _ _ _ := TransCmp.isLE_trans
  turned := compareRows_reverse terms
  nulls := by
    rintro earlier term later rfl a b htied ha hb
    exact compareRows_of_null htied ha hb

def Catalog.scanTerms (catalog : Catalog) (key : SortKey) (order : SortOrder)
    (direction : Direction) : List OrderTerm :=
  (OrderPlan.of catalog.identifier key order direction).terms

/-- A scan towards earlier rows turns every term round, the places of nulls among them. -/
theorem Catalog.scanTerms_before (catalog : Catalog) (key : SortKey) (order : SortOrder) :
    catalog.scanTerms key order .before
      = (catalog.scanTerms key order .after).map OrderTerm.reverse :=
  rfl

theorem Catalog.scanTerms_desc (catalog : Catalog) (key : SortKey) (direction : Direction) :
    catalog.scanTerms key .desc direction
      = (catalog.scanTerms key .asc direction).map OrderTerm.reverse := by
  cases direction <;> cases key <;> rfl

theorem compareRows_scanTerms (catalog : Catalog) (key : SortKey) (order : SortOrder)
    (direction : Direction) (a b : ρ) :
    compareRows (catalog.scanTerms key order direction) a b
      = Cursor.cmpIn (direction.scanOrder order) (Cursor.at catalog key a)
        (Cursor.at catalog key b) := by
  unfold Catalog.scanTerms
  rw [OrderPlan.terms_of, compareRows_logicalTerms]

theorem Keyed.untied_scanTerms (hrows : Keyed catalog key rows) (order : SortOrder)
    (direction : Direction) : Untied (catalog.scanTerms key order direction) rows := by
  unfold Catalog.scanTerms
  rw [OrderPlan.terms_of]
  exact hrows.untied _

/-- Rows of a store that no term of a scan tells apart have one identifier, so they are one row. -/
theorem Keyed.eq_of_compareRows (hrows : Keyed catalog key rows) {order : SortOrder}
    {direction : Direction} {a b : ρ} (ha : a ∈ rows) (hb : b ∈ rows)
    (heq : compareRows (catalog.scanTerms key order direction) a b = .eq) : a = b := by
  rw [compareRows_scanTerms] at heq
  have hplace : Cursor.at catalog key a = Cursor.at catalog key b :=
    LawfulEqCmp.eq_of_compare heq
  exact List.inj_on_of_nodup_map hrows.ids_nodup ha hb (congrArg Cursor.id hplace)

/-- On the rows of a store the order of a scan is a strict total order. -/
theorem Keyed.isStrictTotalOrder (hrows : Keyed catalog key rows) (order : SortOrder)
    (direction : Direction) :
    IsStrictTotalOrder {row // row ∈ rows} fun a b =>
      compareRows (catalog.scanTerms key order direction) a.val b.val = .lt where
  irrefl a hlt := by
    have heq : compareRows (catalog.scanTerms key order direction) a.val a.val = .eq :=
      ReflCmp.compare_self
    rw [heq] at hlt
    contradiction
  trans _ _ _ := TransCmp.lt_trans
  trichotomous a b hab hba := by
    cases hcmp : compareRows (catalog.scanTerms key order direction) a.val b.val with
    | lt => exact absurd hcmp hab
    | eq => exact Subtype.ext (hrows.eq_of_compareRows a.property b.property hcmp)
    | gt => exact absurd (OrientedCmp.lt_of_gt hcmp) hba

/-- Told apart by their identifiers, the rows of a store can be met in one way only. -/
theorem Keyed.arranges (hrows : Keyed catalog key rows) (order : SortOrder)
    (direction : Direction) : Arranges (catalog.scanTerms key order direction) rows where
  strict := hrows.isStrictTotalOrder order direction
  sorted _ hperm :=
    ((hrows.untied_scanTerms order direction).sortRows_eq_of_perm hperm.symm).symm
  scanned _ _ horder hperm :=
    RangeRequest.scan_of_perm (horder ▸ hrows.untied_scanTerms order direction) hperm

/-- **Orders of scans.** Every list of terms compares all rows lawfully, and backwards when its terms are turned round. The terms of a scan put the rows of a store in one strict order, however they are stored; a scan towards earlier rows meets them in the reverse sequence of a scan towards later ones, and so does a descending scan with an ascending one. -/
theorem scans_arranged_and_mirrored :
    (∀ terms : List OrderTerm, LawfulTerms ρ terms)
      ∧ ∀ (catalog : Catalog) (key : SortKey) (rows : List ρ), Keyed catalog key rows →
        (∀ order direction, Arranges (catalog.scanTerms key order direction) rows)
          ∧ (∀ order, sortRows (catalog.scanTerms key order .before) rows
            = (sortRows (catalog.scanTerms key order .after) rows).reverse)
          ∧ ∀ direction, sortRows (catalog.scanTerms key .desc direction) rows
            = (sortRows (catalog.scanTerms key .asc direction) rows).reverse := by
  refine ⟨lawfulTerms, fun catalog key rows hrows => ⟨hrows.arranges, ?_, ?_⟩⟩
  · intro order
    rw [catalog.scanTerms_before]
    exact (hrows.untied_scanTerms order .after).sortRows_turned
  · intro direction
    rw [catalog.scanTerms_desc]
    exact (hrows.untied_scanTerms .asc direction).sortRows_turned

end Scans

/-- Stored the other way round and scanned backwards, rows with ties and nulls are met in the reverse of the listing. -/
theorem fiveRows_mirrored :
    Keyed namesCatalog (.attribute (.text "name")) fiveRows
      ∧ sortRows (namesCatalog.scanTerms (.attribute (.text "name")) .asc .before)
          fiveRows.reverse
        = [rowOf "d" "y", rowOf "e" "x", rowOf "b" "x", rowOf "c" none, rowOf "a" none] := by
  have hlisting : sortRows (namesCatalog.scanTerms (.attribute (.text "name")) .asc .after) fiveRows
      = [rowOf "a" none, rowOf "c" none, rowOf "b" "x", rowOf "e" "x", rowOf "d" "y"] :=
    (StrictlySorted.eq_sortRows (by decide) (by decide)).symm
  obtain ⟨harranges, hbefore, -⟩ :=
    scans_arranged_and_mirrored.2 namesCatalog (.attribute (.text "name")) fiveRows fiveRows_keyed
  refine ⟨fiveRows_keyed, ?_⟩
  rw [(harranges .asc .before).sorted _ (List.reverse_perm _), hbefore, hlisting]
  rfl

end Registrar
