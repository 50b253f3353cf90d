import Registrar.Proofs.BackwardWalk
import Mathlib.Data.List.DropRight

/-!
# The two sides of a cursor

A cursor divides a listing, though no row stand at it: every row lies after it, before it or at its
very place. A page is cut from the side that its direction names, next to the cursor, and a backward
page is cut from the end of that side, since it is scanned from there.
-/

namespace Registrar

/-! ### The side that a boundary selects -/

instance : Row (String → Value) where
  value row := row

structure Cursor.StandsAt (catalog : Catalog) (key : SortKey) (cursor : Cursor)
    (anchor : String → Value) : Prop where
  id_eq : anchor catalog.identifier.name = cursor.id
  value_eq : ∀ field, key = .attribute field → anchor field.name = cursor.value

section Sides

variable {ρ : Type} [Row ρ] {catalog : Catalog} {key : SortKey} {cursor : Cursor} {row : ρ}
  {anchor : String → Value}

theorem Cursor.StandsAt.at_eq (hanchor : cursor.StandsAt catalog key anchor) :
    Cursor.at catalog key anchor = cursor.placeIn key := by
  unfold Cursor.at placeIn
  rw [Cursor.mk.injEq]
  refine ⟨hanchor.id_eq, ?_⟩
  rcases key with field | field
  · rfl
  · exact hanchor.value_eq field rfl

/-- Comparing a row with the row at a cursor is comparing its place with the cursor. -/
theorem Cursor.StandsAt.compareRows_eq (hanchor : cursor.StandsAt catalog key anchor)
    (order : SortOrder) (row : ρ) :
    compareRows (logicalTerms catalog.identifier key order) anchor (Row.value row)
      = Cursor.cmpIn order (cursor.placeIn key) (Cursor.at catalog key row) := by
  rw [compareRows_logicalTerms, hanchor.at_eq]
  rfl

/-- The boundary is the order of the scan, with the row at the cursor put in. -/
theorem Cursor.StandsAt.boundary_matches_iff (hanchor : cursor.StandsAt catalog key anchor)
    (hcursor : cursor.WellTyped catalog key) (hrow : Sortable catalog key row)
    (direction : Direction) (order : SortOrder) :
    (cursor.boundary catalog.identifier key direction order).matches row = true
      ↔ compareRows (OrderPlan.of catalog.identifier key order direction).terms anchor
        (Row.value row) = .lt := by
  rw [Cursor.boundary_matches_iff hcursor hrow, OrderPlan.terms_of, hanchor.compareRows_eq]
  rfl

/-- **The sides of a cursor.** Whether a row of a store stands at the cursor or not, a boundary selects exactly the rows before which the order of its scan puts a row at the cursor. So no row is on both sides, and the rows on neither are those that compare equal to a row at the cursor. -/
theorem Cursor.boundary_divides (hcursor : cursor.WellTyped catalog key)
    (hrow : Sortable catalog key row) (hanchor : cursor.StandsAt catalog key anchor)
    (order : SortOrder) :
    (∀ direction, (cursor.boundary catalog.identifier key direction order).matches row = true
        ↔ compareRows (OrderPlan.of catalog.identifier key order direction).terms anchor
          (Row.value row) = .lt)
      ∧ ¬ ((cursor.boundary catalog.identifier key .after order).matches row = true
        ∧ (cursor.boundary catalog.identifier key .before order).matches row = true)
      ∧ (¬ (cursor.boundary catalog.identifier key .after order).matches row = true
          ∧ ¬ (cursor.boundary catalog.identifier key .before order).matches row = true
        ↔ compareRows (logicalTerms catalog.identifier key order) anchor (Row.value row) = .eq) := by
  have hafter : (cursor.boundary catalog.identifier key .after order).matches row = true
      ↔ (cursor.placeIn key).Precedes order (Cursor.at catalog key row) :=
    Cursor.boundary_matches_iff hcursor hrow .after order
  have hbefore : (cursor.boundary catalog.identifier key .before order).matches row = true
      ↔ (Cursor.at catalog key row).Precedes order (cursor.placeIn key) :=
    (Cursor.boundary_matches_iff hcursor hrow .before order).trans Cursor.precedes_reverse
  refine ⟨fun direction => hanchor.boundary_matches_iff hcursor hrow direction order, ?_, ?_⟩
  · rw [hafter, hbefore]
    rintro ⟨hlt, hgt⟩
    exact hlt.asymm hgt
  · rw [hafter, hbefore, hanchor.compareRows_eq, Std.LawfulEqCmp.compare_eq_iff_eq]
    constructor
    · rintro ⟨hnotAfter, hnotBefore⟩
      by_contra hne
      exact (Cursor.precedes_or_precedes hne).elim hnotAfter hnotBefore
    · intro heq
      rw [heq]
      exact ⟨Cursor.not_precedes_self _, Cursor.not_precedes_self _⟩

end Sides

/-- A cursor at no stored row, its identifier lying between two rows of its name. -/
def amongNames : Cursor :=
  ⟨.text "c", .text "x"⟩

theorem amongNames_wellTyped : amongNames.WellTyped namesCatalog (.attribute (.text "name")) where
  id_kind := rfl
  value_admitted := by
    rintro field ⟨⟩
    exact Or.inr rfl

/-- In a descending listing a row without a name comes after every name, though it compares with none. -/
theorem namelessRow_after :
    amongNames.WellTyped namesCatalog (.attribute (.text "name"))
      ∧ Sortable namesCatalog (.attribute (.text "name")) (rowOf "a" none)
      ∧ amongNames.StandsAt namesCatalog (.attribute (.text "name")) (rowOf "c" "x").value
      ∧ (amongNames.boundary namesCatalog.identifier (.attribute (.text "name")) .after .desc).matches
          (rowOf "a" none) = true
      ∧ ¬ (amongNames.boundary namesCatalog.identifier (.attribute (.text "name")) .before
          .desc).matches (rowOf "a" none) = true := by
  have hrow : Sortable namesCatalog (.attribute (.text "name")) (rowOf "a" none) :=
    fiveRows_keyed.sortable _ (by decide)
  have hanchor : amongNames.StandsAt namesCatalog (.attribute (.text "name"))
      (rowOf "c" "x").value := by
    refine ⟨rfl, ?_⟩
    rintro field ⟨⟩
    rfl
  obtain ⟨hselects, hboth, -⟩ := Cursor.boundary_divides amongNames_wellTyped hrow hanchor .desc
  have hafter := (hselects .after).mpr rfl
  exact ⟨amongNames_wellTyped, hrow, hanchor, hafter, fun hbefore => hboth ⟨hafter, hbefore⟩⟩

/-! ### The rows of a side -/

def Direction.arrange {α : Type} (direction : Direction) (rows : List α) : List α :=
  match direction with
  | .after => rows
  | .before => rows.reverse

/-- The rows next to a cursor, as many as the limit allows, of all the rows on its side. -/
def Direction.nearest {α : Type} (direction : Direction) (limit : Nat) (rows : List α) : List α :=
  match direction with
  | .after => rows.take limit
  | .before => rows.rtake limit

section Arrange

variable {α : Type}

theorem Direction.filter_arrange (direction : Direction) (p : α → Bool) (rows : List α) :
    (direction.arrange rows).filter p = direction.arrange (rows.filter p) := by
  cases direction with
  | after => rfl
  | before => exact List.filter_reverse

/-- Cutting off what is scanned and turning it round again leaves the rows next to the cursor. -/
theorem Direction.arrange_take_arrange (direction : Direction) (limit : Nat) (rows : List α) :
    direction.arrange ((direction.arrange rows).take limit) = direction.nearest limit rows := by
  cases direction with
  | after => rfl
  | before => exact (List.rtake_eq_reverse_take_reverse rows limit).symm

theorem Direction.length_arrange (direction : Direction) (rows : List α) :
    (direction.arrange rows).length = rows.length := by
  cases direction with
  | after => rfl
  | before => exact List.length_reverse

theorem Direction.length_nearest (direction : Direction) (limit : Nat) (rows : List α) :
    (direction.nearest limit rows).length = min limit rows.length := by
  rw [← direction.arrange_take_arrange, length_arrange, List.length_take, length_arrange]

end Arrange

section Listing

variable {ρ : Type} [Row ρ] {catalog : Catalog} {query : ListQuery} {rows : List ρ}

def ListQuery.ordered (query : ListQuery) (catalog : Catalog) (rows : List ρ) : List ρ :=
  sortRows (logicalTerms catalog.identifier query.sort query.order)
    (rows.filter (query.finds catalog))

theorem ListQuery.mem_of_mem_ordered {row : ρ} (hrow : row ∈ query.ordered catalog rows) :
    row ∈ rows :=
  (List.mem_filter.mp (mem_sortRows.mp hrow)).1

/-- The listing as it is scanned is the listing as it is shown, or that turned round. -/
theorem ListQuery.listing_eq_arrange (hrows : Keyed catalog query.sort rows) :
    query.listing catalog rows = query.direction.arrange (query.ordered catalog rows) := by
  cases hdirection : query.direction with
  | after =>
      unfold listing
      rw [scanTerms_of_after hdirection]
      rfl
  | before =>
      have hsorted : StrictlySorted (logicalTerms catalog.identifier query.sort query.order.reverse)
          (query.listing catalog rows) := by
        have hscan := listing_sorted hrows
        unfold scanTerms at hscan
        rwa [hdirection] at hscan
      have hperm : (query.listing catalog rows).reverse.Perm (rows.filter (query.finds catalog)) :=
        (List.reverse_perm _).trans (sortRows_perm _ _)
      have hreverse : (query.listing catalog rows).reverse = query.ordered catalog rows :=
        hsorted.reverse.eq_sortRows hperm
      rw [← hreverse]
      exact (List.reverse_reverse _).symm

def ListQuery.beyond (query : ListQuery) (catalog : Catalog) (rows : List ρ) : List ρ :=
  sortRows (logicalTerms catalog.identifier query.sort query.order)
    (rows.filter fun row => query.finds catalog row && query.reaches catalog row)

/-- The rows that a query reaches are those beyond its cursor, in the order in which they are shown. -/
theorem ListQuery.filter_ordered (hrows : Keyed catalog query.sort rows) :
    (query.ordered catalog rows).filter (query.reaches catalog) = query.beyond catalog rows := by
  have huntied : Untied (logicalTerms catalog.identifier query.sort query.order)
      (rows.filter (query.finds catalog)) :=
    (hrows.untied _).filter _
  unfold ordered beyond
  rw [huntied.filter_sortRows, List.filter_filter]
  simp only [Bool.and_comm]

theorem ListQuery.remaining_eq_arrange (hrows : Keyed catalog query.sort rows) :
    query.remaining catalog rows = query.direction.arrange (query.beyond catalog rows) := by
  unfold remaining
  rw [listing_eq_arrange hrows, Direction.filter_arrange, filter_ordered hrows]

omit [Row ρ] in
theorem ListQuery.pageOf_assemble (query : ListQuery) (catalog : Catalog) (limit : Nat)
    (rest : List ρ) :
    query.pageOf (RangeRequest.assemble catalog query limit).2 rest
      = ⟨query.direction.arrange (rest.take query.limit),
        ⟨query.limit, query.limit < rest.length⟩⟩ := by
  unfold pageOf RangeRequest.assemble OrderPlan.of
  cases query.direction <;> rfl

/-- **The window at a cursor.** Of the rows beyond the cursor in its direction, which stand in the logical order, a page holds those next to the cursor, as many as there are up to the limit: the first ones of a forward page, the last ones of a backward page. It says that more rows follow exactly if more are beyond than it may hold. -/
theorem paginate_inMemory_window (hquery : query.WellTyped catalog)
    (hrows : Keyed catalog query.sort rows) (hcount : rows.length ≤ maxCount)
    (deadline : Option Nat) :
    StrictlySorted (logicalTerms catalog.identifier query.sort query.order)
        (query.beyond catalog rows)
      ∧ ∃ page, paginate (inMemory rows) catalog query deadline = .ok page
        ∧ page.items = query.direction.nearest query.limit (query.beyond catalog rows)
        ∧ page.items.length = min query.limit (query.beyond catalog rows).length
        ∧ page.info.limit = query.limit
        ∧ (page.info.hasMore = true ↔ query.limit < (query.beyond catalog rows).length) := by
  have hremaining := ListQuery.remaining_eq_arrange hrows
  have hpage := paginate_inMemory rows catalog query deadline
  rw [pageOfRows_eq hquery hrows (Or.inr hcount), hremaining, ListQuery.pageOf_assemble,
    Direction.arrange_take_arrange, Direction.length_arrange] at hpage
  have hlength := query.direction.length_nearest query.limit (query.beyond catalog rows)
  exact ⟨((hrows.untied _).filter _).strictlySorted_sortRows, _, hpage, rfl, hlength, rfl,
    decide_eq_true_iff⟩

end Listing

/-- The cursor stands at no row, and of the three rows before it the page holds the last two. -/
theorem beforeAmongNames_window :
    ((byName 2).before amongNames).WellTyped namesCatalog
      ∧ Keyed namesCatalog ((byName 2).before amongNames).sort fiveRows
      ∧ fiveRows.length ≤ maxCount
      ∧ ∃ page, paginate (inMemory fiveRows) namesCatalog ((byName 2).before amongNames) none
          = .ok page
        ∧ page.items = [rowOf "c" none, rowOf "b" "x"]
        ∧ page.info.hasMore = true := by
  have hquery : ((byName 2).before amongNames).WellTyped namesCatalog := by
    rintro cursor ⟨⟩
    exact amongNames_wellTyped
  have hcount : fiveRows.length ≤ maxCount := by decide
  have hbeyond : ((byName 2).before amongNames).beyond namesCatalog fiveRows
      = [rowOf "a" none, rowOf "c" none, rowOf "b" "x"] :=
    (StrictlySorted.eq_sortRows (by decide) (by decide)).symm
  obtain ⟨-, page, hpage, hitems, -, -, hmore⟩ :=
    paginate_inMemory_window hquery fiveRows_keyed hcount none
  rw [hbeyond] at hitems hmore
  exact ⟨hquery, fiveRows_keyed, hcount, page, hpage, hitems, hmore.mpr (by decide)⟩

end Registrar
