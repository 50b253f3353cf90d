import Registrar.Proofs.Boundary
import Registrar.Proofs.SortedRows

/-!
# The window of a page

A page is cut from the listing of its query: the rows that meet the search, in the order of the
scan. The rows beyond the cursor remain of that listing, the page takes as many of them as it may
hold, and the one row that is fetched besides tells whether any are left.
-/

namespace Registrar

variable {ρ : Type} [Row ρ] {catalog : Catalog} {key : SortKey} {rows : List ρ} {query : ListQuery}

/-- Rows that a listing can tell apart: each has a place, and no two have the same identifier. -/
structure Keyed (catalog : Catalog) (key : SortKey) (rows : List ρ) : Prop where
  sortable : ∀ row ∈ rows, Sortable catalog key row
  ids_nodup : (rows.map fun row => Row.value row catalog.identifier.name).Nodup

/-- Identifiers decide where sort values do not, so no two rows are tied. -/
theorem Keyed.untied (hrows : Keyed catalog key rows) (order : SortOrder) :
    Untied (logicalTerms catalog.identifier key order) rows := by
  have hids : rows.Pairwise fun a b =>
      Row.value a catalog.identifier.name ≠ Row.value b catalog.identifier.name :=
    List.pairwise_map.mp hrows.ids_nodup
  refine hids.imp fun {a b} hne heq => hne ?_
  rw [compareRows_logicalTerms] at heq
  have hplace : Cursor.at catalog key a = Cursor.at catalog key b :=
    Std.LawfulEqCmp.eq_of_compare heq
  exact congrArg Cursor.id hplace

def rowOf (id : String) (name : Option String) : FieldRow :=
  ⟨[("id", .text id), ("name", name.elim .null .text)]⟩

def fiveRows : List FieldRow :=
  [rowOf "e" "x", rowOf "c" none, rowOf "b" "x", rowOf "a" none, rowOf "d" "y"]

def namesCatalog : Catalog :=
  ((Catalog.ofIdentifier (.identifier "id")).addField (.text "name")).addSearched "id"

def byName (limit : Nat) : ListQuery :=
  (ListQuery.first namesCatalog limit).withSort (.attribute (.text "name")) .asc

theorem fiveRows_keyed : Keyed namesCatalog (.attribute (.text "name")) fiveRows where
  sortable := by
    intro row hrow
    constructor
    · revert row
      decide
    · rintro field ⟨⟩
      revert row
      decide
  ids_nodup := by decide

/-! ### What a request selects -/

theorem Predicate.matches_and (row : ρ) (first second : Predicate) :
    (first.and second).matches row = (first.matches row && second.matches row) := by
  cases first <;> cases second <;>
    simp [Predicate.and, Predicate.matches, Predicate.matchesAll_eq_all]

theorem RangeRequest.selects_eq (request : RangeRequest) (row : ρ) :
    request.selects row
      = (request.search.all (·.matches row) && request.boundary.all (·.matches row)) := by
  unfold selects filter
  cases request.search <;> cases request.boundary <;> simp [Predicate.matches_and]

namespace ListQuery

def finds (query : ListQuery) (catalog : Catalog) (row : ρ) : Bool :=
  (query.search.bind catalog.search).all (·.matches row)

def reaches (query : ListQuery) (catalog : Catalog) (row : ρ) : Bool :=
  query.cursor.all fun cursor =>
    decide (Cursor.Precedes (query.direction.scanOrder query.order) (cursor.placeIn query.sort)
      (Cursor.at catalog query.sort row))

def scanTerms (query : ListQuery) (catalog : Catalog) : List OrderTerm :=
  logicalTerms catalog.identifier query.sort (query.direction.scanOrder query.order)

def listing (query : ListQuery) (catalog : Catalog) (rows : List ρ) : List ρ :=
  sortRows (query.scanTerms catalog) (rows.filter (query.finds catalog))

def remaining (query : ListQuery) (catalog : Catalog) (rows : List ρ) : List ρ :=
  (query.listing catalog rows).filter (query.reaches catalog)

/-- The cursor of the query, if there is one, is an anchor in the listing that the query asks for. -/
def WellTyped (query : ListQuery) (catalog : Catalog) : Prop :=
  ∀ cursor ∈ query.cursor, cursor.WellTyped catalog query.sort

/-- A listing has one strict order, the order of its scan. -/
theorem listing_sorted (hrows : Keyed catalog query.sort rows) :
    StrictlySorted (query.scanTerms catalog) (query.listing catalog rows) :=
  ((hrows.untied _).filter _).strictlySorted_sortRows

theorem remaining_sorted (hrows : Keyed catalog query.sort rows) :
    StrictlySorted (query.scanTerms catalog) (query.remaining catalog rows) :=
  List.Pairwise.filter _ (listing_sorted hrows)

theorem mem_remaining {row : ρ} :
    row ∈ query.remaining catalog rows
      ↔ row ∈ rows ∧ query.finds catalog row = true ∧ query.reaches catalog row = true := by
  unfold remaining listing
  rw [List.mem_filter, mem_sortRows, List.mem_filter, and_assoc]

theorem length_remaining_le : (query.remaining catalog rows).length ≤ rows.length :=
  calc (query.remaining catalog rows).length
      ≤ (query.listing catalog rows).length := List.length_filter_le ..
    _ = (rows.filter (query.finds catalog)).length := length_sortRows
    _ ≤ rows.length := List.length_filter_le ..

theorem listing_of_plain (hplain : query.search = none) :
    query.listing catalog rows = sortRows (query.scanTerms catalog) rows := by
  unfold listing
  rw [List.filter_eq_self.mpr]
  intro row hrow
  rw [finds, hplain]
  rfl

theorem scanTerms_of_after (hdirection : query.direction = .after) :
    query.scanTerms catalog = logicalTerms catalog.identifier query.sort query.order := by
  rw [scanTerms, hdirection]
  rfl

/-- What a request selects are the rows that its query finds and reaches. -/
theorem selects_assemble (hquery : query.WellTyped catalog) {row : ρ}
    (hrow : Sortable catalog query.sort row) (limit : Nat) :
    (RangeRequest.assemble catalog query limit).1.selects row
      = (query.finds catalog row && query.reaches catalog row) := by
  rw [RangeRequest.selects_eq]
  unfold RangeRequest.assemble finds reaches
  congr 1
  cases hcursor : query.cursor with
  | none => rfl
  | some cursor =>
      simp only [Option.map_some, Option.all_some]
      rw [Bool.eq_iff_iff, decide_eq_true_eq]
      exact Cursor.boundary_matches_iff (hquery cursor hcursor) hrow _ _

/-- A scan delivers what remains of the listing beyond the cursor, cut off at the limit. -/
theorem scan_assemble (hquery : query.WellTyped catalog) (hrows : Keyed catalog query.sort rows)
    (limit : Nat) :
    (RangeRequest.assemble catalog query limit).1.scan rows
      = (query.remaining catalog rows).take limit := by
  have hselect : rows.filter (RangeRequest.assemble catalog query limit).1.selects
      = (rows.filter (query.finds catalog)).filter (query.reaches catalog) := by
    rw [List.filter_filter]
    refine List.filter_congr fun row hrow => ?_
    rw [selects_assemble hquery (hrows.sortable row hrow), Bool.and_comm]
  have horder : (RangeRequest.assemble catalog query limit).1.order = query.scanTerms catalog :=
    OrderPlan.terms_of ..
  have huntied : Untied (query.scanTerms catalog) (rows.filter (query.finds catalog)) :=
    (hrows.untied _).filter _
  unfold RangeRequest.scan remaining listing
  rw [hselect, horder, huntied.filter_sortRows]
  rfl

omit [Row ρ] in
/-- The limit of a fetch does not show in the page: there is room for one row more than the page holds, or for all rows that 64 bits can count. -/
theorem pageOf_take_fetchCount (query : ListQuery) (plan : OrderPlan) {rest : List ρ}
    (hrest : query.limit < maxCount ∨ rest.length ≤ maxCount) :
    query.pageOf plan (rest.take query.fetchCount) = query.pageOf plan rest := by
  have htake : (rest.take query.fetchCount).take query.limit = rest.take query.limit := by
    rw [List.take_take]
    by_cases hlimit : query.limit ≤ query.fetchCount
    · rw [Nat.min_eq_left hlimit]
    · have hcount : rest.length ≤ min query.limit query.fetchCount := by
        unfold fetchCount at *
        omega
      rw [List.take_of_length_le hcount, List.take_of_length_le (by omega)]
  have hmore : query.limit < (rest.take query.fetchCount).length ↔ query.limit < rest.length := by
    rw [List.length_take]
    unfold fetchCount
    omega
  unfold pageOf
  simp only [htake, hmore]

end ListQuery

/-- **The window.** The page of a query holds the first rows that remain of its listing beyond the cursor, and more rows follow exactly if more remain than it holds. -/
theorem pageOfRows_eq (hquery : query.WellTyped catalog) (hrows : Keyed catalog query.sort rows)
    (hcount : query.limit < maxCount ∨ rows.length ≤ maxCount) :
    pageOfRows rows catalog query
      = query.pageOf (RangeRequest.assemble catalog query query.fetchCount).2
        (query.remaining catalog rows) := by
  have hrest : query.limit < maxCount ∨ (query.remaining catalog rows).length ≤ maxCount :=
    hcount.imp_right (Nat.le_trans ListQuery.length_remaining_le)
  unfold pageOfRows
  rw [← query.pageOf_take_fetchCount _ hrest, ← ListQuery.scan_assemble hquery hrows]

def Page.front {α : Type} (limit : Nat) (rest : List α) : Page α :=
  ⟨rest.take limit, ⟨limit, limit < rest.length⟩⟩

theorem pageOfRows_eq_front (hquery : query.WellTyped catalog)
    (hrows : Keyed catalog query.sort rows)
    (hcount : query.limit < maxCount ∨ rows.length ≤ maxCount)
    (hdirection : query.direction = .after) :
    pageOfRows rows catalog query
      = Page.front query.limit (query.remaining catalog rows) := by
  rw [pageOfRows_eq hquery hrows hcount]
  simp only [RangeRequest.assemble, OrderPlan.of, hdirection]
  rfl

def inMemory (rows : List ρ) (request : RangeRequest) : ScanOutcome ρ :=
  ⟨.ok (request.scan rows), 0⟩

/-- Rows in memory take no time, so no deadline is missed. -/
theorem paginate_inMemory (rows : List ρ) (catalog : Catalog) (query : ListQuery)
    (deadline : Option Nat) :
    paginate (inMemory rows) catalog query deadline = .ok (pageOfRows rows catalog query) := by
  unfold paginate ListQuery.conclude inMemory pageOfRows
  cases deadline <;> rfl

/-- Found rows that are sorted already are cut where the cursor stands. -/
theorem paginate_of_sorted (sorted : List ρ) (hquery : query.WellTyped catalog)
    (hrows : Keyed catalog query.sort rows)
    (hcount : query.limit < maxCount ∨ rows.length ≤ maxCount)
    (hdirection : query.direction = .after)
    (hsorted : StrictlySorted (query.scanTerms catalog) sorted)
    (hperm : sorted.Perm (rows.filter (query.finds catalog))) (deadline : Option Nat) :
    paginate (inMemory rows) catalog query deadline
      = .ok (Page.front query.limit (sorted.filter (query.reaches catalog))) := by
  have hlisting : query.listing catalog rows = sorted := (hsorted.eq_sortRows hperm).symm
  rw [paginate_inMemory, pageOfRows_eq_front hquery hrows hcount hdirection,
    ListQuery.remaining, hlisting]

end Registrar
