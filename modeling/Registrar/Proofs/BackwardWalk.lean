import Registrar.Proofs.ForwardWalk

/-!
# Backward traversal

A page before a cursor is the page after it in the listing of the opposite order, turned round,
whatever answers the scan. So a walk from the end of a listing is the mirror image of a walk from the
start of the opposite one, and what is known of forward walks can be read off it.
-/

namespace Registrar

def Direction.opposite : Direction → Direction
  | .after => .before
  | .before => .after

def Page.reversed {α : Type} (page : Page α) : Page α :=
  { page with items := page.items.reverse }

namespace ListQuery

/-- The query that scans the same rows for a listing in the opposite order. -/
def mirrored (query : ListQuery) : ListQuery :=
  { query with order := query.order.reverse, direction := query.direction.opposite }

def fromStart (query : ListQuery) : ListQuery :=
  { query with cursor := none, direction := .after }

end ListQuery

/-! ### One page -/

section Mirror

variable {catalog : Catalog} {query : ListQuery}

theorem Direction.scanOrder_opposite (direction : Direction) (order : SortOrder) :
    direction.opposite.scanOrder order.reverse = direction.scanOrder order := by
  cases direction with
  | after => exact order.reverse_reverse
  | before => rfl

/-- Of a query and its mirror image one has its rows turned round and the other has not. -/
theorem OrderPlan.reversed_opposite (identifier : FieldSpec) (key : SortKey)
    (order other : SortOrder) (direction : Direction) :
    (OrderPlan.of identifier key other direction.opposite).reversed
      = !(OrderPlan.of identifier key order direction).reversed := by
  cases direction <;> rfl

/-- A query and its mirror image ask for the same scan. -/
theorem RangeRequest.assemble_mirrored (catalog : Catalog) (query : ListQuery) (limit : Nat) :
    (assemble catalog query.mirrored limit).1 = (assemble catalog query limit).1 := by
  have horder := query.direction.scanOrder_opposite query.order
  have hboundary : ∀ cursor : Cursor,
      cursor.boundary catalog.identifier query.sort query.direction.opposite query.order.reverse
        = cursor.boundary catalog.identifier query.sort query.direction query.order := by
    intro cursor
    rw [Cursor.boundary_scanOrder, horder, ← Cursor.boundary_scanOrder]
  unfold assemble ListQuery.mirrored
  simp only [OrderPlan.terms_of, horder, hboundary]

variable {ρ : Type}

theorem ListQuery.pageOf_mirrored (query : ListQuery) {plan other : OrderPlan}
    (hplan : other.reversed = !plan.reversed) (rows : List ρ) :
    query.mirrored.pageOf other rows = (query.pageOf plan rows).reversed := by
  unfold pageOf Page.reversed mirrored
  rw [hplan]
  cases plan.reversed <;> simp

/-- **Mirror image.** The mirrored query has the page of the query, turned round, whatever answers their scan. -/
theorem paginate_mirrored (scan : RangeRequest → ScanOutcome ρ) (catalog : Catalog)
    (query : ListQuery) (deadline : Option Nat) :
    paginate scan catalog query.mirrored deadline
      = (paginate scan catalog query deadline).map Page.reversed := by
  have hscan : scan (RangeRequest.assemble catalog query.mirrored query.mirrored.fetchCount).1
      = scan (RangeRequest.assemble catalog query query.fetchCount).1 :=
    congrArg scan (RangeRequest.assemble_mirrored catalog query query.fetchCount)
  have hplan : (RangeRequest.assemble catalog query.mirrored query.mirrored.fetchCount).2.reversed
      = !(RangeRequest.assemble catalog query query.fetchCount).2.reversed :=
    OrderPlan.reversed_opposite ..
  unfold paginate ListQuery.conclude
  dsimp only
  rw [hscan]
  split
  · rfl
  · cases (scan (RangeRequest.assemble catalog query query.fetchCount).1).rows with
    | error fault => rfl
    | ok rows => exact congrArg Except.ok (query.pageOf_mirrored hplan rows)

end Mirror

/-! ### All pages -/

section Walk

variable {ρ : Type} {fetch : ListQuery → Except ListError (Page ρ)} {anchor : ρ → Cursor}

theorem Page.first?_reversed (page : Page ρ) : page.reversed.first? = page.last? :=
  List.head?_reverse

/-- Where mirrored queries have mirrored pages, a backward walk is a forward walk in the mirror. The induction is on the pages, the query being any query on the way. -/
theorem walkBackward_mirrored
    (hfetch : ∀ query, fetch query.mirrored = (fetch query).map Page.reversed) (fuel : Nat)
    (query : ListQuery) :
    walkBackward fetch anchor fuel query.mirrored
      = (walkForward fetch anchor fuel query).map (List.map Page.reversed) := by
  induction fuel generalizing query with
  | zero => rfl
  | succ fuel ih =>
      unfold walkBackward walkForward
      rw [hfetch]
      cases fetch query with
      | error fault => rfl
      | ok page =>
          have hmore : page.reversed.info.hasMore = page.info.hasMore := rfl
          simp only [Except.map, bind, Except.bind, page.first?_reversed, hmore]
          cases page.info.hasMore with
          | false => rfl
          | true =>
              cases page.last? with
              | none => rfl
              | some row =>
                  have hnext : walkBackward fetch anchor fuel (query.mirrored.before (anchor row))
                      = (walkForward fetch anchor fuel (query.after (anchor row))).map
                        (List.map Page.reversed) :=
                    ih (query.after (anchor row))
                  dsimp only
                  rw [hnext]
                  cases walkForward fetch anchor fuel (query.after (anchor row)) <;> rfl

theorem flatMap_items_reversed (pages : List (Page ρ)) :
    (pages.map Page.reversed).reverse.flatMap Page.items
      = (pages.flatMap Page.items).reverse := by
  rw [List.reverse_flatMap, ← List.map_reverse, List.flatMap_map]
  rfl

end Walk

/-! ### Rows in memory -/

section Memory

variable {ρ : Type} [Row ρ] {catalog : Catalog} {rows : List ρ} {query : ListQuery}

/-- Turned round, rows in one order are in the other. -/
theorem StrictlySorted.reverse {key : SortKey} {order : SortOrder} {sorted : List ρ}
    (hsorted : StrictlySorted (logicalTerms catalog.identifier key order.reverse) sorted) :
    StrictlySorted (logicalTerms catalog.identifier key order) sorted.reverse := by
  refine List.pairwise_reverse.mpr (hsorted.precedes.imp fun {a b} hprecedes => ?_)
  rw [compareRows_logicalTerms]
  exact Cursor.precedes_reverse.mp hprecedes

/-- A walk from the start of a listing in memory, its rows being those that the query finds. -/
theorem exists_walkForward_fromStart (query : ListQuery) (hrows : Keyed catalog query.sort rows)
    (hcount : rows.length ≤ maxCount) (hlimit : 1 ≤ query.limit) (deadline : Option Nat)
    {fuel : Nat}
    (hfuel : pageCount query.limit (rows.filter (query.finds catalog)).length ≤ fuel) :
    ∃ pages, walkForward (fun query => paginate (inMemory rows) catalog query deadline)
        (Cursor.at catalog query.sort) fuel query.fromStart = .ok pages
      ∧ Covers query.limit (query.fromStart.listing catalog rows) pages := by
  have hkeyed : Keyed catalog query.fromStart.sort rows := hrows
  have hstart : query.fromStart.cursor = none := rfl
  have hdirection : query.fromStart.direction = .after := rfl
  have hserves := serves_inMemory hkeyed hcount hstart hdirection deadline
  have hlength : (query.fromStart.listing catalog rows).length
      = (rows.filter (query.finds catalog)).length := length_sortRows
  exact walkForward_of_serves hserves hlimit (hlength.symm ▸ hfuel)

/-- **Backward traversal.** A walk from the end of the listing ends after as many pages as the found rows fill. Its pages, the last one fetched put first, hold exactly these rows, each once and in the logical order, as the pages of a walk from the start do. -/
theorem walkBackward_inMemory (hrows : Keyed catalog query.sort rows)
    (hcount : rows.length ≤ maxCount) (hlimit : 1 ≤ query.limit) (deadline : Option Nat)
    {fuel : Nat}
    (hfuel : pageCount query.limit (rows.filter (query.finds catalog)).length ≤ fuel) :
    ∃ pages forward, walkBackward (fun query => paginate (inMemory rows) catalog query deadline)
        (Cursor.at catalog query.sort) fuel query.fromEnd = .ok pages
      ∧ walkForward (fun query => paginate (inMemory rows) catalog query deadline)
        (Cursor.at catalog query.sort) fuel query.fromStart = .ok forward
      ∧ pages.length = pageCount query.limit (rows.filter (query.finds catalog)).length
      ∧ pages.getLast?.map (·.info.hasMore) = some false
      ∧ (pages.reverse.flatMap Page.items).Perm (rows.filter (query.finds catalog))
      ∧ StrictlySorted (logicalTerms catalog.identifier query.sort query.order)
        (pages.reverse.flatMap Page.items)
      ∧ pages.reverse.flatMap Page.items = forward.flatMap Page.items := by
  let opposite : ListQuery := { query with order := query.order.reverse }
  have hmirrored : opposite.fromStart.mirrored = query.fromEnd := by
    unfold ListQuery.mirrored ListQuery.fromStart ListQuery.fromEnd opposite
    simp only [SortOrder.reverse_reverse]
    rfl
  obtain ⟨forward, hforward, hcovers⟩ :=
    exists_walkForward_fromStart query hrows hcount hlimit deadline hfuel
  obtain ⟨turned, hturned, hcoversTurned⟩ :=
    exists_walkForward_fromStart opposite hrows hcount hlimit deadline hfuel
  have hopposite : StrictlySorted (logicalTerms catalog.identifier query.sort query.order.reverse)
      (opposite.fromStart.listing catalog rows) :=
    ((hrows.untied _).filter _).strictlySorted_sortRows
  have hsorted := hopposite.reverse
  have hperm : (opposite.fromStart.listing catalog rows).reverse.Perm
      (rows.filter (query.finds catalog)) :=
    (List.reverse_perm _).trans (sortRows_perm _ _)
  have hitems : (turned.map Page.reversed).reverse.flatMap Page.items
      = (opposite.fromStart.listing catalog rows).reverse := by
    rw [flatMap_items_reversed, hcoversTurned.items_eq]
  refine ⟨turned.map Page.reversed, forward, ?_, hforward, ?_, ?_, ?_, ?_, ?_⟩
  · rw [← hmirrored, walkBackward_mirrored fun query => paginate_mirrored _ catalog query deadline]
    exact congrArg (Except.map (List.map Page.reversed)) hturned
  · rw [List.length_map, hcoversTurned.length_eq, ← hperm.length_eq, List.length_reverse]
  · rw [List.getLast?_map, Option.map_map]
    exact hcoversTurned.ended
  · rw [hitems]
    exact hperm
  · rw [hitems]
    exact hsorted
  · rw [hitems, hcovers.items_eq]
    exact hsorted.eq_sortRows hperm

end Memory

/-- Two of the five rows fit a page, so the page fetched last, at the start of the listing, holds one. -/
theorem walkBackward_fiveRows :
    Keyed namesCatalog (byName 2).sort fiveRows ∧
      ∃ pages forward,
        walkBackward (fun query => paginate (inMemory fiveRows) namesCatalog query none)
          (Cursor.at namesCatalog (byName 2).sort) 3 (byName 2).fromEnd = .ok pages
        ∧ walkForward (fun query => paginate (inMemory fiveRows) namesCatalog query none)
          (Cursor.at namesCatalog (byName 2).sort) 3 (byName 2).fromStart = .ok forward
        ∧ pages.length = 3
        ∧ pages.getLast?.map (·.info.hasMore) = some false
        ∧ (pages.reverse.flatMap Page.items).Perm fiveRows
        ∧ StrictlySorted (logicalTerms namesCatalog.identifier (byName 2).sort .asc)
          (pages.reverse.flatMap Page.items)
        ∧ pages.reverse.flatMap Page.items = forward.flatMap Page.items :=
  ⟨fiveRows_keyed,
    walkBackward_inMemory fiveRows_keyed (by decide) (by decide) none (by decide)⟩

end Registrar
