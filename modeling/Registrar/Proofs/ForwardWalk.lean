import Registrar.Proofs.PageWindow

/-!
# Forward traversal

A client that asks for the first page and then, as long as more rows follow, for the page after the
last row it was given, meets every row of the listing once and in order. The walk is cut into two
parts: pages that follow one another cover a listing, whatever serves them, and a scan of rows in
memory serves a listing so.
-/

namespace Registrar

/-- The number of pages that so many rows fill; no rows fill one empty page. -/
def pageCount (limit count : Nat) : Nat :=
  max 1 ((count + limit - 1) / limit)

theorem pageCount_of_le {limit count : Nat} (hlimit : 1 ≤ limit) (hcount : count ≤ limit) :
    pageCount limit count = 1 := by
  unfold pageCount
  have hdiv : (count + limit - 1) / limit < 2 := by
    rw [Nat.div_lt_iff_lt_mul hlimit]
    omega
  omega

theorem pageCount_of_lt {limit count : Nat} (hlimit : 1 ≤ limit) (hcount : limit < count) :
    pageCount limit count = pageCount limit (count - limit) + 1 := by
  obtain ⟨rest, rfl⟩ : ∃ rest, count = rest + 1 + limit := ⟨count - limit - 1, by omega⟩
  have hwhole : (rest + 1 + limit + limit - 1) / limit = (rest + limit) / limit + 1 := by
    rw [show rest + 1 + limit + limit - 1 = rest + limit + limit by omega,
      Nat.add_div_right _ hlimit]
  have hpart : (rest + 1 + limit - 1) / limit = (rest + limit) / limit := by
    rw [show rest + 1 + limit - 1 = rest + limit by omega]
  have hpos : 0 < (rest + limit) / limit := Nat.div_pos (by omega) hlimit
  unfold pageCount
  rw [show rest + 1 + limit - limit = rest + 1 by omega, hwhole, hpart]
  omega

section Cover

variable {α : Type} {limit : Nat} {rest : List α} {pages : List (Page α)}

/-- The pages hold the rows that remain of a listing, as few pages as can, and the last one says that nothing follows. -/
structure Covers (limit : Nat) (rest : List α) (pages : List (Page α)) : Prop where
  length_eq : pages.length = pageCount limit rest.length
  items_eq : pages.flatMap Page.items = rest
  ended : pages.getLast?.map (·.info.hasMore) = some false

theorem Covers.single (hlimit : 1 ≤ limit) (hrest : rest.length ≤ limit) :
    Covers limit rest [Page.front limit rest] where
  length_eq := (pageCount_of_le hlimit hrest).symm
  items_eq := by simp [Page.front, List.take_of_length_le hrest]
  ended := by simpa [Page.front] using hrest

/-- A full page in front of pages that cover the rest covers the whole. -/
theorem Covers.cons (hlimit : 1 ≤ limit) (hrest : limit < rest.length)
    (hpages : Covers limit (rest.drop limit) pages) :
    Covers limit rest (Page.front limit rest :: pages) where
  length_eq := by
    rw [List.length_cons, hpages.length_eq, List.length_drop, pageCount_of_lt hlimit hrest]
  items_eq := by
    rw [List.flatMap_cons, hpages.items_eq]
    exact List.take_append_drop limit rest
  ended := by
    have hne : pages ≠ [] := by
      rintro rfl
      simpa using hpages.ended
    rw [List.getLast?_cons_of_ne_nil hne]
    exact hpages.ended

end Cover

/-! ### Walks over a served listing -/

section Walk

variable {ρ : Type} {fetch : ListQuery → Except ListError (Page ρ)} {anchor : ρ → Cursor}
  {query : ListQuery} {listing : List ρ}

/-- The rows of the listing are served page by page: the first ones without a cursor, and those after any row from the anchor at that row. -/
structure Serves (fetch : ListQuery → Except ListError (Page ρ)) (anchor : ρ → Cursor)
    (query : ListQuery) (listing : List ρ) : Prop where
  first : fetch query = .ok (Page.front query.limit listing)
  next : ∀ earlier row later, listing = earlier ++ row :: later →
    fetch (query.after (anchor row)) = .ok (Page.front query.limit later)

theorem walkForward_of_more {page : Page ρ} {pages : List (Page ρ)} {row : ρ} {fuel : Nat}
    (hfetch : fetch query = .ok page) (hmore : page.info.hasMore = true)
    (hlast : page.last? = some row)
    (hrest : walkForward fetch anchor fuel (query.after (anchor row)) = .ok pages) :
    walkForward fetch anchor (fuel + 1) query = .ok (page :: pages) := by
  unfold walkForward
  simp only [hfetch, hmore, hlast, hrest, bind, Except.bind]
  rfl

theorem walkForward_of_end {page : Page ρ} {fuel : Nat} (hfetch : fetch query = .ok page)
    (hmore : page.info.hasMore = false) :
    walkForward fetch anchor (fuel + 1) query = .ok [page] := by
  unfold walkForward
  simp only [hfetch, hmore, bind, Except.bind]
  rfl

theorem getLast?_take_of_lt {rest : List ρ} {limit : Nat} (hlimit : 1 ≤ limit)
    (hrest : limit < rest.length) :
    ∃ row, (rest.take limit).getLast? = some row
      ∧ rest = rest.take (limit - 1) ++ row :: rest.drop limit := by
  have hlast : limit - 1 < rest.length := by omega
  refine ⟨rest[limit - 1], ?_, ?_⟩
  · rw [List.getLast?_take, if_neg (by omega), List.getElem?_eq_getElem hlast]
    rfl
  · have hdrop := List.drop_eq_getElem_cons hlast
    rw [show limit - 1 + 1 = limit by omega] at hdrop
    rw [← hdrop, List.take_append_drop]

/-- The walk goes on from any point of the listing to its end. The invariant is that the current query asks for the rows that remain, and differs from the first one by its cursor only. -/
theorem walkForward_covers (hserves : Serves fetch anchor query listing) (hlimit : 1 ≤ query.limit)
    (fuel : Nat) (current : ListQuery) (earlier rest : List ρ)
    (hlisting : listing = earlier ++ rest)
    (hfetch : fetch current = .ok (Page.front query.limit rest))
    (hafter : ∀ cursor, current.after cursor = query.after cursor)
    (hfuel : pageCount query.limit rest.length ≤ fuel) :
    ∃ pages, walkForward fetch anchor fuel current = .ok pages ∧ Covers query.limit rest pages := by
  induction fuel generalizing current earlier rest with
  | zero =>
      have hpos : 1 ≤ pageCount query.limit rest.length := Nat.le_max_left ..
      omega
  | succ fuel ih =>
      by_cases hrest : query.limit < rest.length
      · obtain ⟨row, hrow, hsplit⟩ := getLast?_take_of_lt hlimit hrest
        have hnext := hserves.next (earlier ++ rest.take (query.limit - 1)) row
          (rest.drop query.limit) (by rw [hlisting, List.append_assoc, ← hsplit])
        have hcount := pageCount_of_lt hlimit hrest
        obtain ⟨pages, hwalk, hcovers⟩ := ih (query.after (anchor row))
          (earlier ++ rest.take query.limit) (rest.drop query.limit)
          (by rw [List.append_assoc, List.take_append_drop, hlisting]) hnext (fun _ => rfl)
          (by rw [List.length_drop]; omega)
        exact ⟨Page.front query.limit rest :: pages,
          walkForward_of_more hfetch (by simpa [Page.front] using hrest) hrow
            (by rw [hafter]; exact hwalk),
          Covers.cons hlimit hrest hcovers⟩
      · exact ⟨[Page.front query.limit rest],
          walkForward_of_end hfetch (by simpa [Page.front] using hrest),
          Covers.single hlimit (Nat.le_of_not_lt hrest)⟩

/-- From the start of a listing that is served page by page, the walk comes to its end. -/
theorem walkForward_of_serves (hserves : Serves fetch anchor query listing)
    (hlimit : 1 ≤ query.limit) {fuel : Nat} (hfuel : pageCount query.limit listing.length ≤ fuel) :
    ∃ pages, walkForward fetch anchor fuel query = .ok pages ∧ Covers query.limit listing pages :=
  walkForward_covers hserves hlimit fuel query [] listing rfl hserves.first (fun _ => rfl) hfuel

end Walk

/-! ### Rows in memory -/

section Memory

variable {ρ : Type} [Row ρ] {catalog : Catalog} {rows : List ρ} {query : ListQuery}

theorem StrictlySorted.precedes {key : SortKey} {order : SortOrder} {sorted : List ρ}
    (hsorted : StrictlySorted (logicalTerms catalog.identifier key order) sorted) :
    sorted.Pairwise fun a b =>
      Cursor.Precedes order (Cursor.at catalog key a) (Cursor.at catalog key b) := by
  refine hsorted.imp fun {a b} hlt => ?_
  rwa [compareRows_logicalTerms] at hlt

/-- Rows of a listing have places in strict order, which is what a cursor is compared with. -/
theorem ListQuery.listing_precedes (hrows : Keyed catalog query.sort rows) :
    (query.listing catalog rows).Pairwise fun a b =>
      Cursor.Precedes (query.direction.scanOrder query.order) (Cursor.at catalog query.sort a)
        (Cursor.at catalog query.sort b) :=
  StrictlySorted.precedes (listing_sorted hrows)

/-- The rows of a listing beyond the place of one of its rows are those that follow it. -/
theorem filter_precedes_eq {key : SortKey} {order : SortOrder} {earlier later : List ρ} {row : ρ}
    (hsorted : (earlier ++ row :: later).Pairwise fun a b =>
      Cursor.Precedes order (Cursor.at catalog key a) (Cursor.at catalog key b)) :
    (earlier ++ row :: later).filter (fun other => decide (Cursor.Precedes order
      (Cursor.at catalog key row) (Cursor.at catalog key other))) = later := by
  obtain ⟨-, hfrom, hacross⟩ := List.pairwise_append.mp hsorted
  obtain ⟨hlater, -⟩ := List.pairwise_cons.mp hfrom
  have hnone : earlier.filter (fun other => decide (Cursor.Precedes order
      (Cursor.at catalog key row) (Cursor.at catalog key other))) = [] := by
    rw [List.filter_eq_nil_iff]
    intro other hother hprecedes
    exact (hacross other hother row List.mem_cons_self).asymm (of_decide_eq_true hprecedes)
  have hall : later.filter (fun other => decide (Cursor.Precedes order
      (Cursor.at catalog key row) (Cursor.at catalog key other))) = later := by
    rw [List.filter_eq_self]
    exact fun other hother => decide_eq_true (hlater other hother)
  rw [List.filter_append, hnone, List.nil_append, List.filter_cons_of_neg, hall]
  simpa using Cursor.not_precedes_self _

theorem ListQuery.reaches_at {row : ρ}
    (hcursor : query.cursor = some (Cursor.at catalog query.sort row)) :
    query.reaches catalog = fun other : ρ =>
      decide (Cursor.Precedes (query.direction.scanOrder query.order)
        (Cursor.at catalog query.sort row) (Cursor.at catalog query.sort other)) := by
  funext other
  simp only [reaches, hcursor, Option.all_some, Cursor.placeIn_at]

theorem ListQuery.reaches_after_at (query : ListQuery) (row : ρ) :
    (query.after (Cursor.at catalog query.sort row)).reaches catalog = fun other : ρ =>
      decide (Cursor.Precedes query.order (Cursor.at catalog query.sort row)
        (Cursor.at catalog query.sort other)) :=
  reaches_at rfl

/-- A cursor at a row of the listing leaves the rows that follow it. -/
theorem ListQuery.remaining_at {earlier later : List ρ} {row : ρ}
    (hrows : Keyed catalog query.sort rows)
    (hcursor : query.cursor = some (Cursor.at catalog query.sort row))
    (hlisting : query.listing catalog rows = earlier ++ row :: later) :
    query.remaining catalog rows = later := by
  have hprecedes := listing_precedes hrows
  rw [hlisting] at hprecedes
  rw [remaining, hlisting, reaches_at hcursor, filter_precedes_eq hprecedes]

/-- With a row, a cursor leaves all those that come after it. -/
theorem ListQuery.reaches_of_precedes (query : ListQuery) {a b : ρ}
    (hprecedes : Cursor.Precedes (query.direction.scanOrder query.order)
      (Cursor.at catalog query.sort a) (Cursor.at catalog query.sort b))
    (hreaches : query.reaches catalog a = true) : query.reaches catalog b = true := by
  unfold reaches at hreaches ⊢
  cases hcursor : query.cursor with
  | none => rfl
  | some cursor =>
      rw [hcursor, Option.all_some, decide_eq_true_eq] at hreaches
      rw [Option.all_some, decide_eq_true_eq]
      exact hreaches.trans hprecedes

/-- The rows in memory are served, if one more than a page holds or all of them can be counted. -/
theorem serves_listing (hrows : Keyed catalog query.sort rows)
    (hcount : query.limit < maxCount ∨ rows.length ≤ maxCount) (hstart : query.cursor = none)
    (hdirection : query.direction = .after) (deadline : Option Nat) :
    Serves (fun query => paginate (inMemory rows) catalog query deadline)
      (Cursor.at catalog query.sort) query (query.listing catalog rows) where
  first := by
    have hquery : query.WellTyped catalog := by simp [ListQuery.WellTyped, hstart]
    rw [paginate_inMemory, pageOfRows_eq_front hquery hrows hcount hdirection,
      ListQuery.remaining, List.filter_eq_self.mpr]
    exact fun row _ => by simp [ListQuery.reaches, hstart]
  next := by
    intro earlier row later hlisting
    have hmem : row ∈ query.listing catalog rows := by simp [hlisting]
    have hrow : row ∈ rows := (List.mem_filter.mp (mem_sortRows.mp hmem)).1
    have hquery : (query.after (Cursor.at catalog query.sort row)).WellTyped catalog := by
      rintro cursor ⟨⟩
      exact (hrows.sortable row hrow).wellTyped_at
    have hsame : (query.after (Cursor.at catalog query.sort row)).listing catalog rows
        = query.listing catalog rows := by
      rw [ListQuery.listing, ListQuery.listing, ListQuery.scanTerms_of_after hdirection]
      rfl
    have hkeyed : Keyed catalog (query.after (Cursor.at catalog query.sort row)).sort rows := hrows
    rw [paginate_inMemory, pageOfRows_eq_front hquery hkeyed hcount rfl,
      ListQuery.remaining_at hkeyed rfl (hsame.trans hlisting)]
    rfl

/-- Rows in memory can always be served, since all of them can be counted. -/
theorem serves_inMemory (hrows : Keyed catalog query.sort rows) (hcount : rows.length ≤ maxCount)
    (hstart : query.cursor = none) (hdirection : query.direction = .after)
    (deadline : Option Nat) :
    Serves (fun query => paginate (inMemory rows) catalog query deadline)
      (Cursor.at catalog query.sort) query (query.listing catalog rows) :=
  serves_listing hrows (Or.inr hcount) hstart hdirection deadline

/-- **Forward traversal.** A walk over rows in memory ends after as many pages as the found rows fill, and the pages hold exactly these rows, each once and in the logical order. -/
theorem walkForward_inMemory (hrows : Keyed catalog query.sort rows)
    (hcount : rows.length ≤ maxCount) (hstart : query.cursor = none)
    (hdirection : query.direction = .after) (hlimit : 1 ≤ query.limit) (deadline : Option Nat)
    {fuel : Nat}
    (hfuel : pageCount query.limit (rows.filter (query.finds catalog)).length ≤ fuel) :
    ∃ pages, walkForward (fun query => paginate (inMemory rows) catalog query deadline)
        (Cursor.at catalog query.sort) fuel query = .ok pages
      ∧ pages.length = pageCount query.limit (rows.filter (query.finds catalog)).length
      ∧ pages.getLast?.map (·.info.hasMore) = some false
      ∧ (pages.flatMap Page.items).Perm (rows.filter (query.finds catalog))
      ∧ StrictlySorted (logicalTerms catalog.identifier query.sort query.order)
        (pages.flatMap Page.items) := by
  have hlength : (query.listing catalog rows).length = (rows.filter (query.finds catalog)).length :=
    length_sortRows
  have hserves := serves_inMemory hrows hcount hstart hdirection deadline
  obtain ⟨pages, hwalk, hcovers⟩ := walkForward_of_serves hserves hlimit (hlength.symm ▸ hfuel)
  refine ⟨pages, hwalk, hlength ▸ hcovers.length_eq, hcovers.ended, ?_, ?_⟩
  · rw [hcovers.items_eq]
    exact sortRows_perm _ _
  · rw [hcovers.items_eq, ← ListQuery.scanTerms_of_after hdirection]
    exact ListQuery.listing_sorted hrows

end Memory

/-- Two of the five rows fit a page, and both edges between pages fall among rows that share a name or lack one. -/
theorem walkForward_fiveRows :
    Keyed namesCatalog (byName 2).sort fiveRows ∧
      ∃ pages, walkForward (fun query => paginate (inMemory fiveRows) namesCatalog query none)
          (Cursor.at namesCatalog (byName 2).sort) 3 (byName 2) = .ok pages
        ∧ pages.length = 3
        ∧ pages.getLast?.map (·.info.hasMore) = some false
        ∧ (pages.flatMap Page.items).Perm fiveRows
        ∧ StrictlySorted (logicalTerms namesCatalog.identifier (byName 2).sort .asc)
          (pages.flatMap Page.items) :=
  ⟨fiveRows_keyed,
    walkForward_inMemory fiveRows_keyed (by decide) rfl rfl (by decide) none (by decide)⟩

end Registrar
