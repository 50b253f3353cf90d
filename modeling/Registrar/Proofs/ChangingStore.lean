import Registrar.Proofs.ForwardWalk
import Mathlib.Data.List.Nodup

/-!
# Traversal of a store that changes

Rows may be inserted, deleted and changed between two pages, the row at the edge of a page among
them. The next page is found by the place of that row, not by the row, so a traversal still meets no
place twice and skips no row that stays as it is.
-/

namespace Registrar

variable {ρ : Type} [Row ρ] {catalog : Catalog} {deadline : Option Nat} {query : ListQuery}
  {stores : List (List ρ)} {pages : List (Page ρ)}

/-- A run of fetches, each from a store of its own: every page after the first is the one after the last row given, and the last page says that nothing follows. -/
inductive Traversal (catalog : Catalog) (deadline : Option Nat) :
    ListQuery → List (List ρ) → List (Page ρ) → Prop where
  | last {query : ListQuery} {store : List ρ} {page : Page ρ}
      (hfetch : paginate (inMemory store) catalog query deadline = .ok page)
      (hmore : page.info.hasMore = false) :
      Traversal catalog deadline query [store] [page]
  | next {query : ListQuery} {store : List ρ} {page : Page ρ} {row : ρ}
      {stores : List (List ρ)} {pages : List (Page ρ)}
      (hfetch : paginate (inMemory store) catalog query deadline = .ok page)
      (hmore : page.info.hasMore = true) (hlast : page.last? = some row)
      (hrest : Traversal catalog deadline (query.after (Cursor.at catalog query.sort row))
        stores pages) :
      Traversal catalog deadline query (store :: stores) (page :: pages)

structure Pageable (catalog : Catalog) (key : SortKey) (store : List ρ) : Prop where
  keyed : Keyed catalog key store
  count_le : store.length ≤ maxCount

/-! ### One page -/

theorem ListQuery.reaches_of_reaches_after {row other : ρ} (hdirection : query.direction = .after)
    (hrow : query.reaches catalog row = true)
    (hother : (query.after (Cursor.at catalog query.sort row)).reaches catalog other = true) :
    query.reaches catalog other = true := by
  rw [reaches_after_at, decide_eq_true_eq] at hother
  refine query.reaches_of_precedes ?_ hrow
  rw [hdirection]
  exact hother

/-- The page is the front of what remains, so its rows can be spoken of without the scan. -/
theorem fetched_eq_front {store : List ρ} {page : Page ρ} (hquery : query.WellTyped catalog)
    (hstore : Pageable catalog query.sort store) (hdirection : query.direction = .after)
    (hfetch : paginate (inMemory store) catalog query deadline = .ok page) :
    page = Page.front query.limit (query.remaining catalog store) := by
  rw [paginate_inMemory, pageOfRows_eq_front hquery hstore.keyed (Or.inr hstore.count_le)
    hdirection] at hfetch
  exact (Except.ok.inj hfetch).symm

/-- The query that goes on after a row of a store is as good as the one before it. -/
theorem ListQuery.wellTyped_after {store : List ρ} {row : ρ}
    (hstore : Pageable catalog query.sort store) (hrow : row ∈ query.remaining catalog store) :
    (query.after (Cursor.at catalog query.sort row)).WellTyped catalog := by
  rintro cursor ⟨⟩
  exact (hstore.keyed.sortable row (mem_remaining.mp hrow).1).wellTyped_at

/-- A store gives a page to every query, and a row to go on from if it says that more rows follow. -/
theorem exists_fetched {store : List ρ} (hquery : query.WellTyped catalog)
    (hstore : Pageable catalog query.sort store) (hdirection : query.direction = .after)
    (hlimit : 1 ≤ query.limit) (deadline : Option Nat) :
    ∃ page, paginate (inMemory store) catalog query deadline = .ok page
      ∧ (page.info.hasMore = true →
        ∃ row ∈ query.remaining catalog store, page.last? = some row) := by
  refine ⟨_, paginate_inMemory .., fun hmore => ?_⟩
  rw [pageOfRows_eq_front hquery hstore.keyed (Or.inr hstore.count_le) hdirection] at hmore ⊢
  obtain ⟨row, hrow, -⟩ := getLast?_take_of_lt hlimit (of_decide_eq_true hmore)
  exact ⟨row, List.mem_of_mem_take (List.mem_of_getLast? hrow), hrow⟩

/-- Fewer rows remain beyond a row that remained. -/
theorem ListQuery.length_remaining_after_lt {store : List ρ} {row : ρ}
    (hdirection : query.direction = .after) (hrow : row ∈ query.remaining catalog store) :
    ((query.after (Cursor.at catalog query.sort row)).remaining catalog store).length
      < (query.remaining catalog store).length := by
  have hreached := (mem_remaining.mp hrow).2.2
  have hsame : (query.after (Cursor.at catalog query.sort row)).listing catalog store
      = query.listing catalog store := by
    rw [listing, listing, scanTerms_of_after hdirection]
    rfl
  have hnarrowed : (query.after (Cursor.at catalog query.sort row)).remaining catalog store
      = (query.remaining catalog store).filter
        ((query.after (Cursor.at catalog query.sort row)).reaches catalog) := by
    rw [remaining, remaining, hsame, List.filter_filter]
    refine List.filter_congr fun other _ => ?_
    rw [Bool.eq_self_and]
    exact reaches_of_reaches_after hdirection hreached
  rw [hnarrowed]
  refine List.length_filter_lt_length_iff_exists.mpr ⟨row, hrow, ?_⟩
  rw [reaches_after_at, decide_eq_true_eq]
  exact Cursor.not_precedes_self _

/-! ### Runs that end -/

/-- What a store gives ends a run, or the run goes on from one of the rows that it gives. -/
theorem Traversal.exists_step {store : List ρ} (hquery : query.WellTyped catalog)
    (hstore : Pageable catalog query.sort store) (hdirection : query.direction = .after)
    (hlimit : 1 ≤ query.limit) (deadline : Option Nat) :
    ∃ page, Traversal catalog deadline query [store] [page]
      ∨ ∃ row ∈ query.remaining catalog store, ∀ stores pages,
        Traversal catalog deadline (query.after (Cursor.at catalog query.sort row)) stores pages →
          Traversal catalog deadline query (store :: stores) (page :: pages) := by
  obtain ⟨page, hfetch, hgoesOn⟩ := exists_fetched hquery hstore hdirection hlimit deadline
  refine ⟨page, ?_⟩
  cases hmore : page.info.hasMore with
  | false => exact Or.inl (.last hfetch hmore)
  | true =>
      obtain ⟨row, hrow, hlast⟩ := hgoesOn hmore
      exact Or.inr ⟨row, hrow, fun stores pages hrest => .next hfetch hmore hlast hrest⟩

/-- A store that is not written to is run through: with each page fewer rows remain. -/
theorem Traversal.exists_replicate {store : List ρ} (hquery : query.WellTyped catalog)
    (hstore : Pageable catalog query.sort store) (hdirection : query.direction = .after)
    (hlimit : 1 ≤ query.limit) (deadline : Option Nat) :
    ∃ count pages, Traversal catalog deadline query (List.replicate count store) pages := by
  induction hcount : (query.remaining catalog store).length using Nat.strongRecOn
    generalizing query with
  | _ number ih =>
      subst hcount
      obtain ⟨page, hend | ⟨row, hrow, hgoesOn⟩⟩ :=
        exists_step hquery hstore hdirection hlimit deadline
      · exact ⟨1, [page], hend⟩
      · obtain ⟨count, pages, hrest⟩ :=
          ih _ (ListQuery.length_remaining_after_lt hdirection hrow)
            (ListQuery.wellTyped_after hstore hrow) hstore rfl hlimit rfl
        exact ⟨count + 1, page :: pages, hgoesOn _ _ hrest⟩

/-- However a store is written to, a run ends once the writing does, if not before. -/
theorem Traversal.exists_of_written {written : List (List ρ)} {final : List ρ}
    (hquery : query.WellTyped catalog) (hdirection : query.direction = .after)
    (hlimit : 1 ≤ query.limit) (hwritten : ∀ store ∈ written, Pageable catalog query.sort store)
    (hfinal : Pageable catalog query.sort final) (deadline : Option Nat) :
    ∃ count stores pages, stores <+: written ++ List.replicate count final
      ∧ Traversal catalog deadline query stores pages := by
  induction written generalizing query with
  | nil =>
      obtain ⟨count, pages, hrun⟩ := exists_replicate hquery hfinal hdirection hlimit deadline
      exact ⟨count, _, pages, List.prefix_refl _, hrun⟩
  | cons store written ih =>
      obtain ⟨hstore, hwritten⟩ := List.forall_mem_cons.mp hwritten
      obtain ⟨page, hend | ⟨row, hrow, hgoesOn⟩⟩ :=
        exists_step hquery hstore hdirection hlimit deadline
      · exact ⟨0, [store], [page], List.prefix_append .., hend⟩
      · obtain ⟨count, stores, pages, hstores, hrest⟩ :=
          ih (ListQuery.wellTyped_after hstore hrow) rfl hlimit hwritten hfinal
        exact ⟨count, store :: stores, page :: pages, List.cons_prefix_cons.mpr ⟨rfl, hstores⟩,
          hgoesOn _ _ hrest⟩

/-! ### All pages -/

/-- What the pages of a traversal hold, whatever its stores: rows beyond the cursor in their order, and among them all that stay. -/
structure Traverses (catalog : Catalog) (query : ListQuery) (stores : List (List ρ))
    (items : List ρ) : Prop where
  reached : ∀ row ∈ items, query.reaches catalog row = true
  sorted : items.Pairwise fun a b =>
    Cursor.Precedes query.order (Cursor.at catalog query.sort a) (Cursor.at catalog query.sort b)
  complete : ∀ row, (∀ store ∈ stores, row ∈ store) → query.finds catalog row = true →
    query.reaches catalog row = true → row ∈ items

/-- What remains stands in strict order by place, ties being told apart by the identifiers. -/
theorem remaining_precedes {store : List ρ} (hstore : Pageable catalog query.sort store)
    (hdirection : query.direction = .after) :
    (query.remaining catalog store).Pairwise fun a b => Cursor.Precedes query.order
      (Cursor.at catalog query.sort a) (Cursor.at catalog query.sort b) := by
  have hsorted := ListQuery.remaining_sorted hstore.keyed
  rw [ListQuery.scanTerms_of_after hdirection] at hsorted
  exact hsorted.precedes

theorem Traverses.single {store : List ρ} (hstore : Pageable catalog query.sort store)
    (hdirection : query.direction = .after) :
    Traverses catalog query [store] (query.remaining catalog store) where
  reached := fun _ hrow => (ListQuery.mem_remaining.mp hrow).2.2
  sorted := remaining_precedes hstore hdirection
  complete := fun _ hrow hfinds hreaches =>
    ListQuery.mem_remaining.mpr ⟨hrow store List.mem_cons_self, hfinds, hreaches⟩

/-- A page is followed by rows beyond its last row only, and a row that stays is on the page or beyond that row. -/
theorem Traverses.cons {store : List ρ} {row : ρ} {items : List ρ}
    (hstore : Pageable catalog query.sort store) (hdirection : query.direction = .after)
    (hlast : ((query.remaining catalog store).take query.limit).getLast? = some row)
    (hitems : Traverses catalog (query.after (Cursor.at catalog query.sort row)) stores items) :
    Traverses catalog query (store :: stores)
      ((query.remaining catalog store).take query.limit ++ items) := by
  have hremaining := remaining_precedes hstore hdirection
  rw [← List.take_append_drop query.limit (query.remaining catalog store)] at hremaining
  obtain ⟨hpage, -, hacross⟩ := List.pairwise_append.mp hremaining
  obtain ⟨front, hfront⟩ := List.getLast?_eq_some_iff.mp hlast
  have hrow : row ∈ (query.remaining catalog store).take query.limit := by simp [hfront]
  have hreached : query.reaches catalog row = true :=
    (ListQuery.mem_remaining.mp (List.mem_of_mem_take hrow)).2.2
  have hbeyond : ∀ other ∈ items, Cursor.Precedes query.order (Cursor.at catalog query.sort row)
      (Cursor.at catalog query.sort other) := by
    intro other hother
    simpa only [ListQuery.reaches_after_at, decide_eq_true_eq] using hitems.reached other hother
  refine ⟨?_, ?_, ?_⟩
  · intro other hother
    rcases List.mem_append.mp hother with hother | hother
    · exact (ListQuery.mem_remaining.mp (List.mem_of_mem_take hother)).2.2
    · exact ListQuery.reaches_of_reaches_after hdirection hreached (hitems.reached other hother)
  · refine List.pairwise_append.mpr ⟨hpage, hitems.sorted, fun earlier hearlier later hlater => ?_⟩
    rw [hfront] at hearlier hpage
    rcases List.mem_append.mp hearlier with hearlier | hearlier
    · exact ((List.pairwise_append.mp hpage).2.2 earlier hearlier row List.mem_cons_self).trans
        (hbeyond later hlater)
    · rw [List.mem_singleton.mp hearlier]
      exact hbeyond later hlater
  · intro other hother hfinds hreaches
    have hmem : other ∈ query.remaining catalog store :=
      ListQuery.mem_remaining.mpr ⟨hother store List.mem_cons_self, hfinds, hreaches⟩
    rw [← List.take_append_drop query.limit (query.remaining catalog store)] at hmem
    rcases List.mem_append.mp hmem with hmem | hmem
    · exact List.mem_append_left _ hmem
    · refine List.mem_append_right _ (hitems.complete other
        (fun store hstore => hother store (List.mem_cons_of_mem _ hstore)) hfinds ?_)
      rw [ListQuery.reaches_after_at, decide_eq_true_eq]
      exact hacross row hrow other hmem

/-- The invariant holds of every run: by induction on the pages, from any cursor. -/
theorem Traversal.traverses (htraversal : Traversal catalog deadline query stores pages)
    (hquery : query.WellTyped catalog) (hdirection : query.direction = .after)
    (hstores : ∀ store ∈ stores, Pageable catalog query.sort store) :
    Traverses catalog query stores (pages.flatMap Page.items) := by
  induction htraversal with
  | @last query store page hfetch hmore =>
      have hstore := hstores store List.mem_cons_self
      have hpage := fetched_eq_front hquery hstore hdirection hfetch
      have hrest : (query.remaining catalog store).length ≤ query.limit := by
        simpa [hpage, Page.front] using hmore
      have hitems : [page].flatMap Page.items = query.remaining catalog store := by
        simp [hpage, Page.front, List.take_of_length_le hrest]
      rw [hitems]
      exact Traverses.single hstore hdirection
  | @next query store page row stores pages hfetch hmore hlast hrest ih =>
      have hstore := hstores store List.mem_cons_self
      have hpage := fetched_eq_front hquery hstore hdirection hfetch
      rw [hpage] at hlast
      have hrow : row ∈ query.remaining catalog store :=
        List.mem_of_mem_take (List.mem_of_getLast? hlast)
      have hnext := ListQuery.wellTyped_after hstore hrow
      have hitems := ih hnext rfl fun store hstore => hstores store (List.mem_cons_of_mem _ hstore)
      rw [List.flatMap_cons, hpage]
      exact Traverses.cons hstore hdirection hlast hitems

theorem exists_unique_position {α : Type} {items : List α} {item : α} (hmem : item ∈ items)
    (hnodup : items.Nodup) : ∃! position : Nat, items[position]? = some item := by
  obtain ⟨position, hposition⟩ := List.mem_iff_getElem?.mp hmem
  refine ⟨position, hposition, fun other hother => ?_⟩
  obtain ⟨hlt, -⟩ := List.getElem?_eq_some_iff.mp hother
  exact (List.getElem?_inj hlt hnodup).mp (hother.trans hposition.symm)

/-- **Stability.** Whatever is written between the pages of a traversal, the places of the rows it returns increase strictly in the logical order, so that none is met twice, and every found row that is in all the stores is returned exactly once. No fetch fails, and a traversal ends once nothing is written any more, if it has not ended before. -/
theorem Traversal.strictlySorted_and_complete (hstart : query.cursor = none)
    (hdirection : query.direction = .after) :
    (∀ (stores : List (List ρ)) (pages : List (Page ρ)),
        Traversal catalog deadline query stores pages →
        (∀ store ∈ stores, Pageable catalog query.sort store) →
          StrictlySorted (logicalTerms catalog.identifier query.sort query.order)
              (pages.flatMap Page.items)
            ∧ ((pages.flatMap Page.items).map (Cursor.at catalog query.sort)).Nodup
            ∧ ∀ row, (∀ store ∈ stores, row ∈ store) → query.finds catalog row = true →
              ∃! position : Nat, (pages.flatMap Page.items)[position]? = some row)
      ∧ (1 ≤ query.limit → ∀ (written : List (List ρ)) (final : List ρ),
        (∀ store ∈ written, Pageable catalog query.sort store) →
        Pageable catalog query.sort final →
          ∃ count stores pages, stores <+: written ++ List.replicate count final
            ∧ Traversal catalog deadline query stores pages) := by
  have hquery : query.WellTyped catalog := by simp [ListQuery.WellTyped, hstart]
  refine ⟨fun stores pages htraversal hstores => ?_, fun hlimit written final hwritten hfinal =>
    exists_of_written hquery hdirection hlimit hwritten hfinal deadline⟩
  have hitems := htraversal.traverses hquery hdirection hstores
  have hplaces : ((pages.flatMap Page.items).map (Cursor.at catalog query.sort)).Nodup := by
    refine List.pairwise_map.mpr (hitems.sorted.imp fun {a b} hlt heq => ?_)
    rw [heq] at hlt
    exact Cursor.not_precedes_self _ hlt
  refine ⟨?_, hplaces, fun row hrow hfinds => ?_⟩
  · refine hitems.sorted.imp fun {a b} hlt => ?_
    rw [compareRows_logicalTerms]
    exact hlt
  · refine exists_unique_position (hitems.complete row hrow hfinds ?_) (hplaces.of_map _)
    simp [ListQuery.reaches, hstart]

/-! ### A store that is written to -/

/-- After the first page the row at its edge is deleted, one row loses its place and one is inserted; after the second page the deleted row comes back behind the cursor, and the row at the edge goes. -/
def writtenStores : List (List FieldRow) :=
  [fiveRows,
    [rowOf "e" "x", rowOf "f" none, rowOf "b" "z", rowOf "a" none, rowOf "d" "y"],
    [rowOf "c" "m", rowOf "a" none, rowOf "d" "y", rowOf "b" "z"]]

def writtenPages : List (Page FieldRow) :=
  [⟨[rowOf "a" none, rowOf "c" none], ⟨2, true⟩⟩, ⟨[rowOf "f" none, rowOf "e" "x"], ⟨2, true⟩⟩,
    ⟨[rowOf "d" "y", rowOf "b" "z"], ⟨2, false⟩⟩]

theorem writtenStores_pageable :
    ∀ store ∈ writtenStores, Pageable namesCatalog (.attribute (.text "name")) store := by
  intro store hstore
  refine ⟨⟨fun row hrow => ⟨?_, ?_⟩, ?_⟩, ?_⟩
  · revert row store
    decide
  · rintro field ⟨⟩
    revert row store
    decide
  · revert store
    decide
  · revert store
    decide

theorem byName_wellTyped (limit : Nat) : (byName limit).WellTyped namesCatalog := by
  rintro cursor ⟨⟩

theorem byName_after_wellTyped (limit : Nat) (id : String) (name : Option String) :
    ((byName limit).after ⟨.text id, name.elim .null .text⟩).WellTyped namesCatalog := by
  rintro cursor ⟨⟩
  refine ⟨rfl, ?_⟩
  rintro field ⟨⟩
  cases name
  · exact Or.inl rfl
  · exact Or.inr rfl

theorem writtenStores_traversal :
    Traversal namesCatalog none (byName 2) writtenStores writtenPages := by
  have hwritten := writtenStores_pageable
  simp only [writtenStores, List.forall_mem_cons] at hwritten
  obtain ⟨hfirst, hsecond, hthird, -⟩ := hwritten
  refine .next (paginate_of_sorted [rowOf "a" none, rowOf "c" none, rowOf "b" "x", rowOf "e" "x",
    rowOf "d" "y"] (byName_wellTyped 2) hfirst.keyed (Or.inr hfirst.count_le) rfl (by decide)
    (by decide) none) rfl rfl ?_
  refine .next (paginate_of_sorted [rowOf "a" none, rowOf "f" none, rowOf "e" "x", rowOf "d" "y",
    rowOf "b" "z"] (byName_after_wellTyped 2 "c" none) hsecond.keyed (Or.inr hsecond.count_le) rfl
    (by decide) (by decide) none) rfl rfl ?_
  exact .last (paginate_of_sorted [rowOf "a" none, rowOf "c" "m", rowOf "d" "y", rowOf "b" "z"]
    (byName_after_wellTyped 2 "e" "x") hthird.keyed (Or.inr hthird.count_le) rfl (by decide)
    (by decide) none) rfl

/-- The row `d` stays while rows are deleted, changed and inserted around it. -/
theorem writtenStores_complete :
    Traversal namesCatalog none (byName 2) writtenStores writtenPages
      ∧ (∀ store ∈ writtenStores, Pageable namesCatalog (byName 2).sort store)
      ∧ StrictlySorted (logicalTerms namesCatalog.identifier (byName 2).sort .asc)
        (writtenPages.flatMap Page.items)
      ∧ ((writtenPages.flatMap Page.items).map (Cursor.at namesCatalog (byName 2).sort)).Nodup
      ∧ ∃! position : Nat, (writtenPages.flatMap Page.items)[position]? = some (rowOf "d" "y") := by
  have hstart : (byName 2).cursor = none := rfl
  have hdirection : (byName 2).direction = .after := rfl
  obtain ⟨hsorted, hnodup, hcomplete⟩ := (Traversal.strictlySorted_and_complete hstart
    hdirection).1 _ _ writtenStores_traversal writtenStores_pageable
  exact ⟨writtenStores_traversal, writtenStores_pageable, hsorted, hnodup,
    hcomplete _ (by decide) rfl⟩

end Registrar
