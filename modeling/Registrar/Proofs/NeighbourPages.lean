import Registrar.Proofs.CursorSides
import Registrar.Proofs.NextCursors
import Registrar.Proofs.SqliteWindow

/-!
# Neighbour pages

The cursors of an answer lead to the pages on both sides of it, and the cursors of these lead back.
A page is a window on the listing: some rows lie before it and some beyond it in the direction of a
cursor. The page that is reached begins with the rows beyond, and the way back is cut from the rows
of the window followed by those before it. So it gives the window again if this is as long as a page
may be, or if nothing lies before it.
-/

namespace Registrar

/-! ### Directions -/

section Arrange

variable {α : Type}

theorem Direction.arrange_arrange (direction : Direction) (rows : List α) :
    direction.arrange (direction.arrange rows) = rows := by
  cases direction with
  | after => rfl
  | before => exact List.reverse_reverse rows

theorem Direction.arrange_opposite (direction : Direction) (rows : List α) :
    direction.opposite.arrange rows = (direction.arrange rows).reverse := by
  cases direction with
  | after => rfl
  | before => exact (List.reverse_reverse rows).symm

theorem Direction.arrange_opposite_reverse (direction : Direction) (rows : List α) :
    direction.opposite.arrange rows.reverse = direction.arrange rows := by
  cases direction with
  | after => exact List.reverse_reverse rows
  | before => rfl

theorem Direction.arrange_eq_nil {direction : Direction} {rows : List α} :
    direction.arrange rows = [] ↔ rows = [] := by
  cases direction with
  | after => exact Iff.rfl
  | before => exact List.reverse_eq_nil_iff

theorem Direction.mem_arrange {direction : Direction} {rows : List α} {row : α} :
    row ∈ direction.arrange rows ↔ row ∈ rows := by
  cases direction with
  | after => exact Iff.rfl
  | before => exact List.mem_reverse

theorem Direction.opposite_ne (direction : Direction) : direction.opposite ≠ direction := by
  cases direction <;> exact Direction.noConfusion

theorem Direction.eq_opposite_of_ne {direction other : Direction} (hne : direction ≠ other) :
    direction = other.opposite := by
  cases direction <;> cases other <;> first | rfl | exact absurd rfl hne

end Arrange

/-! ### Answers -/

section Answers

variable {kind : ResourceKind}

def ListResponse.neighbour (response : ListResponse kind) : Direction → Option CursorTexts
  | .after => response.next
  | .before => response.previous

def ListResponse.front (query : ListQuery) (rest : List (Record kind)) : ListResponse kind :=
  ofPage ⟨query.direction.arrange (rest.take query.limit), ⟨query.limit, query.limit < rest.length⟩⟩
    query

/-- What is sent for a window is told by the rows that remain and by nothing else of the scan. -/
theorem ListResponse.ofPage_pageOf (query : ListQuery) (catalog : Catalog) (limit : Nat)
    (rest : List (Record kind)) :
    ofPage (query.pageOf (RangeRequest.assemble catalog query limit).2 rest) query
      = front query rest := by
  rw [ListQuery.pageOf_assemble, front]

/-- In the direction of travel a neighbour is offered if more rows remain, and in the other if the page was reached by a cursor, each at the last row that is met on the way. -/
theorem ListResponse.neighbour_front (query : ListQuery) (rest : List (Record kind))
    (direction : Direction) :
    (front query rest).neighbour direction
      = if direction = query.direction ∧ query.limit < rest.length
          ∨ direction ≠ query.direction ∧ query.cursor.isSome
        then (direction.arrange (query.direction.arrange (rest.take query.limit))).getLast?.map
          (CursorTexts.at · query)
        else none := by
  unfold front ofPage neighbour
  cases query.direction <;> cases direction <;>
    simp [Direction.arrange, Page.first?, Page.last?]

/-- A cursor that is offered is that of the last row of the page on the way, and in the direction of travel it is offered only if more rows remain. -/
theorem ListResponse.edge_of_neighbour {query : ListQuery} {rest : List (Record kind)}
    {direction : Direction} {cursor : CursorTexts}
    (hcursor : (front query rest).neighbour direction = some cursor) :
    (direction = query.direction → query.limit < rest.length)
      ∧ ∃ row, (direction.arrange (query.direction.arrange (rest.take query.limit))).getLast?
          = some row ∧ cursor = CursorTexts.at row query := by
  rw [neighbour_front] at hcursor
  split at hcursor
  · next hoffered =>
      obtain ⟨row, hrow, rfl⟩ := Option.map_eq_some_iff.mp hcursor
      refine ⟨fun hdirection => ?_, row, hrow, rfl⟩
      rcases hoffered with ⟨-, hmore⟩ | ⟨hne, -⟩
      · exact hmore
      · exact absurd hdirection hne
  · contradiction

end Answers

/-! ### Requests for neighbours -/

section Requests

def ListParams.towards (params : ListParams) (direction : Direction) (cursor : CursorTexts) :
    ListParams :=
  match direction with
  | .after =>
    { params with
      after := some cursor.id
      afterValue := cursor.value
      before := none
      beforeValue := none }
  | .before =>
    { params with
      after := none
      afterValue := none
      before := some cursor.id
      beforeValue := cursor.value }

def ListQuery.towards (query : ListQuery) (direction : Direction) (cursor : Cursor) : ListQuery :=
  { query with cursor := some cursor, direction := direction }

/-- A request for a neighbour asks for what the request before it asked for, from the cursor on and in its direction. -/
theorem ListQuery.parse_towards {params : ListParams} {catalog : Catalog} {policy : LimitPolicy}
    {query : ListQuery} {cursor : CursorTexts} {anchor : Cursor}
    (hparse : parse params catalog policy = .ok query)
    (hdecode : Cursor.decode catalog query.sort cursor.id cursor.value = .ok anchor)
    (direction : Direction) :
    parse (params.towards direction cursor) catalog policy
      = .ok (query.towards direction anchor) := by
  obtain ⟨hsort, horder, hlimit, hsearch, -, -, -⟩ := parse_eq_ok_iff.mp hparse
  apply parse_eq_ok_iff.mpr
  cases direction with
  | after =>
      exact ⟨hsort, horder, hlimit, hsearch, Bool.and_false _, rfl,
        Given.parseCursor (.after rfl rfl hdecode)⟩
  | before =>
      exact ⟨hsort, horder, hlimit, hsearch, rfl, Bool.and_false _,
        Given.parseCursor (.before rfl rfl hdecode)⟩

end Requests

/-! ### There and back -/

section Return

variable {kind : ResourceKind} {rows : List (Record kind)} {terms : Registry.ListingTerms}
  {params : ListParams} {query : ListQuery} {direction : Direction}

/-- The cursor leads in the direction to a page which, unless it is empty, has a cursor that leads back to the results. -/
def LeadsBack (terms : Registry.ListingTerms) (params : ListParams) (rows : List (Record kind))
    (direction : Direction) (cursor : CursorTexts) (results : List (Record kind)) : Prop :=
  ∃ other, listTable terms (params.towards direction cursor) rows = (.ok other, rows)
    ∧ (other.results ≠ [] → ∃ back again, other.neighbour direction.opposite = some back
      ∧ listTable terms ((params.towards direction cursor).towards direction.opposite back) rows
        = (.ok again, rows)
      ∧ again.results = results)

section Window

variable (hrows : Listable rows)
  (hparse : ListQuery.parse params kind.catalog terms.policy = .ok query)
  (hplain : query.search = none) (hlimit : query.limit < maxCount)
  {earlier window later : List (Record kind)} {row : Record kind} {cursor : CursorTexts}

include hrows hparse hplain hlimit

/-- Whatever its cursor, a request is answered from some row of the listing on. -/
theorem exists_front :
    ∃ earlier later, query.direction.arrange (query.ordered kind.catalog rows) = earlier ++ later
      ∧ listTable terms params rows = (.ok (.front query later), rows) := by
  have hkeyed := Record.keyed (ListQuery.accepted_of_parse hparse).sort_resolved
    hrows.kept.ids_nodup
  obtain ⟨earlier, later, hlisting, hrun⟩ := exists_page_run hparse hplain hrows.kept.ids_nodup
    hrows.created (List.Perm.refl rows) (Or.inl hlimit) terms.deadline
  refine ⟨earlier, later, ?_, ?_⟩
  · rw [← ListQuery.listing_eq_arrange hkeyed, hlisting]
  · rw [listTable_of_page hparse hrun, Except.map, ListResponse.ofPage_pageOf]

/-- The request beyond a row of the listing is answered with the first of the rows that follow it. -/
theorem listTable_towards
    (hordered : direction.arrange (query.ordered kind.catalog rows) = earlier ++ row :: later) :
    ListQuery.parse (params.towards direction (CursorTexts.at row query)) kind.catalog terms.policy
        = .ok (query.towards direction (Cursor.at kind.catalog query.sort row))
      ∧ listTable terms (params.towards direction (CursorTexts.at row query)) rows
        = (.ok (.front (query.towards direction (Cursor.at kind.catalog query.sort row)) later),
          rows) := by
  have hsort := (ListQuery.accepted_of_parse hparse).sort_resolved
  have hrow : row ∈ rows := by
    apply ListQuery.mem_of_mem_ordered
    apply Direction.mem_arrange.mp
    rw [hordered]
    exact List.mem_append_right _ List.mem_cons_self
  have hthere := ListQuery.parse_towards hparse
    (CursorTexts.decode_at hsort (hrows.tellable hrow)) direction
  refine ⟨hthere, ?_⟩
  have hquery := ListQuery.accepted_of_parse hthere
  have hkeyed := Record.keyed hquery.sort_resolved hrows.kept.ids_nodup
  have hlisting : (query.towards direction (Cursor.at kind.catalog query.sort row)).listing
      kind.catalog rows = earlier ++ row :: later :=
    (ListQuery.listing_eq_arrange hkeyed).trans hordered
  have hanchors := hrows.legibleAnchors_at hrow (Eq.refl
    (query.towards direction (Cursor.at kind.catalog query.sort row)).cursor)
  rw [listTable_eq hrows hthere hplain hanchors, paginate_inMemory,
    pageOfRows_eq hquery.wellTyped hkeyed (Or.inl hlimit), ListQuery.remaining_at hkeyed rfl hlisting,
    Except.map, ListResponse.ofPage_pageOf]

/-- The page is left by the last row of its window, and the way back is cut from the rows of the window followed by those before it. -/
theorem leadsBack_of_window
    (hordered : direction.arrange (query.ordered kind.catalog rows) = earlier ++ window ++ later)
    (hrow : window.getLast? = some row)
    (hback : (window.reverse ++ earlier.reverse).take query.limit = window.reverse) :
    LeadsBack terms params rows direction (CursorTexts.at row query)
      (direction.arrange window) := by
  obtain ⟨init, rfl⟩ := List.getLast?_eq_some_iff.mp hrow
  have hedge : direction.arrange (query.ordered kind.catalog rows)
      = (earlier ++ init) ++ row :: later := by
    rw [hordered]
    simp
  obtain ⟨hthere, hother⟩ := listTable_towards hrows hparse hplain hlimit hedge
  refine ⟨_, hother, ?_⟩
  intro hsome
  have htaken : later.take query.limit ≠ [] := fun hnone =>
    hsome (Direction.arrange_eq_nil.mpr hnone)
  have hlater : later ≠ [] := by
    rintro rfl
    exact htaken List.take_nil
  obtain ⟨first, rest, rfl⟩ := List.exists_cons_of_ne_nil hlater
  have hfirst : ((first :: rest).take query.limit).head? = some first := by
    rw [List.head?_take, if_neg, List.head?_cons]
    intro hzero
    rw [hzero, List.take_zero] at htaken
    exact htaken rfl
  have hturned : direction.opposite.arrange (query.ordered kind.catalog rows)
      = rest.reverse ++ first :: ((init ++ [row]).reverse ++ earlier.reverse) := by
    rw [Direction.arrange_opposite, hordered]
    simp
  obtain ⟨-, hagain⟩ := listTable_towards hrows hthere hplain hlimit hturned
  refine ⟨CursorTexts.at first query, _, ?_, hagain, ?_⟩
  · rw [ListResponse.neighbour_front, if_pos (Or.inr ⟨direction.opposite_ne, rfl⟩),
      Direction.arrange_opposite]
    change (direction.arrange (direction.arrange
      ((first :: rest).take query.limit))).reverse.getLast?.map _ = _
    rw [Direction.arrange_arrange, List.getLast?_reverse, hfirst]
    rfl
  · rw [← Direction.arrange_opposite_reverse]
    exact congrArg direction.opposite.arrange hback

/-- The cursors of an answer lead back. -/
theorem leadsBack_of_front
    (hordered : query.direction.arrange (query.ordered kind.catalog rows) = earlier ++ later)
    (hcursor : (ListResponse.front query later).neighbour direction = some cursor) :
    LeadsBack terms params rows direction cursor (ListResponse.front query later).results := by
  obtain ⟨hmore, row, hrow, rfl⟩ := ListResponse.edge_of_neighbour hcursor
  by_cases hdirection : direction = query.direction
  -- In the direction of travel the page is full, as more rows remain.
  · subst hdirection
    rw [Direction.arrange_arrange] at hrow
    have hwindow : query.direction.arrange (query.ordered kind.catalog rows)
        = earlier ++ later.take query.limit ++ later.drop query.limit := by
      rw [List.append_assoc, List.take_append_drop, hordered]
    apply leadsBack_of_window hrows hparse hplain hlimit hwindow hrow
    apply List.take_left'
    rw [List.length_reverse, List.length_take]
    exact Nat.min_eq_left (hmore rfl).le
  -- In the other one, what lies before the window are the rows that the page had no room for.
  · obtain rfl := Direction.eq_opposite_of_ne hdirection
    rw [Direction.arrange_opposite, Direction.arrange_arrange] at hrow
    have hwindow : query.direction.opposite.arrange (query.ordered kind.catalog rows)
        = (later.drop query.limit).reverse ++ (later.take query.limit).reverse
          ++ earlier.reverse := by
      rw [Direction.arrange_opposite, hordered, ← List.reverse_append, List.take_append_drop,
        List.reverse_append]
    have hresults : (ListResponse.front query later).results
        = query.direction.opposite.arrange (later.take query.limit).reverse :=
      (Direction.arrange_opposite_reverse ..).symm
    rw [hresults]
    apply leadsBack_of_window hrows hparse hplain hlimit hwindow hrow
    rw [List.reverse_reverse, List.reverse_reverse, List.take_append_drop]

/-- In the direction of travel a cursor is offered only if it leads to rows. -/
theorem exists_beyond_front
    (hordered : query.direction.arrange (query.ordered kind.catalog rows) = earlier ++ later)
    (hcursor : (ListResponse.front query later).neighbour query.direction = some cursor) :
    ∃ other, listTable terms (params.towards query.direction cursor) rows = (.ok other, rows)
      ∧ other.results ≠ [] := by
  obtain ⟨hmore, row, hrow, rfl⟩ := ListResponse.edge_of_neighbour hcursor
  rw [Direction.arrange_arrange] at hrow
  have hpositive : 1 ≤ query.limit := by
    by_contra hzero
    rw [Nat.lt_one_iff.mp (Nat.lt_of_not_le hzero), List.take_zero] at hrow
    contradiction
  obtain ⟨last, hlast, hsplit⟩ := getLast?_take_of_lt hpositive (hmore rfl)
  obtain rfl := Option.some_inj.mp (hlast.symm.trans hrow)
  have hedge : query.direction.arrange (query.ordered kind.catalog rows)
      = (earlier ++ later.take (query.limit - 1)) ++ last :: later.drop query.limit := by
    rw [hordered, List.append_assoc, ← hsplit]
  obtain ⟨-, hother⟩ := listTable_towards hrows hparse hplain hlimit hedge
  refine ⟨_, hother, ?_⟩
  intro hnone
  have htaken : (later.drop query.limit).take query.limit = [] := Direction.arrange_eq_nil.mp hnone
  rw [List.take_eq_nil_iff, List.drop_eq_nil_iff] at htaken
  have hlength := hmore rfl
  omega

end Window

/-- **There and back.** Whatever requests have filled the table, a list request that is let through without a search is answered. Each cursor of the answer leads to a page which, unless it is empty, has a cursor that leads back to the same results; and in the direction of travel it is not empty. -/
theorem neighbourCursors_leadBack {requests : List RecordRequest}
    (hrequests : ∀ request ∈ requests, request.GeneratesUuid ∧ request.Timely)
    (hparse : ListQuery.parse params kind.catalog terms.policy = .ok query)
    (hplain : query.search = none) (hlimit : query.limit < 2 ^ 63 - 1) :
    let rows : List (Record kind) := tableAfter requests []
    ∃ response, listTable terms params rows = (.ok response, rows)
      ∧ (∀ direction cursor, response.neighbour direction = some cursor →
        LeadsBack terms params rows direction cursor response.results)
      ∧ ∀ cursor, response.neighbour query.direction = some cursor →
        ∃ other, listTable terms (params.towards query.direction cursor) rows = (.ok other, rows)
          ∧ other.results ≠ [] := by
  intro rows
  have hrows : Listable rows :=
    listable_tableAfter hrequests ⟨WellKept.nil, fun _ hrow => absurd hrow List.not_mem_nil⟩
  have hcount : query.limit < maxCount := by
    have hroom : maxCount = 2 ^ 64 - 1 := rfl
    omega
  obtain ⟨earlier, later, hordered, hanswer⟩ := exists_front hrows hparse hplain hcount
  refine ⟨_, hanswer, ?_, ?_⟩
  · intro direction cursor
    exact leadsBack_of_front hrows hparse hplain hcount hordered
  · intro cursor
    exact exists_beyond_front hrows hparse hplain hcount hordered

end Return

/-- A request from an anchor in the year 10000, whose text stands before those of all records. -/
def distantParams : ListParams :=
  { ListParams.empty with
    sortBy := some "createdAt"
    after := some "r2"
    afterValue := some "9999-12-31T23:59:59-01:00"
    limit := some "2" }

def distantQuery : ListQuery :=
  ⟨.attribute (.instant "createdAt"), .asc, 2, none,
    some ⟨.text "r2", .instant ⟨253402304399, 0⟩⟩, .after⟩

def distantCondition : Sql.Condition :=
  .any [.compare "created_at" .gt (.instant ⟨253402304399, 0⟩),
    .all [.compare "created_at" .eq (.instant ⟨253402304399, 0⟩),
      .compare "role_id" .gt (.text "r2")]]

theorem threeRoles_listable : Listable (tableAfter threeRoles [] : List (Record .role)) :=
  listable_tableAfter threeRoles_timely ⟨WellKept.nil, fun _ hrow => absurd hrow List.not_mem_nil⟩

theorem distantParams_answered :
    let terms : Registry.ListingTerms := Settings.ModuleSettings.standard.terms
    let rows : List (Record .role) := tableAfter threeRoles []
    ListQuery.parse distantParams ResourceKind.role.catalog terms.policy = .ok distantQuery
      ∧ distantQuery.ordered ResourceKind.role.catalog rows = rows
      ∧ listTable terms distantParams rows = (.ok (.front distantQuery rows), rows) := by
  intro terms rows
  have hparse : ListQuery.parse distantParams ResourceKind.role.catalog terms.policy
      = .ok distantQuery := by
    decide +kernel
  have hrows : Listable rows := threeRoles_listable
  have hquery := ListQuery.accepted_of_parse hparse
  have hkeyed := Record.keyed hquery.sort_resolved hrows.kept.ids_nodup
  have hsorted : sortRows (distantQuery.scanTerms ResourceKind.role.catalog) rows = rows :=
    (StrictlySorted.eq_sortRows (by decide) (List.Perm.refl rows)).symm
  obtain ⟨select, hbuild, hrun⟩ := Sql.Select.exists_run_stored ResourceKind.role.table
    (Record.keeps rows) (Record.uniform hrows.created) hkeyed hquery distantQuery.fetchCount
  obtain ⟨-, -, hfilter, -⟩ := Sql.Select.build_eq_ok_iff.mp hbuild
  have hcondition : some (.ok distantCondition)
      = select.filter.map (Except.ok : _ → Except Sql.BuildError _) := hfilter
  obtain ⟨condition, hselect, hsame⟩ := Option.map_eq_some_iff.mp hcondition.symm
  obtain rfl := Except.ok.inj hsame
  -- The text of the anchor begins with a sign, so that it stands before the texts of all records.
  have hkept : ∀ row ∈ rows,
      select.keeps Sql.Sqlite.semantics fun column => Sql.Sqlite.stored (row.cell column) := by
    unfold Sql.Select.keeps
    rw [hselect]
    decide +kernel
  have hpage : (RecordTable.page Sql.Backend.sqlite.dialect distantQuery terms.deadline).run
      RecordTable.sqlite rows = _ := page_run_of_build hbuild terms.deadline
  rw [hrun rows (List.Perm.refl rows), List.filter_eq_self.mpr hkept, hsorted] at hpage
  refine ⟨hparse, hsorted, ?_⟩
  rw [listTable_of_page hparse hpage]
  rfl

def secondRole : CursorTexts :=
  ⟨"r2", some "1970-01-01T00:00:01Z"⟩

theorem threeRoles_leadBack :
    let terms : Registry.ListingTerms := Settings.ModuleSettings.standard.terms
    let rows : List (Record .role) := tableAfter threeRoles []
    (∀ request ∈ threeRoles, request.GeneratesUuid ∧ request.Timely)
      ∧ ListQuery.parse distantParams ResourceKind.role.catalog terms.policy = .ok distantQuery
      ∧ rows.map Record.id = ["r1", "r2", "r3"]
      ∧ ∃ response, listTable terms distantParams rows = (.ok response, rows)
        ∧ response.results = rows.take 2
        ∧ response.previous = some ⟨"r1", some "1970-01-01T00:00:00.000001Z"⟩
        ∧ response.next = some secondRole
        ∧ (∀ direction cursor, response.neighbour direction = some cursor →
          LeadsBack terms distantParams rows direction cursor response.results)
        ∧ (∀ cursor, response.neighbour .after = some cursor →
          ∃ other, listTable terms (distantParams.towards .after cursor) rows = (.ok other, rows)
            ∧ other.results ≠ [])
        ∧ ∃ other back again,
          listTable terms (distantParams.towards .after secondRole) rows = (.ok other, rows)
            ∧ other.results = rows.drop 2
            ∧ other.previous = some back
            ∧ listTable terms ((distantParams.towards .after secondRole).towards .before back) rows
              = (.ok again, rows)
            ∧ again.results = rows.take 2 := by
  intro terms rows
  obtain ⟨hparse, hordered, hfirst⟩ := distantParams_answered
  obtain ⟨response, hanswer, hback, hbeyond⟩ :=
    neighbourCursors_leadBack threeRoles_timely hparse rfl (by decide)
  obtain rfl := Except.ok.inj (Prod.mk.inj (hanswer.symm.trans hfirst)).1
  have hnext : ListResponse.next (.front distantQuery rows) = some secondRole := by
    decide +kernel
  have hcursor : CursorTexts.at (.create .role "r2" ⟨none, none, some "unnamed"⟩ ⟨1, 0⟩)
      distantQuery = secondRole := by
    decide +kernel
  have hedge : Direction.after.arrange (distantQuery.ordered ResourceKind.role.catalog rows)
      = rows.take 1 ++ .create .role "r2" ⟨none, none, some "unnamed"⟩ ⟨1, 0⟩ :: rows.drop 2 :=
    hordered.trans (by decide)
  have hthere := (listTable_towards threeRoles_listable hparse rfl (by decide) hedge).2
  rw [hcursor] at hthere
  obtain ⟨other, hother, hreturn⟩ := hback .after secondRole hnext
  obtain rfl := Except.ok.inj (Prod.mk.inj (hother.symm.trans hthere)).1
  obtain ⟨back, again, hprevious, hagain, hresults⟩ := hreturn (by decide)
  exact ⟨threeRoles_timely, hparse, by decide, _, hfirst, by decide, by decide +kernel, hnext,
    hback, hbeyond, _, back, again, hother, by decide, hprevious, hagain,
    hresults.trans (by decide)⟩

end Registrar
