import Registrar.Proofs.AcceptedRequests
import Registrar.Proofs.CursorTexts
import Registrar.Proofs.ForwardWalk
import Registrar.Proofs.RecordRequests

/-!
# Following next cursors

A client that sends back the texts of the next cursor, as long as an answer has one, is given every
record of the table once and in order. Whatever requests have filled the table, its records can be
told by texts, so each request of the client is read as the query for the rows after the last one it
was given.
-/

namespace Registrar

open Time

variable {kind : ResourceKind}

/-! ### Clients -/

section Client

variable {σ : Type} {serve : ListParams → σ → Except ListError (ListResponse kind) × σ}
  {params : ListParams} {query : ListQuery} {state : σ} {listing : List (Record kind)}
  {responses : List (ListResponse kind)}

/-- The answers that a client gets who follows next cursors until an answer has none. -/
inductive Follows (serve : ListParams → σ → Except ListError (ListResponse kind) × σ) :
    ListParams → σ → List (ListResponse kind) → Prop where
  | last {params : ListParams} {state after : σ} {response : ListResponse kind}
      (hserve : serve params state = (.ok response, after)) (hend : response.next = none) :
      Follows serve params state [response]
  | next {params : ListParams} {state after : σ} {response : ListResponse kind}
      {cursor : CursorTexts} {responses : List (ListResponse kind)}
      (hserve : serve params state = (.ok response, after)) (hnext : response.next = some cursor)
      (hrest : Follows serve (params.follow cursor) after responses) :
      Follows serve params state (response :: responses)

theorem Follows.exists_head (hfollows : Follows serve params state responses) :
    ∃ response rest after, responses = response :: rest
      ∧ serve params state = (.ok response, after) := by
  cases hfollows with
  | last hserve hend => exact ⟨_, _, _, rfl, hserve⟩
  | next hserve hnext hrest => exact ⟨_, _, _, rfl, hserve⟩

/-- Serving is a function, so a client has no choice but one walk. -/
theorem Follows.unique (hfollows : Follows serve params state responses)
    {others : List (ListResponse kind)} (hothers : Follows serve params state others) :
    others = responses := by
  induction hfollows generalizing others with
  | last hserve hend =>
      cases hothers with
      | last hserve' hend' =>
          obtain ⟨hresponse, -⟩ := Prod.mk.inj (hserve'.symm.trans hserve)
          rw [Except.ok.inj hresponse]
      | next hserve' hnext hrest =>
          obtain ⟨hresponse, -⟩ := Prod.mk.inj (hserve'.symm.trans hserve)
          rw [Except.ok.inj hresponse, hend] at hnext
          contradiction
  | next hserve hnext hrest ih =>
      cases hothers with
      | last hserve' hend =>
          obtain ⟨hresponse, -⟩ := Prod.mk.inj (hserve'.symm.trans hserve)
          rw [Except.ok.inj hresponse, hnext] at hend
          contradiction
      | next hserve' hnext' hrest' =>
          obtain ⟨hresponse, rfl⟩ := Prod.mk.inj (hserve'.symm.trans hserve)
          obtain rfl := Except.ok.inj hresponse
          obtain rfl := Option.some_inj.mp (hnext'.symm.trans hnext)
          rw [ih hrest']

/-- The requests of a walk, and the queries that they ought to be read as: the first one, and those that go on after a row of the listing. -/
inductive Asks (params : ListParams) (query : ListQuery) (listing : List (Record kind)) :
    ListParams → ListQuery → Prop where
  | first : Asks params query listing params query
  | next {row : Record kind} (hrow : row ∈ listing) :
      Asks params query listing (params.follow (CursorTexts.at row query))
        (query.after (Cursor.at kind.catalog query.sort row))

/-- The request that sends back a cursor is read as the query that goes on after its row. -/
theorem Asks.follow {current : ListParams} {asked : ListQuery} {row : Record kind}
    (hasks : Asks params query listing current asked) (hrow : row ∈ listing) :
    Asks params query listing (current.follow (CursorTexts.at row asked))
      (asked.after (Cursor.at kind.catalog query.sort row)) := by
  cases hasks with
  | first => exact .next hrow
  | next _ => exact .next hrow

theorem Asks.direction {current : ListParams} {asked : ListQuery}
    (hasks : Asks params query listing current asked) (hdirection : query.direction = .after) :
    asked.direction = .after := by
  cases hasks with
  | first => exact hdirection
  | next _ => rfl

theorem ListResponse.ofPage_after (page : Page (Record kind)) {asked : ListQuery}
    (hdirection : asked.direction = .after) :
    ListResponse.ofPage page asked
      = ⟨page.items, if asked.cursor.isSome then page.first?.map (CursorTexts.at · asked) else none,
          if page.info.hasMore then page.last?.map (CursorTexts.at · asked) else none,
          page.info.hasMore⟩ := by
  unfold ofPage
  rw [hdirection]

/-- Where requests are read as they ought to be, the answers hold the pages of the walk from row to row. The induction is on the pages, from any request of the walk. -/
theorem follows_of_walkForward {fetch : ListQuery → Except ListError (Page (Record kind))}
    (hserve : ∀ current asked, Asks params query listing current asked →
      serve current state = ((fetch asked).map (ListResponse.ofPage · asked), state))
    (hdirection : query.direction = .after) {fuel : Nat} {current : ListParams}
    {asked : ListQuery} {pages : List (Page (Record kind))}
    (hasks : Asks params query listing current asked)
    (hwalk : walkForward fetch (Cursor.at kind.catalog query.sort) fuel asked = .ok pages)
    (hitems : ∀ row ∈ pages.flatMap Page.items, row ∈ listing)
    (hended : pages.getLast?.map (·.info.hasMore) = some false) :
    ∃ responses, Follows serve current state responses
      ∧ responses.map ListResponse.results = pages.map Page.items
      ∧ ∀ response ∈ responses, response.next.isSome = response.hasMore := by
  induction fuel generalizing current asked pages with
  | zero =>
      obtain rfl := Except.ok.inj hwalk
      contradiction
  | succ fuel ih =>
      unfold walkForward at hwalk
      obtain ⟨page, hfetch, hwalk⟩ := bind_eq_ok hwalk
      have hanswer := hserve current asked hasks
      rw [hfetch] at hanswer
      have hresponse := ListResponse.ofPage_after page (hasks.direction hdirection)
      split at hwalk
      · next row hmore hlast =>
          obtain ⟨rest, hrest, hwalk⟩ := bind_eq_ok hwalk
          obtain rfl := Except.ok.inj hwalk
          rw [List.flatMap_cons, List.forall_mem_append] at hitems
          obtain ⟨hpage, hitems⟩ := hitems
          have hne : rest ≠ [] := by
            rintro rfl
            rw [List.getLast?_singleton, Option.map_some, hmore] at hended
            contradiction
          rw [List.getLast?_cons_of_ne_nil hne] at hended
          obtain ⟨responses, hfollows, hresults, hnexts⟩ :=
            ih (hasks.follow (hpage row (List.mem_of_getLast? hlast))) hrest hitems hended
          rw [if_pos hmore, hlast, Option.map_some] at hresponse
          refine ⟨ListResponse.ofPage page asked :: responses, ?_, ?_, ?_⟩
          · exact .next hanswer (by rw [hresponse]) hfollows
          · rw [List.map_cons, List.map_cons, hresults, hresponse]
          · refine List.forall_mem_cons.mpr ⟨?_, hnexts⟩
            rw [hresponse, hmore]
            rfl
      · obtain rfl := Except.ok.inj hwalk
        have hmore : page.info.hasMore = false := by simpa using hended
        rw [hmore, if_neg Bool.false_ne_true] at hresponse
        refine ⟨[ListResponse.ofPage page asked], ?_, ?_, ?_⟩
        · exact .last hanswer (by rw [hresponse])
        · rw [hresponse]
          rfl
        · intro response hmem
          rw [List.mem_singleton.mp hmem, hresponse]
          rfl

end Client

/-! ### Tables -/

section Tables

variable {rows : List (Record kind)} {terms : Registry.ListingTerms} {params : ListParams}
  {query : ListQuery}

def listTable (terms : Registry.ListingTerms) (params : ListParams) (rows : List (Record kind)) :
    Except ListError (ListResponse kind) × List (Record kind) :=
  let (outcome, after) := ((Registry.list terms params).expand
    (RecordTable.carryOut Sql.Backend.sqlite.dialect)).run RecordTable.sqlite rows
  (outcome.map fun listed => ListResponse.ofPage listed.page listed.query, after)

structure Listable (rows : List (Record kind)) : Prop where
  kept : WellKept rows
  created : ∀ row ∈ rows, row.created.Proper ∧ row.created.HasCommonYear

theorem Listable.tellable (hrows : Listable rows) {row : Record kind} (hrow : row ∈ rows)
    (name : String) : (Row.value row name).Tellable :=
  row.tellable (hrows.kept.ids_storable row hrow) (hrows.kept.validated row hrow)
    (hrows.created row hrow) name

theorem Listable.legibleAnchors_at (hrows : Listable rows) {row : Record kind} (hrow : row ∈ rows)
    {key : SortKey} {query : ListQuery}
    (hcursor : query.cursor = some (Cursor.at kind.catalog key row)) : query.LegibleAnchors := by
  intro cursor hmem
  rw [hcursor, Option.mem_some_iff] at hmem
  subst hmem
  refine ⟨(hrows.tellable hrow _).1, ?_⟩
  unfold Cursor.at
  dsimp only
  split
  · trivial
  · exact (hrows.tellable hrow _).1

/-- A request is answered with the outcome of its query on SQLite. -/
theorem listTable_of_page {outcome : Except ListError (Page (Record kind))}
    (hparse : ListQuery.parse params kind.catalog terms.policy = .ok query)
    (hpage : (RecordTable.page Sql.Backend.sqlite.dialect query terms.deadline).run
      RecordTable.sqlite rows = (outcome, rows)) :
    listTable terms params rows = (outcome.map (ListResponse.ofPage · query), rows) := by
  have hstore : sqliteStore (.page query terms.deadline) rows = (outcome, rows) := hpage
  unfold listTable
  rw [run_sqliteStore]
  unfold Registry.list
  rw [hparse]
  dsimp only [Program.run]
  rw [hstore]
  cases outcome <;> rfl

/-- A request that is read as a query without a search is answered with the query's page of the records in memory. -/
theorem listTable_eq (hrows : Listable rows)
    (hparse : ListQuery.parse params kind.catalog terms.policy = .ok query)
    (hplain : query.search = none) (hanchors : query.LegibleAnchors) :
    listTable terms params rows
      = ((paginate (inMemory rows) kind.catalog query terms.deadline).map
          (ListResponse.ofPage · query), rows) := by
  refine listTable_of_page hparse ?_
  exact page_run_sqlite (ListQuery.accepted_of_parse hparse) hplain hanchors hrows.kept.ids_nodup
    hrows.created (List.Perm.refl rows) terms.deadline

theorem listTable_of_asks (hrows : Listable rows)
    (hparse : ListQuery.parse params kind.catalog terms.policy = .ok query)
    (hplain : query.search = none) (hstart : query.cursor = none) (hbefore : params.before = none)
    {current : ListParams} {asked : ListQuery}
    (hasks : Asks params query (query.listing kind.catalog rows) current asked) :
    listTable terms current rows
      = ((paginate (inMemory rows) kind.catalog asked terms.deadline).map
          (ListResponse.ofPage · asked), rows) := by
  cases hasks with
  | first =>
      refine listTable_eq hrows hparse hplain fun cursor hcursor => ?_
      rw [hstart] at hcursor
      contradiction
  | @next row hrow =>
      have hmem : row ∈ rows := (List.mem_filter.mp (mem_sortRows.mp hrow)).1
      have hdecode := CursorTexts.decode_at (ListQuery.accepted_of_parse hparse).sort_resolved
        (hrows.tellable hmem)
      exact listTable_eq hrows (ListQuery.parse_follow hparse hbefore hdecode) hplain
        (hrows.legibleAnchors_at hmem rfl)

/-- What a client is given who starts with a request for a first page. -/
theorem exists_follows (hrows : Listable rows)
    (hparse : ListQuery.parse params kind.catalog terms.policy = .ok query)
    (hplain : query.search = none) (hstart : query.cursor = none) (hbefore : params.before = none)
    (hdirection : query.direction = .after) (hlimit : 1 ≤ query.limit)
    (hmax : query.limit < maxCount) :
    ∃ responses, Follows (listTable terms) params rows responses
      ∧ responses.length = pageCount query.limit rows.length
      ∧ (∀ response ∈ responses, response.next.isSome = response.hasMore)
      ∧ (responses.flatMap ListResponse.results).Perm rows
      ∧ StrictlySorted (logicalTerms kind.catalog.identifier query.sort query.order)
        (responses.flatMap ListResponse.results) := by
  have hkeyed := Record.keyed (ListQuery.accepted_of_parse hparse).sort_resolved
    hrows.kept.ids_nodup
  have hperm : (query.listing kind.catalog rows).Perm rows := by
    rw [ListQuery.listing_of_plain hplain]
    exact sortRows_perm _ _
  have hsorted := ListQuery.listing_sorted hkeyed
  rw [ListQuery.scanTerms_of_after hdirection] at hsorted
  have hserves := serves_listing hkeyed (Or.inl hmax) hstart hdirection terms.deadline
  obtain ⟨pages, hwalk, hcovers⟩ := walkForward_of_serves hserves hlimit le_rfl
  obtain ⟨responses, hfollows, hresults, hnexts⟩ := follows_of_walkForward
    (fun current asked hasks => listTable_of_asks hrows hparse hplain hstart hbefore hasks)
    hdirection .first hwalk (fun row hrow => hcovers.items_eq ▸ hrow) hcovers.ended
  have hcount := congrArg List.length hresults
  rw [List.length_map, List.length_map, hcovers.length_eq, hperm.length_eq] at hcount
  have hall : responses.flatMap ListResponse.results = query.listing kind.catalog rows := by
    rw [List.flatMap_def, hresults, ← List.flatMap_def, hcovers.items_eq]
  refine ⟨responses, hfollows, hcount, hnexts, ?_, ?_⟩
  · rw [hall]
    exact hperm
  · rw [hall]
    exact hsorted

end Tables

/-! ### Tables filled by requests -/

section Requests

variable {rows : List (Record kind)}

def tableAfter (requests : List RecordRequest) (rows : List (Record kind)) : List (Record kind) :=
  requests.foldl (fun rows request => (request.serve rows).2) rows

def RecordRequest.Timely : RecordRequest → Prop
  | .create _ _ now => now.Proper ∧ now.HasCommonYear
  | _ => True

theorem Served.created_of_timely {request : RecordRequest} {outcome : RecordOutcome kind}
    {after : List (Record kind)} (hserved : Served rows request outcome after)
    (htimely : request.Timely)
    (hrows : ∀ row ∈ rows, row.created.Proper ∧ row.created.HasCommonYear) :
    ∀ row ∈ after, row.created.Proper ∧ row.created.HasCommonYear := by
  cases hserved with
  | created hnew hfree =>
      obtain ⟨rfl, -, -⟩ := newRecord_eq_ok_iff.mp hnew
      refine List.forall_mem_append.mpr ⟨hrows, fun row hrow => ?_⟩
      rw [List.mem_singleton.mp hrow]
      exact ⟨htimely.1.toMicroseconds, htimely.2⟩
  | @updated id patch record hrecord hvalid =>
      rw [List.forall_mem_map]
      intro row hrow
      unfold replaceBy
      split
      · exact hrows record (mem_of_recordAt hrecord)
      · exact hrows row hrow
  | deleted hrecord => exact fun row hrow => hrows row (List.mem_of_mem_filter hrow)
  | refused hnew => exact hrows
  | taken hnew hold => exact hrows
  | absent hrequest habsent => exact hrows
  | found hrecord => exact hrows
  | spoiled hrecord hinvalid => exact hrows

/-- Whatever is requested of it, a table stays in order as long as the clock shows years of four digits. -/
theorem listable_tableAfter {requests : List RecordRequest}
    (hrequests : ∀ request ∈ requests, request.GeneratesUuid ∧ request.Timely)
    (hrows : Listable rows) : Listable (tableAfter requests rows) := by
  induction requests generalizing rows with
  | nil => exact hrows
  | cons request requests ih =>
      obtain ⟨⟨huuid, htimely⟩, hrest⟩ := List.forall_mem_cons.mp hrequests
      have hserved := serve_served request rows
      exact ih hrest
        ⟨hserved.wellKept huuid hrows.kept, hserved.created_of_timely htimely hrows.created⟩

/-- **Following next cursors.** Whatever requests have filled the table, the walk of a client that sends back next cursors has exactly one course: every request is let through, there are as many as the records fill pages, a next cursor is given exactly if more rows follow, the first page has no previous one, and the pages hold all records, each once and in the logical order. -/
theorem nextCursors_complete {settings : Settings.ModuleSettings}
    (hsettings : settings.validate = .ok ()) (hmax : settings.maxPageSize < 2 ^ 63 - 1)
    {requests : List RecordRequest}
    (hrequests : ∀ request ∈ requests, request.GeneratesUuid ∧ request.Timely)
    {name : String} (hname : name ∈ kind.catalog.sortNames) (order : SortOrder)
    {raw : Option String} {limit : Nat} (hlimit : parseLimit raw settings.limits = .ok limit) :
    let rows : List (Record kind) := tableAfter requests []
    ∃ key responses, kind.catalog.resolve name = some key
      ∧ (∀ others, Follows (listTable settings.terms) (.start name order raw) rows others
        ↔ others = responses)
      ∧ responses.length = pageCount limit rows.length
      ∧ (∀ response ∈ responses, response.next.isSome = response.hasMore)
      ∧ responses.head?.map ListResponse.previous = some none
      ∧ (responses.flatMap ListResponse.results).Perm rows
      ∧ StrictlySorted (logicalTerms kind.catalog.identifier key order)
        (responses.flatMap ListResponse.results) := by
  intro rows
  obtain ⟨hsome, key, hkey⟩ := exists_resolve_of_mem_sortNames name hname
  obtain ⟨hdefault, hpages⟩ := bounds_of_validate hsettings
  obtain ⟨hpositive, hbound⟩ := parseLimit_bounds hdefault hpages hlimit
  have hcount : limit < maxCount := by
    have hroom : maxCount = 2 ^ 64 - 1 := rfl
    change limit ≤ settings.maxPageSize at hbound
    omega
  have hparse : ListQuery.parse (.start name order raw) kind.catalog settings.terms.policy = _ :=
    parse_start hsome hkey hlimit
  have hrows : Listable rows :=
    listable_tableAfter hrequests ⟨WellKept.nil, fun _ hrow => absurd hrow List.not_mem_nil⟩
  obtain ⟨responses, hfollows, hlength, hnexts, hperm, hsorted⟩ :=
    exists_follows hrows hparse rfl rfl rfl rfl hpositive hcount
  refine ⟨key, responses, hkey, ?_, hlength, hnexts, ?_, hperm, hsorted⟩
  · exact fun others => ⟨hfollows.unique, fun hsame => hsame ▸ hfollows⟩
  · obtain ⟨response, rest, after, hhead, hserve⟩ := hfollows.exists_head
    rw [listTable_eq hrows hparse rfl (fun cursor hcursor => nomatch hcursor),
      paginate_inMemory] at hserve
    obtain ⟨hresponse, -⟩ := Prod.mk.inj hserve
    rw [hhead, List.head?_cons, Option.map_some, ← Except.ok.inj hresponse]
    rfl

end Requests

/-- Three roles are created and one is renamed: two share a name, and one has none. -/
def threeRoles : List RecordRequest :=
  [.create ⟨some "r1", some "Reader", none⟩ "67e55044-10b1-426f-9247-bb680e5fe0c8" ⟨0, 1500⟩,
    .create ⟨some "r2", none, some "unnamed"⟩ "0b5cbd5f-6e2b-4e86-a9c4-2b1d1e5ba1a1" ⟨1, 0⟩,
    .create ⟨some "r3", some "Writer", none⟩ "5a1c9f3e-1f0e-4f0b-8f55-0d9a4c1e7b21" ⟨1, 0⟩,
    .update "r1" ⟨some "Writer", none⟩]

theorem threeRoles_timely : ∀ request ∈ threeRoles, request.GeneratesUuid ∧ request.Timely := by
  simp only [threeRoles, List.forall_mem_cons, RecordRequest.GeneratesUuid, RecordRequest.Timely]
  exact ⟨by decide, by decide, by decide, ⟨trivial, trivial⟩, by simp⟩

theorem threeRoles_followed :
    let settings := Settings.ModuleSettings.standard
    let rows : List (Record .role) := tableAfter threeRoles []
    settings.validate = .ok () ∧ settings.maxPageSize < 2 ^ 63 - 1
      ∧ (∀ request ∈ threeRoles, request.GeneratesUuid ∧ request.Timely)
      ∧ "name" ∈ ResourceKind.role.catalog.sortNames
      ∧ parseLimit (some "2") settings.limits = .ok 2
      ∧ rows.length = 3
      ∧ ∃ key responses, ResourceKind.role.catalog.resolve "name" = some key
        ∧ (∀ others, Follows (listTable settings.terms) (.start "name" .desc (some "2")) rows others
          ↔ others = responses)
        ∧ responses.length = pageCount 2 rows.length
        ∧ (∀ response ∈ responses, response.next.isSome = response.hasMore)
        ∧ responses.head?.map ListResponse.previous = some none
        ∧ (responses.flatMap ListResponse.results).Perm rows
        ∧ StrictlySorted (logicalTerms ResourceKind.role.catalog.identifier key .desc)
          (responses.flatMap ListResponse.results) := by
  intro settings rows
  have hsettings : settings.validate = .ok () := by decide
  have hmax : settings.maxPageSize < 2 ^ 63 - 1 := by decide
  have hname : "name" ∈ ResourceKind.role.catalog.sortNames := by decide
  have hlimit : parseLimit (some "2") settings.limits = .ok 2 := by decide +kernel
  exact ⟨hsettings, hmax, threeRoles_timely, hname, hlimit, by decide,
    nextCursors_complete hsettings hmax threeRoles_timely hname .desc hlimit⟩

end Registrar
