import Registrar.Proofs.NullOrdering
import Registrar.Proofs.PageWindow

/-!
# The tests of a request

A request for a well-typed query tests searched fields, the identifier and the sort field only, and
never compares with null. So it has a statement on every database, once the fields of the catalog
have columns.
-/

namespace Registrar.Sql

variable {catalog : Catalog} {query : ListQuery} {fields : FieldMap} {dialect : Dialect}

theorem exists_column {name : String} (hmapped : fields.missing catalog = [])
    (hname : name ∈ catalog.sortNames ++ catalog.searched) :
    ∃ column, fields.get? name = some column := by
  by_contra hnone
  have hmissing : name ∈ fields.missing catalog := by
    refine List.mem_eraseDups.mpr (List.mem_filter.mpr ⟨hname, ?_⟩)
    simpa [Option.isNone_iff_eq_none, Option.eq_none_iff_forall_ne_some] using hnone
  rw [hmapped] at hmissing
  exact List.not_mem_nil hmissing

theorem identifier_mem_sortNames (catalog : Catalog) :
    catalog.identifier.name ∈ catalog.sortNames :=
  List.mem_cons_self

theorem field_mem_sortNames {name : String} {field : FieldSpec}
    (hresolve : catalog.resolve name = some (.attribute field)) :
    field.name ∈ catalog.sortNames := by
  unfold Catalog.resolve at hresolve
  split at hresolve
  · simp at hresolve
  · obtain ⟨other, hother, ⟨⟩⟩ := Option.map_eq_some_iff.mp hresolve
    exact List.mem_cons_of_mem _ (List.mem_map_of_mem (List.mem_of_find?_eq_some hother))

/-! ### The tests of a request -/

/-- A test that a request for a query may make: for the search term in a searched field, or of the identifier or the sort field against the cursor. -/
inductive Asked (catalog : Catalog) (query : ListQuery) : String × FieldTest → Prop where
  | search {name : String} (term : String) (hname : name ∈ catalog.searched) :
      Asked catalog query (name, .contains term)
  | id {cursor : Cursor} (hcursor : cursor ∈ query.cursor) (comparison : Comparison) :
      Asked catalog query (catalog.identifier.name, .compare comparison cursor.id)
  | value {cursor : Cursor} {field : FieldSpec} (hcursor : cursor ∈ query.cursor)
      (hfield : query.sort = .attribute field) (hvalue : cursor.value ≠ .null)
      (comparison : Comparison) :
      Asked catalog query (field.name, .compare comparison cursor.value)
  | isNull {field : FieldSpec} (hfield : query.sort = .attribute field) :
      Asked catalog query (field.name, .isNull)
  | isNotNull {field : FieldSpec} (hfield : query.sort = .attribute field) :
      Asked catalog query (field.name, .isNotNull)

theorem asked_of_mem_search {term : String} {predicate : Predicate}
    (hsearch : catalog.search term = some predicate) :
    ∀ test ∈ predicate.tests, Asked catalog query test := by
  unfold Catalog.search at hsearch
  split at hsearch
  · contradiction
  · obtain rfl := Option.some_inj.mp hsearch
    intro test htest
    rw [Predicate.tests, Predicate.testsOf_eq_flatMap, List.flatMap_map] at htest
    obtain ⟨name, hname, hmem⟩ := List.mem_flatMap.mp htest
    rw [Predicate.tests, List.mem_singleton] at hmem
    exact hmem ▸ .search term hname

theorem asked_of_mem_boundary {cursor : Cursor} (hcursor : cursor ∈ query.cursor) :
    ∀ test ∈ (cursor.boundary catalog.identifier query.sort query.direction query.order).tests,
      Asked catalog query test := by
  rw [Cursor.boundary_scanOrder]
  generalize query.direction.scanOrder query.order = order
  rcases hsort : query.sort with field | field
  · simp only [Cursor.boundary, Predicate.tests, List.mem_singleton]
    rintro _ rfl
    exact .id hcursor _
  · by_cases hvalue : cursor.value = .null
    · cases order with
      | asc =>
          simp only [Cursor.boundary, hvalue, Relation.of, Predicate.tests, Predicate.testsOf,
            List.cons_append, List.nil_append, List.mem_cons, List.not_mem_nil, or_false]
          rintro test (rfl | rfl | rfl)
          · exact .isNotNull hsort
          · exact .isNull hsort
          · exact .id hcursor _
      | desc =>
          simp only [Cursor.boundary, hvalue, Relation.of, Predicate.tests, Predicate.testsOf,
            List.cons_append, List.nil_append, List.mem_cons, List.not_mem_nil, or_false]
          rintro test (rfl | rfl)
          · exact .isNull hsort
          · exact .id hcursor _
    · rw [Cursor.boundary_of_ne_null _ _ hvalue]
      cases order with
      | asc =>
          simp only [Predicate.tests, Predicate.testsOf, List.cons_append, List.nil_append,
            List.mem_cons, List.not_mem_nil, or_false]
          rintro test (rfl | rfl | rfl)
          · exact .value hcursor hsort hvalue _
          · exact .value hcursor hsort hvalue _
          · exact .id hcursor _
      | desc =>
          simp only [Predicate.tests, Predicate.testsOf, List.cons_append, List.nil_append,
            List.mem_cons, List.not_mem_nil, or_false]
          rintro test (rfl | rfl | rfl | rfl)
          · exact .value hcursor hsort hvalue _
          · exact .isNull hsort
          · exact .value hcursor hsort hvalue _
          · exact .id hcursor _

/-- A request asks for nothing but what its search and its boundary ask for. -/
theorem asked_of_mem_filter {limit : Nat} {predicate : Predicate}
    (hfilter : (RangeRequest.assemble catalog query limit).1.filter = some predicate) :
    ∀ test ∈ predicate.tests, Asked catalog query test := by
  have hboundary : ∀ boundary,
      (RangeRequest.assemble catalog query limit).1.boundary = some boundary →
      ∀ test ∈ boundary.tests, Asked catalog query test := by
    intro boundary hsome
    obtain ⟨cursor, hcursor, rfl⟩ := Option.map_eq_some_iff.mp hsome
    exact asked_of_mem_boundary hcursor
  have hsearch : ∀ search, (RangeRequest.assemble catalog query limit).1.search = some search →
      ∀ test ∈ search.tests, Asked catalog query test := by
    intro search hsome
    obtain ⟨term, -, hterm⟩ := Option.bind_eq_some_iff.mp hsome
    exact asked_of_mem_search hterm
  unfold RangeRequest.filter at hfilter
  split at hfilter
  · next search boundary hsome hsome' =>
      obtain rfl := Option.some_inj.mp hfilter
      intro test htest
      rw [Predicate.tests_and] at htest
      rcases List.mem_append.mp htest with htest | htest
      · exact hsearch search hsome test htest
      · exact hboundary boundary hsome' test htest
  · next search hsome hnone => exact hsearch _ (hsome.trans hfilter)
  · next boundary hnone hsome => exact hboundary _ (hsome.trans hfilter)
  · contradiction

/-- Every tested field can be sorted by or searched in. -/
theorem Asked.mem_names {test : String × FieldTest} (htest : Asked catalog query test)
    (hsort : ∃ name, catalog.resolve name = some query.sort) :
    test.1 ∈ catalog.sortNames ++ catalog.searched := by
  obtain ⟨name, hname⟩ := hsort
  cases htest with
  | search term hsearched => exact List.mem_append_right _ hsearched
  | id hcursor comparison => exact List.mem_append_left _ (identifier_mem_sortNames catalog)
  | value hcursor hfield hvalue comparison =>
      exact List.mem_append_left _ (field_mem_sortNames (hfield ▸ hname))
  | isNull hfield => exact List.mem_append_left _ (field_mem_sortNames (hfield ▸ hname))
  | isNotNull hfield => exact List.mem_append_left _ (field_mem_sortNames (hfield ▸ hname))

theorem field_mem_of_mem_order {limit : Nat} {term : OrderTerm}
    (hsort : ∃ name, catalog.resolve name = some query.sort)
    (hterm : term ∈ (RangeRequest.assemble catalog query limit).1.order) :
    term.field ∈ catalog.sortNames := by
  obtain ⟨name, hname⟩ := hsort
  have horder : (RangeRequest.assemble catalog query limit).1.order
      = logicalTerms catalog.identifier query.sort (query.direction.scanOrder query.order) :=
    OrderPlan.terms_of ..
  rw [horder] at hterm
  rcases hkey : query.sort with field | field
  · rw [hkey, logicalTerms, List.mem_singleton] at hterm
    exact hterm ▸ identifier_mem_sortNames catalog
  · rw [hkey, logicalTerms, List.mem_pair] at hterm
    rcases hterm with rfl | rfl
    · exact field_mem_sortNames (hkey ▸ hname)
    · exact identifier_mem_sortNames catalog

/-! ### Statements -/

section Build

variable {table : Table} {request : RangeRequest} {select : Select}

/-- A statement takes over the table and the limit, and its condition and order are those of the request. -/
theorem Select.build_eq_ok_iff : Select.build table fields dialect request = .ok select
    ↔ select.table = table ∧ select.limit = request.limit
      ∧ request.filter.map (Condition.ofPredicate fields) = select.filter.map Except.ok
      ∧ OrderBy.ofTerms fields dialect request.order = .ok select.order := by
  obtain ⟨selected, filter, order, limit⟩ := select
  have hlast : ∀ made : Option Condition, (do
      let orders ← OrderBy.ofTerms fields dialect request.order
      return Select.mk table made orders request.limit) = Except.ok ⟨selected, filter, order, limit⟩
      ↔ selected = table ∧ limit = request.limit ∧ made = filter
        ∧ OrderBy.ofTerms fields dialect request.order = .ok order := by
    intro made
    cases OrderBy.ofTerms fields dialect request.order with
    | error fault => simp [bind, Except.bind]
    | ok orders =>
        change Except.ok (Select.mk table made orders request.limit) = _ ↔ _
        rw [Except.ok.injEq, Select.mk.injEq, Except.ok.injEq, eq_comm (a := table),
          eq_comm (a := request.limit)]
        tauto
  unfold build
  cases request.filter with
  | none =>
      refine (hlast none).trans ?_
      simp only [Option.map_none, eq_comm (a := (none : Option _)), Option.map_eq_none_iff]
  | some predicate =>
      dsimp only [Option.map_some]
      cases Condition.ofPredicate fields predicate with
      | error fault => cases filter <;> simp [bind, Except.bind, Functor.map, Except.map]
      | ok condition =>
          refine (hlast (some condition)).trans ?_
          cases filter <;> simp

end Build

variable (hmapped : fields.missing catalog = [])
  (hsort : ∃ name, catalog.resolve name = some query.sort) (hquery : query.WellTyped catalog)

include hmapped hsort hquery

/-- No test that a request makes is at fault. -/
theorem Asked.fault?_eq_none {test : String × FieldTest} (htest : Asked catalog query test) :
    test.2.fault? fields test.1 = none := by
  obtain ⟨column, hcolumn⟩ := exists_column hmapped (htest.mem_names hsort)
  unfold FieldTest.fault?
  rw [hcolumn]
  cases htest with
  | @id cursor hcursor comparison =>
      have hid := Value.ne_null_of_kind (hquery cursor hcursor).id_kind
      cases hvalue : cursor.id <;> simp_all
  | @value cursor field hcursor hfield hvalue comparison =>
      cases hvalue' : cursor.value <;> simp_all
  | search term hsearched => rfl
  | isNull hfield => rfl
  | isNotNull hfield => rfl

/-- With a column for every field, every request has a statement. -/
theorem Select.exists_build (table : Table) (dialect : Dialect) (limit : Nat) :
    ∃ select, Select.build table fields dialect
      (RangeRequest.assemble catalog query limit).1 = .ok select := by
  obtain ⟨orders, horders⟩ := exists_ofTerms dialect fun term hterm =>
    exists_column hmapped (List.mem_append_left _ (field_mem_of_mem_order hsort hterm))
  cases hfilter : (RangeRequest.assemble catalog query limit).1.filter with
  | none =>
      refine ⟨⟨table, none, orders, limit⟩, Select.build_eq_ok_iff.mpr ⟨rfl, rfl, ?_, horders⟩⟩
      rw [hfilter]
      rfl
  | some predicate =>
      have hfault : faultOf? (Condition.ofPredicate fields predicate) = none := by
        rw [faultOf?_ofPredicate, firstFault?, List.findSome?_eq_none_iff]
        exact fun test htest =>
          (asked_of_mem_filter hfilter test htest).fault?_eq_none hmapped hsort hquery
      obtain ⟨condition, hcondition⟩ := exists_of_faultOf?_eq_none hfault
      refine ⟨⟨table, some condition, orders, limit⟩,
        Select.build_eq_ok_iff.mpr ⟨rfl, rfl, ?_, horders⟩⟩
      rw [hfilter, Option.map_some, hcondition]
      rfl

end Registrar.Sql
