import Registrar.Proofs.RequestTests

/-!
# Statements and scans

The statement of a range request selects from a table the rows that the request's scan finds among
them, in the same order, however the table stores them and whatever its database does with nulls.
-/

namespace Registrar.Sql

variable {ρ : Type} [Row ρ] {catalog : Catalog} {query : ListQuery} {fields : FieldMap}
  {dialect : Dialect} {semantics : Semantics} {cell : ρ → String → Value} {rows : List ρ}
  {request : RangeRequest} {select : Select}

/-! ### Statements that render a request -/

def Select.keeps (semantics : Semantics) (cell : String → Value) (select : Select) : Bool :=
  match select.filter with
  | none => true
  | some condition => condition.truth semantics cell == some true

/-- A statement keeps what its request selects if the tests of the request find in the cells what they find in the row. -/
theorem Select.keeps_of_agrees {cells : String → Value} {row : ρ}
    (hfilter : request.filter.map (Condition.ofPredicate fields) = select.filter.map Except.ok)
    (hagree : ∀ predicate, request.filter = some predicate →
      ∀ test ∈ predicate.tests, FieldTest.Agrees semantics fields cells row test) :
    select.keeps semantics cells = request.selects row := by
  unfold keeps RangeRequest.selects
  cases hrequest : request.filter with
  | none =>
      rw [hrequest, Option.map_none, eq_comm, Option.map_eq_none_iff] at hfilter
      rw [hfilter]
      rfl
  | some predicate =>
      rw [hrequest, Option.map_some, eq_comm] at hfilter
      obtain ⟨condition, hselect, hcondition⟩ := Option.map_eq_some_iff.mp hfilter
      have htruth := truth_of_agrees hcondition.symm (hagree predicate hrequest)
      rw [hselect, Option.all_some, Bool.eq_iff_iff, beq_iff_eq, htruth]

/-- What makes a statement ask for what a request asks for, on rows that its table keeps. -/
structure Select.Renders (semantics : Semantics) (cell : ρ → String → Value) (rows : List ρ)
    (request : RangeRequest) (select : Select) : Prop where
  keeps : ∀ row ∈ rows, select.keeps semantics (cell row) = request.selects row
  compare : ∀ a ∈ rows, ∀ b ∈ rows,
    compareByTerms semantics (cell a) (cell b) select.order = compareRows request.order a b
  limit : select.limit = request.limit

theorem mergeSort_congr {α : Type} {first second : α → α → Bool} {items : List α}
    (hsame : ∀ a ∈ items, ∀ b ∈ items, first a b = second a b) :
    items.mergeSort first = items.mergeSort second := by
  simpa using List.map_mergeSort (f := id) hsame

/-- What a statement keeps comes out in one way only if its terms tell the rows apart, so it does not matter how they are stored. -/
theorem Select.run_eq_sortRows {terms : List OrderTerm} {stored : List ρ}
    (hcompare : ∀ a ∈ rows, ∀ b ∈ rows,
      compareByTerms semantics (cell a) (cell b) select.order = compareRows terms a b)
    (hrows : Untied terms rows) (hstored : stored.Perm rows) :
    select.run semantics cell stored
      = (sortRows terms (rows.filter fun row => select.keeps semantics (cell row))).take
        select.limit := by
  have hsorted : (stored.filter fun row => select.keeps semantics (cell row)).mergeSort (fun a b =>
      compareByTerms semantics (cell a) (cell b) select.order != .gt)
        = sortRows terms (stored.filter fun row => select.keeps semantics (cell row)) := by
    refine mergeSort_congr fun a ha b hb => ?_
    rw [hcompare a (hstored.mem_iff.mp (List.mem_of_mem_filter ha))
      b (hstored.mem_iff.mp (List.mem_of_mem_filter hb))]
  have harranged : sortRows terms (stored.filter fun row => select.keeps semantics (cell row))
      = sortRows terms (rows.filter fun row => select.keeps semantics (cell row)) :=
    ((hrows.perm hstored.symm).filter _).sortRows_eq_of_perm (hstored.filter _)
  unfold run
  rw [← harranged, ← hsorted]
  rfl

/-- A statement that asks for what a request asks for has its rows, however they are stored. -/
theorem Select.Renders.run_eq_scan {stored : List ρ}
    (hselect : select.Renders semantics cell rows request) (hrows : Untied request.order rows)
    (hstored : stored.Perm rows) : select.run semantics cell stored = request.scan rows := by
  rw [Select.run_eq_sortRows hselect.compare hrows hstored, List.filter_congr hselect.keeps,
    hselect.limit]
  rfl

/-! ### Tables -/

/-- A table keeps rows of the catalog: every field has a column that shows it, columns that cannot be null are those of fields that no row lacks, and searched fields are texts. -/
structure Keeps (catalog : Catalog) (fields : FieldMap) (cell : ρ → String → Value)
    (rows : List ρ) : Prop where
  mapped : fields.missing catalog = []
  shown : ∀ name ∈ catalog.sortNames ++ catalog.searched, ∀ row ∈ rows,
    Shows fields (cell row) row name
  nullable : ∀ name ∈ catalog.sortNames, ∀ column, fields.get? name = some column →
    column.nullable = false → ∀ row ∈ rows, Row.value row name ≠ .null
  searched_text : ∀ name ∈ catalog.searched, ∀ row ∈ rows,
    Row.value row name = .null ∨ (Row.value row name).kind? = some .text

section Table

variable (htable : Keeps catalog fields cell rows)
  (hsort : ∃ name, catalog.resolve name = some query.sort) (hquery : query.WellTyped catalog)

include htable hsort

include hquery in
/-- Columns show what the tests of a request look at, and have the kinds that they compare with. -/
theorem Asked.readable {test : String × FieldTest} (htest : Asked catalog query test) {row : ρ}
    (hmem : row ∈ rows) (hrow : Sortable catalog query.sort row) :
    FieldTest.Readable fields (cell row) row test where
  shown := htable.shown _ (htest.mem_names hsort) row hmem
  suits := by
    cases htest with
    | search term hsearched => exact htable.searched_text _ hsearched row hmem
    | id hcursor comparison =>
        exact Or.inr (hrow.id_kind.trans (hquery _ hcursor).id_kind.symm)
    | value hcursor hfield hvalue comparison =>
        have hcursorKind := ((hquery _ hcursor).value_admitted _ hfield).resolve_left hvalue
        exact (hrow.value_admitted _ hfield).imp_right fun hkind => hkind.trans hcursorKind.symm
    | isNull hfield => trivial
    | isNotNull hfield => trivial

theorem ordered_of_mem_order {limit : Nat} {row : ρ} (hrow : row ∈ rows) {term : OrderTerm}
    (hterm : term ∈ (RangeRequest.assemble catalog query limit).1.order) :
    Ordered fields (cell row) row term.field := by
  have hfield := field_mem_of_mem_order hsort hterm
  refine ⟨htable.shown _ (List.mem_append_left _ hfield) row hrow, ?_⟩
  exact fun column hcolumn hnever => htable.nullable _ hfield column hcolumn hnever row hrow

include hquery in
/-- The statement keeps the rows that the request selects, since what is unknown is not kept. -/
theorem Select.keeps_eq_selects {limit : Nat} (hrows : Keyed catalog query.sort rows)
    (hfilter : (RangeRequest.assemble catalog query limit).1.filter.map
      (Condition.ofPredicate fields) = select.filter.map Except.ok)
    (nullsLow : Bool) {row : ρ} (hrow : row ∈ rows) :
    select.keeps (Semantics.standard nullsLow) (cell row)
      = (RangeRequest.assemble catalog query limit).1.selects row := by
  refine keeps_of_agrees hfilter fun predicate hrequest test htest => ?_
  have hread := (asked_of_mem_filter hrequest test htest).readable htable hsort hquery hrow
    (hrows.sortable row hrow)
  exact hread.agrees nullsLow

end Table

/-- **Refinement.** Every request for a well-typed query has a statement. It selects what the request's scan finds, in the same order, whatever order the rows are stored in; and it places nulls by a clause only where the database takes one. -/
theorem Select.build_run_eq_scan (table : Table) (dialect : Dialect)
    (htable : Keeps catalog fields cell rows)
    (hsort : ∃ name, catalog.resolve name = some query.sort) (hquery : query.WellTyped catalog)
    (hrows : Keyed catalog query.sort rows) (limit : Nat) :
    ∃ select,
      Select.build table fields dialect (RangeRequest.assemble catalog query limit).1 = .ok select
        ∧ (∀ stored, stored.Perm rows →
          select.run (Semantics.standard dialect.nullsLow) cell stored
            = (RangeRequest.assemble catalog query limit).1.scan rows)
        ∧ ∀ name order nulls, .column name order (some nulls) ∈ select.order →
          dialect.nullsClause = true := by
  obtain ⟨select, hbuild⟩ := exists_build htable.mapped hsort hquery table dialect limit
  obtain ⟨-, hlimit, hfilter, horders⟩ := build_eq_ok_iff.mp hbuild
  have hrenders : select.Renders (Semantics.standard dialect.nullsLow) cell rows
      (RangeRequest.assemble catalog query limit).1 := by
    refine ⟨fun row hrow => ?_, fun a ha b hb => ?_, hlimit⟩
    · exact keeps_eq_selects htable hsort hquery hrows hfilter _ hrow
    · exact compareByTerms_ofTerms horders rfl
        (fun term hterm => ordered_of_mem_order htable hsort ha hterm)
        (fun term hterm => ordered_of_mem_order htable hsort hb hterm)
  have huntied : Untied (RangeRequest.assemble catalog query limit).1.order rows := by
    have horder : (RangeRequest.assemble catalog query limit).1.order = query.scanTerms catalog :=
      OrderPlan.terms_of ..
    exact horder ▸ hrows.untied _
  exact ⟨select, hbuild, fun stored hstored => hrenders.run_eq_scan huntied hstored,
    fun name order nulls hmem => nullsClause_of_mem_ofTerms horders hmem⟩

/-- Columns for the fields of the five rows; only the one for the name may hold nulls. -/
def namesFields : FieldMap :=
  (FieldMap.empty.insert "id" "role_id" false).insert "name" "role_name" true

def namesCell (row : FieldRow) (column : String) : Value :=
  Row.value row (if column = "role_id" then "id" else "name")

theorem namesFields_get? : ∀ name ∈ namesCatalog.sortNames ++ namesCatalog.searched,
    name = "id" ∧ namesFields.get? name = some ⟨"role_id", false⟩
      ∨ name = "name" ∧ namesFields.get? name = some ⟨"role_name", true⟩ := by
  decide

theorem fiveRows_kept : Keeps namesCatalog namesFields namesCell fiveRows where
  mapped := by decide
  shown := by
    intro name hname row hrow column hcolumn
    rcases namesFields_get? name hname with ⟨rfl, hget⟩ | ⟨rfl, hget⟩
    · obtain rfl := Option.some_inj.mp (hget.symm.trans hcolumn)
      rfl
    · obtain rfl := Option.some_inj.mp (hget.symm.trans hcolumn)
      rfl
  nullable := by
    intro name hname column hcolumn hnever
    rcases namesFields_get? name (List.mem_append_left _ hname) with ⟨rfl, hget⟩ | ⟨rfl, hget⟩
    · decide
    · obtain rfl := Option.some_inj.mp (hget.symm.trans hcolumn)
      contradiction
  searched_text := by decide

/-- A page before a row with a name, on a database that puts nulls above all values and takes no clause. -/
theorem fiveRows_run_eq_scan :
    ∃ select,
      Select.build ⟨"roles", ["role_id", "role_name"]⟩ namesFields ⟨false, false⟩
          (RangeRequest.assemble namesCatalog
            (((byName 2).withSearch "C").before ⟨.text "e", .text "x"⟩) 3).1 = .ok select
        ∧ (∀ stored, stored.Perm fiveRows → select.run (Semantics.standard false) namesCell stored
          = (RangeRequest.assemble namesCatalog
            (((byName 2).withSearch "C").before ⟨.text "e", .text "x"⟩) 3).1.scan fiveRows)
        ∧ ∀ name order nulls, .column name order (some nulls) ∈ select.order → false = true := by
  have hquery : ListQuery.WellTyped (((byName 2).withSearch "C").before ⟨.text "e", .text "x"⟩)
      namesCatalog := by
    rintro cursor ⟨⟩
    refine ⟨rfl, ?_⟩
    rintro field ⟨⟩
    decide
  exact Select.build_run_eq_scan _ ⟨false, false⟩ fiveRows_kept ⟨"name", by decide⟩ hquery
    fiveRows_keyed 3

end Registrar.Sql
