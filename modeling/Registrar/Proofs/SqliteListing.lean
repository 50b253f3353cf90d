import Registrar.Proofs.ParsedQueries
import Registrar.Proofs.SelectRefinement
import Registrar.Proofs.SqliteSearch
import Registrar.Proofs.TimestampOrder
import Mathlib.Data.List.Nodup

/-!
# Listings on SQLite

SQLite keeps instants as texts of different lengths and compares them as texts. Since these stand in
the order of time, a listing without a search finds what it would find among the instants.
-/

namespace Registrar

open Sql Sqlite Time

def Value.Legible : Value → Prop
  | .instant moment => moment.Proper ∧ moment.HasCommonYear
  | _ => True

def Value.Alike (a b : Value) : Prop :=
  a = .null ∨ b = .null ∨ a.kind? = b.kind?

/-! ### Stored values -/

section Stored

variable {a b : Value}

theorem isNull_stored (value : Value) : (stored value).isNull = value.isNull := by
  cases value <;> rfl

/-- Kept as texts, instants of common years stand in their order. -/
theorem compare_instantText {a b : Instant} (ha : a.Proper ∧ a.HasCommonYear)
    (hb : b.Proper ∧ b.HasCommonYear) : compare (instantText a) (instantText b) = a.cmp b := by
  have hmark : '+'.toNat < '.'.toNat := by decide
  have hzone : "+00:00" = String.ofList ('+' :: ['0', '0', ':', '0', '0']) := rfl
  unfold instantText
  rw [hzone]
  exact Instant.compare_render ha.1 hb.1 ha.2 hb.2 hmark

/-- Storing legible values keeps their order. -/
theorem cmp_stored (halike : a.Alike b) (ha : a.Legible) (hb : b.Legible) :
    (stored a).cmp (stored b) = a.cmp b := by
  rcases halike with rfl | rfl | hkind
  · cases b <;> rfl
  · cases a <;> rfl
  · cases a with
    | null => cases b <;> rfl
    | text content =>
        cases b with
        | null => rfl
        | text other => rfl
        | instant other => simp [Value.kind?] at hkind
    | instant moment =>
        cases b with
        | null => rfl
        | text other => simp [Value.kind?] at hkind
        | instant other => exact compare_instantText ha hb

theorem compareTruth_stored (comparison : Comparison) (halike : a.Alike b) (ha : a.Legible)
    (hb : b.Legible) :
    compareTruth comparison (stored a) (stored b) = compareTruth comparison a b := by
  unfold compareTruth
  rw [isNull_stored, isNull_stored, cmp_stored halike ha hb]

theorem compareValues_stored (order : SortOrder) (nulls : NullPlacement) (halike : a.Alike b)
    (ha : a.Legible) (hb : b.Legible) :
    compareValues order nulls (stored a) (stored b) = compareValues order nulls a b := by
  unfold compareValues
  rw [isNull_stored, isNull_stored, cmp_stored halike ha hb]

theorem bound_sqlite {value : Value} {bound : Bound} (hbound : Bound.ofValue? value = some bound) :
    semantics.bound bound = stored value := by
  cases value with
  | null => contradiction
  | text content => obtain rfl := Option.some_inj.mp hbound; rfl
  | instant moment => obtain rfl := Option.some_inj.mp hbound; rfl

end Stored

/-! ### Stored rows -/

section Rows

variable {ρ : Type} [Row ρ] {catalog : Catalog} {query : ListQuery} {fields : FieldMap}
  {cell : ρ → String → Value} {rows : List ρ}

/-- The columns of a table hold legible values, each column those of one kind. -/
structure Uniform (cell : ρ → String → Value) (rows : List ρ) : Prop where
  legible : ∀ row ∈ rows, ∀ column, (cell row column).Legible
  alike : ∀ a ∈ rows, ∀ b ∈ rows, ∀ column, (cell a column).Alike (cell b column)

theorem compare_stored {a b : String → Value} (ha : ∀ column, (a column).Legible)
    (hb : ∀ column, (b column).Legible) (halike : ∀ column, (a column).Alike (b column))
    (term : OrderBy) :
    OrderBy.compare semantics (fun column => stored (a column)) (fun column => stored (b column)) term
      = OrderBy.compare (Semantics.standard true) a b term := by
  cases term with
  | column name order nulls => exact compareValues_stored _ _ (halike name) (ha name) (hb name)
  | isNull name order =>
      rw [OrderBy.compare_isNull, OrderBy.compare_isNull, isNull_stored, isNull_stored]

/-- What is sorted as it is stored is sorted as it is meant. -/
theorem compareByTerms_stored {a b : String → Value} (ha : ∀ column, (a column).Legible)
    (hb : ∀ column, (b column).Legible) (halike : ∀ column, (a column).Alike (b column))
    (terms : List OrderBy) :
    compareByTerms semantics (fun column => stored (a column)) (fun column => stored (b column)) terms
      = compareByTerms (Semantics.standard true) a b terms := by
  induction terms with
  | nil => rfl
  | cons term terms ih => rw [compareByTerms, compareByTerms, ih, compare_stored ha hb halike]

/-- A test that looks for no text reads stored cells as it reads the row, if it compares with a legible value. -/
theorem FieldTest.Readable.agrees_stored {row : ρ} {cell : String → Value}
    {test : String × FieldTest} (hread : FieldTest.Readable fields cell row test)
    (hcell : ∀ column, (cell column).Legible) (hplain : ∀ term, test.2 ≠ .contains term)
    (hvalue : ∀ comparison value, test.2 = .compare comparison value → value.Legible) :
    FieldTest.Agrees semantics fields (fun column => stored (cell column)) row test := by
  obtain ⟨field, test⟩ := test
  intro condition hcondition
  cases test with
  | compare comparison value =>
      obtain ⟨column, bound, hcolumn, hbound, rfl⟩ := ofPredicate_compare_eq_ok hcondition
      have hshown := hread.shown column hcolumn
      have halike : (cell column.column).Alike value := by
        rw [hshown]
        exact hread.suits.imp_right Or.inr
      rw [FieldTest.predicate, Condition.truth, bound_sqlite hbound,
        compareTruth_stored comparison halike (hcell _) (hvalue comparison value rfl), hshown,
        Predicate.matches]
      exact compareTruth_eq_true hread.suits
  | isNull =>
      obtain ⟨column, hcolumn, ⟨⟩⟩ := bind_eq_ok hcondition
      rw [FieldTest.predicate, Condition.truth, isNull_stored,
        hread.shown column (resolve_eq_ok hcolumn), Predicate.matches, Option.some_inj]
  | isNotNull =>
      obtain ⟨column, hcolumn, ⟨⟩⟩ := bind_eq_ok hcondition
      rw [FieldTest.predicate, Condition.truth, isNull_stored,
        hread.shown column (resolve_eq_ok hcolumn), Predicate.matches, Option.some_inj]
  | contains term => exact absurd rfl (hplain term)

def ListQuery.LegibleAnchors (query : ListQuery) : Prop :=
  ∀ cursor ∈ query.cursor, cursor.id.Legible ∧ cursor.value.Legible

theorem Sql.Asked.legible {test : String × FieldTest} (htest : Asked catalog query test)
    (hanchors : query.LegibleAnchors) :
    ∀ comparison value, test.2 = .compare comparison value → value.Legible := by
  intro comparison value hcompare
  cases htest with
  | id hcursor comparison =>
      obtain ⟨-, rfl⟩ := FieldTest.compare.inj hcompare
      exact (hanchors _ hcursor).1
  | value hcursor hfield hvalue comparison =>
      obtain ⟨-, rfl⟩ := FieldTest.compare.inj hcompare
      exact (hanchors _ hcursor).2
  | search term hname => contradiction
  | isNull hfield => contradiction
  | isNotNull hfield => contradiction

/-- Without a search only the boundary is tested. It does not depend on the searched fields, so it may be taken to be that of a catalog without any. -/
theorem ne_contains_of_mem_filter {limit : Nat} {predicate : Predicate}
    (hplain : query.search = none)
    (hfilter : (RangeRequest.assemble catalog query limit).1.filter = some predicate) :
    ∀ test ∈ predicate.tests, ∀ term, test.2 ≠ .contains term := by
  have hboundary : (query.cursor.map fun cursor => cursor.boundary catalog.identifier query.sort
      query.direction query.order) = some predicate := by
    rw [← hfilter]
    unfold RangeRequest.filter RangeRequest.assemble
    rw [hplain]
    cases query.cursor <;> rfl
  obtain ⟨cursor, hcursor, rfl⟩ := Option.map_eq_some_iff.mp hboundary
  let plain : Catalog := { catalog with searched := [], searched_nodup := List.nodup_nil }
  intro test htest term hterm
  have hasked : Asked plain query test := asked_of_mem_boundary hcursor test htest
  cases hasked with
  | search other hname => exact List.not_mem_nil hname
  | id hcursor comparison => contradiction
  | value hcursor hfield hvalue comparison => contradiction
  | isNull hfield => contradiction
  | isNotNull hfield => contradiction

/-- The statement of a request without a search reads stored rows as the request reads the rows. -/
theorem Sql.Select.keeps_stored {limit : Nat} {select : Select} (htable : Keeps catalog fields cell rows)
    (huniform : Uniform cell rows) (hrows : Keyed catalog query.sort rows)
    (hquery : query.Accepted catalog) (hplain : query.search = none)
    (hanchors : query.LegibleAnchors)
    (hfilter : (RangeRequest.assemble catalog query limit).1.filter.map
      (Condition.ofPredicate fields) = select.filter.map Except.ok) {row : ρ} (hrow : row ∈ rows) :
    select.keeps semantics (fun column => stored (cell row column))
      = (RangeRequest.assemble catalog query limit).1.selects row := by
  refine keeps_of_agrees hfilter fun predicate hrequest test htest => ?_
  have hasked := asked_of_mem_filter hrequest test htest
  have hread := hasked.readable htable hquery.sort_resolved hquery.wellTyped hrow
    (hrows.sortable row hrow)
  exact hread.agrees_stored (huniform.legible row hrow)
    (ne_contains_of_mem_filter hplain hrequest test htest) (hasked.legible hanchors)

/-- Every request has a statement, which puts the stored rows that it keeps in the order of the scan. -/
theorem Sql.Select.exists_run_stored (table : Table) (htable : Keeps catalog fields cell rows)
    (huniform : Uniform cell rows) (hrows : Keyed catalog query.sort rows)
    (hquery : query.Accepted catalog) (limit : Nat) :
    ∃ select,
      Select.build table fields Backend.sqlite.dialect
          (RangeRequest.assemble catalog query limit).1 = .ok select
        ∧ ∀ kept, kept.Perm rows →
          select.run semantics (fun row column => stored (cell row column)) kept
            = (sortRows (query.scanTerms catalog) (rows.filter fun row =>
              select.keeps semantics fun column => stored (cell row column))).take limit := by
  have hsort := hquery.sort_resolved
  obtain ⟨select, hbuild⟩ := Select.exists_build htable.mapped hsort hquery.wellTyped table
    Backend.sqlite.dialect limit
  obtain ⟨-, hlimit, -, horders⟩ := Select.build_eq_ok_iff.mp hbuild
  have horder : (RangeRequest.assemble catalog query limit).1.order = query.scanTerms catalog :=
    OrderPlan.terms_of ..
  have hcompare : ∀ a ∈ rows, ∀ b ∈ rows,
      compareByTerms semantics (fun column => stored (cell a column))
        (fun column => stored (cell b column)) select.order
        = compareRows (query.scanTerms catalog) a b := by
    intro a ha b hb
    rw [compareByTerms_stored (huniform.legible a ha) (huniform.legible b hb)
      (huniform.alike a ha b hb), ← horder]
    exact compareByTerms_ofTerms horders rfl
      (fun term hterm => ordered_of_mem_order htable hsort ha hterm)
      (fun term hterm => ordered_of_mem_order htable hsort hb hterm)
  refine ⟨select, hbuild, fun kept hkept => ?_⟩
  rw [Select.run_eq_sortRows hcompare (hrows.untied _) hkept, hlimit]
  rfl

/-- A request without a search has a statement that finds in stored rows what the request's scan finds. -/
theorem Sql.Select.exists_build_stored (table : Table) (htable : Keeps catalog fields cell rows)
    (huniform : Uniform cell rows) (hrows : Keyed catalog query.sort rows)
    (hquery : query.Accepted catalog) (hplain : query.search = none)
    (hanchors : query.LegibleAnchors) (limit : Nat) :
    ∃ select,
      Select.build table fields Backend.sqlite.dialect
          (RangeRequest.assemble catalog query limit).1 = .ok select
        ∧ ∀ kept, kept.Perm rows →
          select.run semantics (fun row column => stored (cell row column)) kept
            = (RangeRequest.assemble catalog query limit).1.scan rows := by
  obtain ⟨select, hbuild, hrun⟩ :=
    Select.exists_run_stored table htable huniform hrows hquery limit
  obtain ⟨-, -, hfilter, -⟩ := Select.build_eq_ok_iff.mp hbuild
  have horder : (RangeRequest.assemble catalog query limit).1.order = query.scanTerms catalog :=
    OrderPlan.terms_of ..
  refine ⟨select, hbuild, fun kept hkept => ?_⟩
  rw [hrun kept hkept, List.filter_congr fun row hrow =>
    keeps_stored htable huniform hrows hquery hplain hanchors hfilter hrow, ← horder]
  rfl

end Rows

/-! ### Records -/

section Records

variable {kind : ResourceKind} {rows : List (Record kind)}

theorem ResourceKind.identifier_catalog (kind : ResourceKind) :
    kind.catalog.identifier = .identifier kind.idField := by
  cases kind <;> rfl

theorem ResourceKind.attributes_catalog (kind : ResourceKind) :
    kind.catalog.attributes = [.text kind.labelField, .instant "createdAt"] := by
  cases kind <;> rfl

theorem ResourceKind.searched_catalog (kind : ResourceKind) :
    kind.catalog.searched = [kind.idField, kind.labelField] := by
  cases kind <;> rfl

theorem Record.value_createdAt (record : Record kind) :
    Row.value record "createdAt" = .instant record.created := by
  have hid : "createdAt" ≠ kind.idField := by cases kind <;> decide
  have hlabel : "createdAt" ≠ kind.labelField := by cases kind <;> decide
  exact (if_neg hid).trans ((if_neg hlabel).trans (if_pos rfl))

/-- The fields of a record and the columns that they are kept in. -/
theorem ResourceKind.fields_eq_some {name : String} {column : MappedColumn}
    (hcolumn : kind.fields.get? name = some column) :
    name = kind.idField ∧ column = ⟨kind.idColumn, false⟩
      ∨ name = kind.labelField ∧ column = ⟨kind.labelColumn, true⟩
      ∨ name = "createdAt" ∧ column = ⟨"created_at", false⟩ := by
  have hfields : kind.fields.get? name
      = if name == "createdAt" then some ⟨"created_at", false⟩
        else if name == kind.labelField then some ⟨kind.labelColumn, true⟩
        else if name == kind.idField then some ⟨kind.idColumn, false⟩
        else none := by
    simp only [ResourceKind.fields, FieldMap.insert, FieldMap.empty, FieldMap.get?, List.lookup_cons,
      List.lookup_nil]
    cases name == "createdAt" <;> cases name == kind.labelField <;> cases name == kind.idField <;>
      rfl
  rw [hfields] at hcolumn
  split at hcolumn
  · next hname =>
      exact Or.inr (Or.inr ⟨beq_iff_eq.mp hname, (Option.some_inj.mp hcolumn).symm⟩)
  · split at hcolumn
    · next hname =>
        exact Or.inr (Or.inl ⟨beq_iff_eq.mp hname, (Option.some_inj.mp hcolumn).symm⟩)
    · split at hcolumn
      · next hname => exact Or.inl ⟨beq_iff_eq.mp hname, (Option.some_inj.mp hcolumn).symm⟩
      · contradiction

theorem Record.shows (record : Record kind) (name : String) :
    Shows kind.fields record.cell record name := by
  intro column hcolumn
  rcases ResourceKind.fields_eq_some hcolumn with ⟨rfl, rfl⟩ | ⟨rfl, rfl⟩ | ⟨rfl, rfl⟩
  · exact record.cell_idColumn.trans record.value_idField.symm
  · exact record.cell_labelColumn.trans record.value_labelField.symm
  · exact record.cell_created.trans record.value_createdAt.symm

theorem Record.value_labelField_kind (record : Record kind) :
    Row.value record kind.labelField = .null
      ∨ (Row.value record kind.labelField).kind? = some .text := by
  rw [record.value_labelField]
  cases record.label with
  | none => exact Or.inl rfl
  | some label => exact Or.inr rfl

/-- The tables of all kinds of records keep them as listings need it. -/
theorem Record.keeps (rows : List (Record kind)) :
    Keeps kind.catalog kind.fields Record.cell rows where
  mapped := by cases kind <;> decide
  shown := fun name _ row _ => row.shows name
  nullable := by
    intro name hname column hcolumn hnever row hrow
    rcases ResourceKind.fields_eq_some hcolumn with ⟨rfl, rfl⟩ | ⟨rfl, rfl⟩ | ⟨rfl, rfl⟩
    · rw [row.value_idField]
      exact Value.noConfusion
    · contradiction
    · rw [row.value_createdAt]
      exact Value.noConfusion
  searched_text := by
    intro name hname row hrow
    rw [kind.searched_catalog] at hname
    rcases List.mem_pair.mp hname with rfl | rfl
    · rw [row.value_idField]
      exact Or.inr rfl
    · exact row.value_labelField_kind

/-- The listings of records that are not by identifier. -/
theorem ResourceKind.attribute_of_resolve (kind : ResourceKind) {field : FieldSpec}
    (hkey : ∃ name, kind.catalog.resolve name = some (.attribute field)) :
    field = .text kind.labelField ∨ field = .instant "createdAt" := by
  obtain ⟨name, hname⟩ := hkey
  have hfield : field ∈ kind.catalog.attributes := by
    unfold Catalog.resolve at hname
    split at hname
    · simp at hname
    · obtain ⟨other, hother, ⟨⟩⟩ := Option.map_eq_some_iff.mp hname
      exact List.mem_of_find?_eq_some hother
  rw [kind.attributes_catalog] at hfield
  exact List.mem_pair.mp hfield

theorem Record.sortable {key : SortKey} (hkey : ∃ name, kind.catalog.resolve name = some key)
    (record : Record kind) : Sortable kind.catalog key record where
  id_kind := by
    rw [kind.identifier_catalog]
    exact congrArg Value.kind? record.value_idField
  value_admitted := by
    rintro field rfl
    rcases kind.attribute_of_resolve hkey with rfl | rfl
    · exact record.value_labelField_kind
    · exact Or.inr (congrArg Value.kind? record.value_createdAt)

theorem Record.keyed {key : SortKey} (hkey : ∃ name, kind.catalog.resolve name = some key)
    (hids : (rows.map Record.id).Nodup) : Keyed kind.catalog key rows where
  sortable := fun row _ => row.sortable hkey
  ids_nodup := by
    have hvalues : (fun row : Record kind => Row.value row kind.catalog.identifier.name)
        = Value.text ∘ Record.id := by
      funext row
      rw [kind.identifier_catalog]
      exact row.value_idField
    rw [hvalues, ← List.map_map]
    exact List.Nodup.map (fun _ _ => Value.text.inj) hids

theorem Record.cell_legible {record : Record kind} (hproper : record.created.Proper)
    (hyear : record.created.HasCommonYear) (column : String) : (record.cell column).Legible := by
  have htext : ∀ text : Option String, (text.elim Value.null Value.text).Legible := by
    intro text
    cases text <;> trivial
  unfold cell
  split
  · trivial
  · split
    · exact htext _
    · split
      · exact htext _
      · split
        · exact ⟨hproper, hyear⟩
        · trivial

theorem Record.cell_alike (a b : Record kind) (column : String) :
    (a.cell column).Alike (b.cell column) := by
  have htext : ∀ text other : Option String,
      (text.elim Value.null Value.text).Alike (other.elim Value.null Value.text) := by
    intro text other
    cases text with
    | none => exact Or.inl rfl
    | some text =>
        cases other with
        | none => exact Or.inr (Or.inl rfl)
        | some other => exact Or.inr (Or.inr rfl)
  unfold cell
  split
  · exact Or.inr (Or.inr rfl)
  · split
    · exact htext _ _
    · split
      · exact htext _ _
      · split
        · exact Or.inr (Or.inr rfl)
        · exact Or.inl rfl

/-- Records that were created in common years can be compared as they are stored. -/
theorem Record.uniform
    (hcreated : ∀ row ∈ rows, row.created.Proper ∧ row.created.HasCommonYear) :
    Uniform Record.cell rows where
  legible := fun row hrow => cell_legible (hcreated row hrow).1 (hcreated row hrow).2
  alike := fun a _ b _ => a.cell_alike b

theorem Cursor.WellTyped.id_legible {key : SortKey} {cursor : Cursor}
    (hcursor : cursor.WellTyped kind.catalog key) : cursor.id.Legible := by
  have hid := hcursor.id_kind
  rw [kind.identifier_catalog] at hid
  cases hvalue : cursor.id with
  | null => trivial
  | text content => trivial
  | instant moment =>
      rw [hvalue] at hid
      simp [Value.kind?, FieldSpec.identifier] at hid

theorem ListQuery.Accepted.legibleAnchors {query : ListQuery}
    (hquery : query.Accepted kind.catalog)
    (hyears : ∀ cursor ∈ query.cursor, ∀ moment, cursor.value = .instant moment →
      moment.HasCommonYear) : query.LegibleAnchors := by
  intro cursor hcursor
  obtain ⟨hwellTyped, hproper⟩ := hquery.anchors cursor hcursor
  refine ⟨hwellTyped.id_legible, ?_⟩
  cases hvalue : cursor.value with
  | null => trivial
  | text content => trivial
  | instant moment => exact ⟨hproper moment hvalue, hyears cursor hcursor moment hvalue⟩

/-- A page is asked of a table by one statement, which takes no time. -/
theorem page_run_of_build {query : ListQuery} {kept : List (Record kind)} {select : Select}
    (hbuild : Select.build kind.table kind.fields Backend.sqlite.dialect
      (RangeRequest.assemble kind.catalog query query.fetchCount).1 = .ok select)
    (deadline : Option Nat) :
    (RecordTable.page Backend.sqlite.dialect query deadline).run RecordTable.sqlite kept
      = (query.conclude (RangeRequest.assemble kind.catalog query query.fetchCount).2 deadline
          ⟨.ok (select.run semantics (fun row column => stored (row.cell column)) kept), 0⟩,
        kept) := by
  unfold RecordTable.page
  dsimp only
  rw [hbuild]
  rfl

/-- The page of a query without a search, asked of a table, is the one that the rows in memory have. -/
theorem page_run_sqlite {query : ListQuery} {kept : List (Record kind)}
    (hquery : query.Accepted kind.catalog) (hplain : query.search = none)
    (hanchors : query.LegibleAnchors) (hids : (rows.map Record.id).Nodup)
    (hcreated : ∀ row ∈ rows, row.created.Proper ∧ row.created.HasCommonYear)
    (hkept : kept.Perm rows) (deadline : Option Nat) :
    (RecordTable.page Backend.sqlite.dialect query deadline).run RecordTable.sqlite kept
      = (paginate (inMemory rows) kind.catalog query deadline, kept) := by
  obtain ⟨select, hbuild, hrun⟩ := Select.exists_build_stored kind.table (Record.keeps rows)
    (Record.uniform hcreated) (Record.keyed hquery.sort_resolved hids) hquery hplain hanchors
    query.fetchCount
  rw [page_run_of_build hbuild, hrun kept hkept]
  rfl

/-- **Listings on SQLite.** A query that was let through, without a search, has the page that it would have among the records in memory, whatever order the table keeps them in and however long the fractions of their instants are. -/
theorem RecordTable.sqlite_page_eq_paginate {params : ListParams} {policy : LimitPolicy}
    {query : ListQuery} {kept : List (Record kind)} (hids : (rows.map Record.id).Nodup)
    (hcreated : ∀ row ∈ rows, row.created.Proper ∧ row.created.HasCommonYear)
    (hparse : ListQuery.parse params kind.catalog policy = .ok query)
    (hplain : query.search = none)
    (hyears : ∀ cursor ∈ query.cursor, ∀ moment, cursor.value = .instant moment →
      moment.HasCommonYear)
    (hkept : kept.Perm rows) (deadline : Option Nat) :
    ∃ page, (carryOut Backend.sqlite.dialect (.page query deadline)).run sqlite kept
        = (.ok page, kept)
      ∧ paginate (inMemory rows) kind.catalog query deadline = .ok page := by
  have hquery := ListQuery.accepted_of_parse hparse
  have hpage := page_run_sqlite hquery hplain (hquery.legibleAnchors hyears) hids hcreated hkept
    deadline
  rw [paginate_inMemory] at hpage ⊢
  exact ⟨_, hpage, rfl⟩

end Records

/-- Four users created around the leap second at the end of 2016, with fractions of nine, three, no and six digits. -/
def leapUsers : List (Record .user) :=
  [.create .user "d" ⟨none, none, none⟩ ⟨1483228800, 1000⟩,
    .create .user "a" ⟨none, none, none⟩ ⟨1483228799, 999999999⟩,
    .create .user "c" ⟨none, none, none⟩ ⟨1483228800, 0⟩,
    .create .user "b" ⟨none, none, none⟩ ⟨1483228799, 1500000000⟩]

def leapParams : ListParams :=
  { ListParams.empty with
    sortBy := some "createdAt"
    sortOrder := some "desc"
    after := some "d"
    afterValue := some "2017-01-01T00:00:00.000001Z"
    limit := some "2" }

def leapQuery : ListQuery :=
  ⟨.attribute (.instant "createdAt"), .desc, 2, none,
    some ⟨.text "d", .instant ⟨1483228800, 1000⟩⟩, .after⟩

/-- The page begins with the two users who were created last before the anchor, one of them within the leap second. -/
theorem leapUsers_page :
    (leapUsers.map Record.id).Nodup
      ∧ (∀ row ∈ leapUsers, row.created.Proper ∧ row.created.HasCommonYear)
      ∧ ListQuery.parse leapParams ResourceKind.user.catalog LimitPolicy.standard = .ok leapQuery
      ∧ ∃ page, (RecordTable.carryOut Backend.sqlite.dialect (.page leapQuery none)).run
            RecordTable.sqlite leapUsers.reverse = (.ok page, leapUsers.reverse)
          ∧ paginate (inMemory leapUsers) ResourceKind.user.catalog leapQuery none = .ok page
          ∧ page.items = [.create .user "c" ⟨none, none, none⟩ ⟨1483228800, 0⟩,
            .create .user "b" ⟨none, none, none⟩ ⟨1483228799, 1500000000⟩]
          ∧ page.info.hasMore = true := by
  have hids : (leapUsers.map Record.id).Nodup := by decide
  have hcreated : ∀ row ∈ leapUsers, row.created.Proper ∧ row.created.HasCommonYear := by decide
  have hparse : ListQuery.parse leapParams ResourceKind.user.catalog LimitPolicy.standard
      = .ok leapQuery := by decide +kernel
  have hyears : ∀ cursor ∈ leapQuery.cursor, ∀ moment, cursor.value = .instant moment →
      moment.HasCommonYear := by
    rintro _ ⟨⟩ _ ⟨⟩
    decide
  obtain ⟨page, hrun, hpage⟩ := RecordTable.sqlite_page_eq_paginate hids hcreated hparse rfl
    hyears (List.reverse_perm leapUsers) none
  have hquery := ListQuery.accepted_of_parse hparse
  have hshown := paginate_of_sorted [.create .user "d" ⟨none, none, none⟩ ⟨1483228800, 1000⟩,
    .create .user "c" ⟨none, none, none⟩ ⟨1483228800, 0⟩,
    .create .user "b" ⟨none, none, none⟩ ⟨1483228799, 1500000000⟩,
    .create .user "a" ⟨none, none, none⟩ ⟨1483228799, 999999999⟩] hquery.wellTyped
    (Record.keyed hquery.sort_resolved hids) (Or.inr (by decide)) rfl (by decide) (by decide) none
  obtain rfl := Except.ok.inj (hpage.symm.trans hshown)
  exact ⟨hids, hcreated, hparse, _, hrun, hpage, by decide, by decide⟩

end Registrar
