import Registrar.Proofs.AcceptedRequests
import Registrar.Proofs.ForwardWalk
import Registrar.Proofs.SqliteListing

/-!
# The window of a page on SQLite

A client may send an anchor from beyond the years that are written with four digits, as an offset
reaches past the first and the last of them. The text of such an instant begins with a sign. So every
record stands after it on SQLite, be the instant earlier or later than all records. The page is cut
from an end of the listing all the same: an anchor of this kind leaves all rows or none.
-/

namespace Registrar

open Sql Sqlite Time

/-! ### Anchors in distant years -/

section Distant

variable {kind : ResourceKind} {moment : Instant}

def Record.createdAfter (record : Record kind) (moment : Instant) : Record kind :=
  { record with created := ⟨moment.seconds + 1, 0⟩ }

theorem Record.cmp_createdAfter (record : Record kind) (moment : Instant) :
    (record.createdAfter moment).created.cmp moment = .gt := by
  have hseconds : compare (moment.seconds + 1) moment.seconds = .gt := by
    rw [compare_gt_iff_gt]
    omega
  unfold Instant.cmp createdAfter
  rw [hseconds, Ordering.gt_then]

theorem Record.value_id_createdAfter (record : Record kind) (moment : Instant) :
    Row.value (record.createdAfter moment) kind.catalog.identifier.name
      = Row.value record kind.catalog.identifier.name := by
  rw [kind.identifier_catalog]
  exact (record.createdAfter moment).value_idField.trans record.value_idField.symm

/-- Next to a stored instant of a common year, one of a distant year stands where the sign of its text puts it: before it. -/
theorem compareTruth_distant {created : Instant} (hcreated : created.Proper ∧ created.HasCommonYear)
    (hyear : ¬ moment.HasCommonYear) (comparison : Comparison) :
    compareTruth comparison (stored (.instant created)) (stored (.instant moment))
      = some (comparison.admits .gt) := by
  have hcmp : (stored (.instant created)).cmp (stored (.instant moment)) = .gt :=
    Instant.compare_render_signed hcreated.1 hcreated.2 hyear _ _
  unfold compareTruth
  rw [hcmp]
  rfl

theorem Record.cell_of_created {record : Record kind} {column : MappedColumn}
    (hcolumn : kind.fields.get? "createdAt" = some column) :
    record.cell column.column = .instant record.created := by
  rw [record.shows "createdAt" column hcolumn, record.value_createdAt]

theorem Record.matches_createdAfter (record : Record kind) (moment : Instant)
    (comparison : Comparison) :
    (Predicate.compare "createdAt" comparison (.instant moment)).matches (record.createdAfter moment)
      = comparison.admits .gt := by
  rw [Predicate.matches, Record.value_createdAt, Predicate.comparesTo_of_kind rfl rfl, Value.cmp,
    record.cmp_createdAfter]

variable {query : ListQuery} {record : Record kind}

/-- The tests of a request from a distant anchor find in the cells of a record what they would find, had it been created after the anchor. -/
theorem Sql.Asked.agrees_distant {test : String × FieldTest}
    (htest : Asked kind.catalog query test) (hquery : query.Accepted kind.catalog)
    (hsort : query.sort = .attribute (.instant "createdAt"))
    (hvalue : ∀ cursor ∈ query.cursor, cursor.value = .instant moment)
    (hyear : ¬ moment.HasCommonYear) (hplain : ∀ term, test.2 ≠ .contains term)
    (hcreated : record.created.Proper ∧ record.created.HasCommonYear) :
    FieldTest.Agrees semantics kind.fields (fun column => stored (record.cell column))
      (record.createdAfter moment) test := by
  have hread := htest.readable (Record.keeps [record]) hquery.sort_resolved hquery.wellTyped
    List.mem_cons_self (record.sortable hquery.sort_resolved)
  have hnull : (Row.value (record.createdAfter moment) "createdAt").isNull = false := by
    rw [Record.value_createdAt]
    rfl
  cases htest with
  | search term hname => exact absurd rfl (hplain term)
  | @id cursor hcursor comparison =>
      have hagrees := hread.agrees_stored (Record.cell_legible hcreated.1 hcreated.2) hplain
        fun other value hother => by
          obtain ⟨-, rfl⟩ := FieldTest.compare.inj hother
          exact (hquery.wellTyped cursor hcursor).id_legible
      intro condition hcondition
      rw [hagrees condition hcondition, FieldTest.predicate, Predicate.matches, Predicate.matches,
        record.value_id_createdAfter]
  | @value cursor field hcursor hfield hsome comparison =>
      obtain rfl := SortKey.attribute.inj (hfield.symm.trans hsort)
      rw [hvalue cursor hcursor]
      intro condition hcondition
      obtain ⟨column, bound, hcolumn, hbound, rfl⟩ := ofPredicate_compare_eq_ok hcondition
      rw [Condition.truth, bound_sqlite hbound, Record.cell_of_created hcolumn,
        compareTruth_distant hcreated hyear, Option.some_inj]
      exact iff_of_eq (congrArg (· = true) (record.matches_createdAfter moment comparison).symm)
  | isNull hfield =>
      obtain rfl := SortKey.attribute.inj (hfield.symm.trans hsort)
      intro condition hcondition
      obtain ⟨column, hcolumn, ⟨⟩⟩ := bind_eq_ok hcondition
      rw [FieldTest.predicate, Condition.truth, Record.cell_of_created (resolve_eq_ok hcolumn),
        Predicate.matches, Option.some_inj]
      exact iff_of_eq (congrArg (· = true) hnull.symm)
  | isNotNull hfield =>
      obtain rfl := SortKey.attribute.inj (hfield.symm.trans hsort)
      intro condition hcondition
      obtain ⟨column, hcolumn, ⟨⟩⟩ := bind_eq_ok hcondition
      rw [FieldTest.predicate, Condition.truth, Record.cell_of_created (resolve_eq_ok hcolumn),
        Predicate.matches, Option.some_inj]
      exact iff_of_eq (congrArg (fun isNull => (!isNull) = true) hnull.symm)

/-- From a distant anchor an ascending scan keeps every record, and a descending one none. -/
theorem Sql.Select.keeps_distant {cursor : Cursor} {limit : Nat} {select : Select}
    (hquery : query.Accepted kind.catalog) (hplain : query.search = none)
    (hsort : query.sort = .attribute (.instant "createdAt")) (hcursor : query.cursor = some cursor)
    (hvalue : cursor.value = .instant moment) (hyear : ¬ moment.HasCommonYear)
    (hfilter : (RangeRequest.assemble kind.catalog query limit).1.filter.map
      (Condition.ofPredicate kind.fields) = select.filter.map Except.ok)
    (hcreated : record.created.Proper ∧ record.created.HasCommonYear) :
    select.keeps semantics (fun column => stored (record.cell column))
      = decide (query.direction.scanOrder query.order = .asc) := by
  -- The texts do not order the record and the anchor by time, so the boundary is read off another record.
  have hselects : select.keeps semantics (fun column => stored (record.cell column))
      = (RangeRequest.assemble kind.catalog query limit).1.selects (record.createdAfter moment) := by
    refine keeps_of_agrees hfilter fun predicate hrequest test htest => ?_
    refine (asked_of_mem_filter hrequest test htest).agrees_distant hquery hsort ?_ hyear
      (ne_contains_of_mem_filter hplain hrequest test htest) hcreated
    intro other hother
    rw [hcursor, Option.mem_some_iff] at hother
    rw [← hother, hvalue]
  have hcmp : (Value.instant moment).cmp
      (Row.value (record.createdAfter moment) (FieldSpec.instant "createdAt").name) = .lt := by
    change (Value.instant moment).cmp (Row.value (record.createdAfter moment) "createdAt") = .lt
    rw [Record.value_createdAt]
    exact Std.OrientedCmp.lt_of_gt (record.cmp_createdAfter moment)
  rw [hselects, ListQuery.selects_assemble hquery.wellTyped (Record.sortable hquery.sort_resolved _)]
  unfold ListQuery.finds ListQuery.reaches
  rw [hplain, hcursor, Bool.eq_iff_iff, Option.bind_none, Option.all_none, Bool.true_and,
    Option.all_some, decide_eq_true_eq, decide_eq_true_eq, hsort, Cursor.precedes_attribute_iff,
    hvalue]
  cases query.direction.scanOrder query.order with
  | asc => exact iff_of_true (Or.inl hcmp) rfl
  | desc =>
      refine iff_of_false ?_ SortOrder.noConfusion
      rintro (hlt | ⟨heq, -⟩)
      · rw [SortOrder.orient, hcmp] at hlt
        contradiction
      · have hself : (Value.instant moment).cmp (.instant moment) = .eq := Std.ReflCmp.compare_self
        rw [← heq, hself] at hcmp
        contradiction

end Distant

/-! ### The window -/

section Window

/-- What is kept of a list is its end, if with an item all those that follow it are kept. -/
theorem exists_eq_append_filter {α : Type} {rel : α → α → Prop} {keep : α → Bool} {items : List α}
    (hitems : items.Pairwise rel) (hkeep : ∀ a b, rel a b → keep a = true → keep b = true) :
    ∃ earlier, items = earlier ++ items.filter keep := by
  induction hitems with
  | nil => exact ⟨[], rfl⟩
  | @cons item rest hitem hrest ih =>
      by_cases hkept : keep item = true
      · have hall : (item :: rest).filter keep = item :: rest :=
          List.filter_eq_self.mpr (List.forall_mem_cons.mpr
            ⟨hkept, fun other hother => hkeep item other (hitem other hother) hkept⟩)
        exact ⟨[], hall.symm⟩
      · obtain ⟨earlier, hearlier⟩ := ih
        refine ⟨item :: earlier, ?_⟩
        rw [List.filter_cons_of_neg hkept, List.cons_append, ← hearlier]

variable {kind : ResourceKind} {rows kept : List (Record kind)} {params : ListParams}
  {policy : LimitPolicy} {query : ListQuery}

/-- Only listings by time of creation have cursors with an instant. -/
theorem ListQuery.sort_of_instant {cursor : Cursor} {moment : Instant}
    (hparse : parse params kind.catalog policy = .ok query) (hcursor : cursor ∈ query.cursor)
    (hvalue : cursor.value = .instant moment) : query.sort = .attribute (.instant "createdAt") := by
  have hquery := accepted_of_parse hparse
  obtain ⟨-, -, -, -, -, -, hgiven⟩ := parse_eq_ok_iff.mp hparse
  rcases hsort : query.sort with field | field
  · have hnull := (given_of_parseCursor hgiven).value_eq_null (by rw [hsort]; rfl) cursor hcursor
    rw [hvalue] at hnull
    contradiction
  · have hadmitted := (hquery.wellTyped cursor hcursor).value_admitted field hsort
    rcases kind.attribute_of_resolve (hsort ▸ hquery.sort_resolved) with rfl | rfl
    · rw [hvalue] at hadmitted
      simp [FieldSpec.Admits, FieldSpec.text, Value.kind?] at hadmitted
    · rfl

/-- Whatever cursor a query without a search has, its statement keeps with a record all those that follow it in the scan. -/
theorem Sql.Select.exists_keeps (hparse : ListQuery.parse params kind.catalog policy = .ok query)
    (hplain : query.search = none) (hids : (rows.map Record.id).Nodup)
    (hcreated : ∀ row ∈ rows, row.created.Proper ∧ row.created.HasCommonYear) {limit : Nat}
    {select : Select} (hfilter : (RangeRequest.assemble kind.catalog query limit).1.filter.map
      (Condition.ofPredicate kind.fields) = select.filter.map Except.ok) :
    ∃ keep : Record kind → Bool,
      (∀ a b, Cursor.Precedes (query.direction.scanOrder query.order)
        (Cursor.at kind.catalog query.sort a) (Cursor.at kind.catalog query.sort b) →
          keep a = true → keep b = true)
      ∧ ∀ row ∈ rows, select.keeps semantics (fun column => stored (row.cell column)) = keep row := by
  have hquery := ListQuery.accepted_of_parse hparse
  by_cases hyears : ∀ cursor ∈ query.cursor, ∀ moment, cursor.value = .instant moment →
      moment.HasCommonYear
  · refine ⟨query.reaches kind.catalog, fun a b => query.reaches_of_precedes, fun row hrow => ?_⟩
    rw [keeps_stored (Record.keeps rows) (Record.uniform hcreated)
      (Record.keyed hquery.sort_resolved hids) hquery hplain (hquery.legibleAnchors hyears) hfilter
      hrow, ListQuery.selects_assemble hquery.wellTyped (row.sortable hquery.sort_resolved)]
    unfold ListQuery.finds
    rw [hplain]
    rfl
  · push Not at hyears
    obtain ⟨cursor, hcursor, moment, hvalue, hyear⟩ := hyears
    refine ⟨fun _ => decide (query.direction.scanOrder query.order = .asc), fun _ _ _ => id, ?_⟩
    intro row hrow
    exact keeps_distant hquery hplain (ListQuery.sort_of_instant hparse hcursor hvalue) hcursor
      hvalue hyear hfilter (hcreated row hrow)

/-- **The window on SQLite.** Whatever cursor a query without a search has, its page is cut from an end of its listing. -/
theorem exists_page_run (hparse : ListQuery.parse params kind.catalog policy = .ok query)
    (hplain : query.search = none) (hids : (rows.map Record.id).Nodup)
    (hcreated : ∀ row ∈ rows, row.created.Proper ∧ row.created.HasCommonYear)
    (hkept : kept.Perm rows) (hroom : query.limit < maxCount ∨ rows.length ≤ maxCount)
    (deadline : Option Nat) :
    ∃ earlier later, query.listing kind.catalog rows = earlier ++ later
      ∧ (RecordTable.page Backend.sqlite.dialect query deadline).run RecordTable.sqlite kept
        = (.ok (query.pageOf (RangeRequest.assemble kind.catalog query query.fetchCount).2 later),
          kept) := by
  have hquery := ListQuery.accepted_of_parse hparse
  have hkeyed := Record.keyed hquery.sort_resolved hids
  have hlisting : query.listing kind.catalog rows = sortRows (query.scanTerms kind.catalog) rows :=
    ListQuery.listing_of_plain hplain
  have huntied : Untied (query.scanTerms kind.catalog) rows := hkeyed.untied _
  obtain ⟨select, hbuild, hrun⟩ := Select.exists_run_stored kind.table (Record.keeps rows)
    (Record.uniform hcreated) hkeyed hquery query.fetchCount
  obtain ⟨-, -, hfilter, -⟩ := Select.build_eq_ok_iff.mp hbuild
  obtain ⟨keep, hclosed, hkeeps⟩ := Select.exists_keeps hparse hplain hids hcreated hfilter
  obtain ⟨earlier, hearlier⟩ :=
    exists_eq_append_filter (ListQuery.listing_precedes hkeyed) hclosed
  refine ⟨earlier, (query.listing kind.catalog rows).filter keep, hearlier, ?_⟩
  have hlength : ((query.listing kind.catalog rows).filter keep).length ≤ rows.length := by
    refine (List.length_filter_le ..).trans ?_
    rw [hlisting, length_sortRows]
  have hfound : sortRows (query.scanTerms kind.catalog) (rows.filter fun row =>
      select.keeps semantics fun column => stored (row.cell column))
        = (query.listing kind.catalog rows).filter keep := by
    rw [hlisting, huntied.filter_sortRows, List.filter_congr hkeeps]
  have htake := query.pageOf_take_fetchCount
    (RangeRequest.assemble kind.catalog query query.fetchCount).2
    (hroom.imp_right (Nat.le_trans hlength))
  rw [page_run_of_build hbuild, hrun kept hkept, hfound, ← htake]
  cases deadline <;> rfl

end Window

end Registrar
