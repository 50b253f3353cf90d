import Registrar.Proofs.AcceptedRequests
import Registrar.Proofs.Placeholders
import Registrar.Proofs.SqliteListing

/-!
# The texts of statements

What a client sends reaches a statement through its placeholders only. The text of a statement is
that of the same statement with all values blanked out, so two list requests of the same form have
the same text, whatever they look for and from wherever they go on. What a statement binds can be
read off the tests of its request, one by one.
-/

namespace Registrar

open Sql

/-! ### Pieces -/

namespace Sql

def Piece.shown? : Piece → Option String
  | .text content => some content
  | .bind _ => none

/-- The values do not show in a text, so pieces that show the same have one text. -/
theorem Select.textFrom_eq_of_shown {backend : Backend} {pieces others : List Piece} (number : Nat)
    (hshown : pieces.map Piece.shown? = others.map Piece.shown?) :
    textFrom backend number pieces = textFrom backend number others := by
  induction pieces generalizing others number with
  | nil =>
      rw [List.map_nil, eq_comm, List.map_eq_nil_iff] at hshown
      rw [hshown]
  | cons piece pieces ih =>
      obtain ⟨other, others, rfl⟩ : ∃ other rest, others = other :: rest := by
        apply List.exists_cons_of_ne_nil
        rintro rfl
        contradiction
      obtain ⟨hpiece, hpieces⟩ := List.cons.inj hshown
      cases piece with
      | text content =>
          cases other with
          | text other =>
              obtain rfl := Option.some_inj.mp hpiece
              rw [textFrom, textFrom, ih number hpieces]
          | bind value => contradiction
      | bind value =>
          cases other with
          | text other => contradiction
          | bind other => rw [textFrom, textFrom, ih (number + 1) hpieces]

end Sql

/-! ### Blanking -/

def Value.blanked : Value → Value
  | .null => .null
  | _ => .text ""

theorem Value.blanked_eq_of_isNull {value other : Value} (hnull : value.isNull = other.isNull) :
    value.blanked = other.blanked := by
  cases value <;> cases other <;> first | rfl | contradiction

namespace Predicate

mutual

def blanked : Predicate → Predicate
  | .any parts => .any (blankedParts parts)
  | .all parts => .all (blankedParts parts)
  | .compare field comparison value => .compare field comparison value.blanked
  | .isNull field => .isNull field
  | .isNotNull field => .isNotNull field
  | .contains field _ => .contains field ""

def blankedParts : List Predicate → List Predicate
  | [] => []
  | part :: parts => part.blanked :: blankedParts parts

end

theorem blankedParts_eq_map (parts : List Predicate) : blankedParts parts = parts.map blanked := by
  induction parts with
  | nil => rfl
  | cons part parts ih => rw [blankedParts, List.map_cons, ih]

theorem blanked_and (first second : Predicate) :
    (first.and second).blanked = first.blanked.and second.blanked := by
  cases first <;> cases second <;> simp [Predicate.and, blanked, blankedParts_eq_map]

end Predicate

namespace Sql.Condition

mutual

/-- The condition with all values and patterns blanked; the pattern of an empty term is left. -/
def blanked : Condition → Condition
  | .any parts => .any (blankedParts parts)
  | .all parts => .all (blankedParts parts)
  | .compare column comparison _ => .compare column comparison (.text "")
  | .isNull column => .isNull column
  | .isNotNull column => .isNotNull column
  | .like column _ => .like column (String.ofList (Like.containing []))

def blankedParts : List Condition → List Condition
  | [] => []
  | part :: parts => part.blanked :: blankedParts parts

end

theorem collapse_blanked (condition : Condition) :
    condition.blanked.collapse = condition.collapse.blanked := by
  match condition with
  | .any [] => rfl
  | .any [part] => rfl
  | .any (part :: other :: parts) => rfl
  | .all [] => rfl
  | .all [part] => rfl
  | .all (part :: other :: parts) => rfl
  | .compare .. => rfl
  | .isNull .. => rfl
  | .isNotNull .. => rfl
  | .like .. => rfl

mutual

/-- Blanking the values before or after the translation makes no difference. -/
theorem ofPredicate_blanked (fields : FieldMap) (predicate : Predicate) :
    ofPredicate fields predicate.blanked = (ofPredicate fields predicate).map blanked := by
  cases predicate with
  | any parts =>
      have hparts := ofPredicates_blanked fields parts
      rw [Predicate.blanked, ofPredicate, ofPredicate, hparts]
      cases ofPredicates fields parts <;> rfl
  | all parts =>
      have hparts := ofPredicates_blanked fields parts
      rw [Predicate.blanked, ofPredicate, ofPredicate, hparts]
      cases ofPredicates fields parts <;> rfl
  | compare field comparison value =>
      rw [Predicate.blanked, ofPredicate, ofPredicate]
      cases fields.resolve field <;> cases value <;> rfl
  | isNull field =>
      rw [Predicate.blanked, ofPredicate]
      cases fields.resolve field <;> rfl
  | isNotNull field =>
      rw [Predicate.blanked, ofPredicate]
      cases fields.resolve field <;> rfl
  | contains field term =>
      rw [Predicate.blanked, ofPredicate, ofPredicate]
      cases fields.resolve field <;> rfl

theorem ofPredicates_blanked (fields : FieldMap) (parts : List Predicate) :
    ofPredicates fields (Predicate.blankedParts parts)
      = (ofPredicates fields parts).map blankedParts := by
  cases parts with
  | nil => rfl
  | cons part parts =>
      have hpart := ofPredicate_blanked fields part
      have hparts := ofPredicates_blanked fields parts
      rw [Predicate.blankedParts, ofPredicates, ofPredicates, hpart, hparts]
      cases ofPredicate fields part with
      | error fault => rfl
      | ok first =>
          cases ofPredicates fields parts with
          | error fault => rfl
          | ok rest => exact congrArg (fun part => Except.ok (part :: _)) (collapse_blanked first)

end

theorem isJunction_blanked (condition : Condition) :
    condition.blanked.isJunction = condition.isJunction := by
  match condition with
  | .any [] => rfl
  | .any [part] => rfl
  | .any (part :: other :: parts) => rfl
  | .all [] => rfl
  | .all [part] => rfl
  | .all (part :: other :: parts) => rfl
  | .compare .. => rfl
  | .isNull .. => rfl
  | .isNotNull .. => rfl
  | .like .. => rfl

theorem sameJunction_blanked (condition : Condition) (conjunctive : Bool) :
    condition.blanked.sameJunction conjunctive = condition.sameJunction conjunctive := by
  cases condition <;> rfl

theorem shown_parenthesized (pieces : List Piece) :
    (parenthesized pieces).map Piece.shown?
      = some "(" :: pieces.map Piece.shown? ++ [some ")"] := by
  rw [parenthesized, List.map_append, List.map_cons, List.map_singleton]
  rfl

mutual

/-- Blanking a condition changes nothing that its text shows. -/
theorem shown_blanked (backend : Backend) (condition : Condition) :
    (condition.blanked.pieces backend).map Piece.shown?
      = (condition.pieces backend).map Piece.shown? := by
  cases condition with
  | any parts => exact shown_junctionPieces backend false parts
  | all parts => exact shown_junctionPieces backend true parts
  | compare column comparison value => rfl
  | isNull column => rfl
  | isNotNull column => rfl
  | like column pattern => rfl

theorem shown_junctionPieces (backend : Backend) (conjunctive : Bool) (parts : List Condition) :
    (junctionPieces backend conjunctive (blankedParts parts)).map Piece.shown?
      = (junctionPieces backend conjunctive parts).map Piece.shown? := by
  match parts with
  | [] => rfl
  | [part] => exact shown_blanked backend part
  | part :: other :: parts =>
      have hpart := shown_blanked backend part
      have hrest := shown_restPieces backend conjunctive (other :: parts)
      rw [blankedParts] at hrest
      rw [blankedParts, blankedParts, junctionPieces, junctionPieces, isJunction_blanked,
        sameJunction_blanked, List.map_append, List.map_append, hrest]
      congr 1
      split
      · rw [shown_parenthesized, shown_parenthesized, hpart]
      · exact hpart

theorem shown_restPieces (backend : Backend) (conjunctive : Bool) (parts : List Condition) :
    (restPieces backend conjunctive (blankedParts parts)).map Piece.shown?
      = (restPieces backend conjunctive parts).map Piece.shown? := by
  match parts with
  | [] => rfl
  | part :: parts =>
      have hpart := shown_blanked backend part
      have hrest := shown_restPieces backend conjunctive parts
      rw [blankedParts, restPieces, restPieces, isJunction_blanked]
      rw [List.cons_append, List.cons_append, List.map_cons, List.map_cons, List.map_append,
        List.map_append, hrest]
      congr 2
      split
      · rw [shown_parenthesized, shown_parenthesized, hpart]
      · exact hpart

end

end Sql.Condition

/-! ### What is bound -/

section Bounds

variable {backend : Backend} {fields : FieldMap}

def FieldTest.bounds : FieldTest → List Bound
  | .compare _ value => (Bound.ofValue? value).toList
  | .contains term => [.text (searchPattern term)]
  | _ => []

def Predicate.bounds (predicate : Predicate) : List Bound :=
  predicate.tests.flatMap fun test => test.2.bounds

theorem Predicate.bounds_and (first second : Predicate) :
    (first.and second).bounds = first.bounds ++ second.bounds := by
  unfold bounds
  rw [tests_and, List.flatMap_append]

namespace Sql.Condition

def bounds (backend : Backend) (condition : Condition) : List Bound :=
  (condition.pieces backend).filterMap Piece.bound?

theorem filterMap_bound?_parenthesized (pieces : List Piece) :
    (parenthesized pieces).filterMap Piece.bound? = pieces.filterMap Piece.bound? := by
  unfold parenthesized
  rw [List.cons_append, List.filterMap_cons_none rfl, List.filterMap_append]
  exact List.append_nil _

theorem filterMap_bound?_restPieces (conjunctive : Bool) (parts : List Condition) :
    (restPieces backend conjunctive parts).filterMap Piece.bound?
      = parts.flatMap (bounds backend) := by
  induction parts with
  | nil => rfl
  | cons part parts ih =>
      rw [restPieces, List.cons_append, List.filterMap_cons_none rfl, List.filterMap_append, ih,
        List.flatMap_cons]
      congr 1
      split
      · exact filterMap_bound?_parenthesized _
      · rfl

theorem filterMap_bound?_junctionPieces (conjunctive : Bool) (parts : List Condition) :
    (junctionPieces backend conjunctive parts).filterMap Piece.bound?
      = parts.flatMap (bounds backend) := by
  match parts with
  | [] => rfl
  | [part] => exact (List.append_nil _).symm
  | part :: other :: parts =>
      rw [junctionPieces, List.filterMap_append, filterMap_bound?_restPieces, List.flatMap_cons]
      congr 1
      split
      · exact filterMap_bound?_parenthesized _
      · rfl

theorem bounds_collapse (condition : Condition) :
    condition.collapse.bounds backend = condition.bounds backend := by
  unfold collapse
  split <;> rfl

mutual

/-- The values of a condition are those of its predicate, test by test. -/
theorem bounds_ofPredicate {predicate : Predicate} {condition : Condition}
    (hcondition : ofPredicate fields predicate = .ok condition) :
    condition.bounds backend = predicate.bounds := by
  cases predicate with
  | any parts =>
      obtain ⟨conditions, hconditions, ⟨⟩⟩ := bind_eq_ok hcondition
      have hparts : conditions.flatMap (bounds backend) = _ := bounds_ofPredicates hconditions
      exact (filterMap_bound?_junctionPieces false conditions).trans hparts
  | all parts =>
      obtain ⟨conditions, hconditions, ⟨⟩⟩ := bind_eq_ok hcondition
      have hparts : conditions.flatMap (bounds backend) = _ := bounds_ofPredicates hconditions
      exact (filterMap_bound?_junctionPieces true conditions).trans hparts
  | compare field comparison value =>
      obtain ⟨column, bound, -, hbound, rfl⟩ := ofPredicate_compare_eq_ok hcondition
      rw [Predicate.bounds, Predicate.tests, List.flatMap_singleton, FieldTest.bounds, hbound]
      rfl
  | isNull field =>
      obtain ⟨column, -, ⟨⟩⟩ := bind_eq_ok hcondition
      rfl
  | isNotNull field =>
      obtain ⟨column, -, ⟨⟩⟩ := bind_eq_ok hcondition
      rfl
  | contains field term =>
      obtain ⟨column, -, ⟨⟩⟩ := bind_eq_ok hcondition
      rfl

theorem bounds_ofPredicates {parts : List Predicate} {conditions : List Condition}
    (hconditions : ofPredicates fields parts = .ok conditions) :
    conditions.flatMap (bounds backend)
      = (Predicate.testsOf parts).flatMap fun test => test.2.bounds := by
  cases parts with
  | nil =>
      obtain rfl := Except.ok.inj hconditions
      rfl
  | cons part parts =>
      obtain ⟨first, hfirst, hcons⟩ := bind_eq_ok hconditions
      obtain ⟨rest, hrest, ⟨⟩⟩ := bind_eq_ok hcons
      rw [Predicate.testsOf, List.flatMap_append, List.flatMap_cons, bounds_collapse,
        bounds_ofPredicate hfirst, bounds_ofPredicates hrest]
      rfl

end

end Sql.Condition

/-- What a boundary binds: before the identifier of its cursor, two times the value of the cursor unless there is none. -/
def Cursor.bounds (cursor : Cursor) (key : SortKey) : List Bound :=
  match key, Bound.ofValue? cursor.value with
  | .attribute _, some value => value :: value :: (Bound.ofValue? cursor.id).toList
  | _, _ => (Bound.ofValue? cursor.id).toList

theorem Cursor.bounds_boundary (cursor : Cursor) (identifier : FieldSpec) (key : SortKey)
    (direction : Direction) (order : SortOrder) :
    (cursor.boundary identifier key direction order).bounds = cursor.bounds key := by
  obtain ⟨id, value⟩ := cursor
  unfold boundary Cursor.bounds Predicate.bounds
  rcases key with field | field
  · exact List.append_nil _
  · generalize Relation.of direction order = relation
    cases value <;> cases relation <;>
      simp [Predicate.tests, Predicate.testsOf, FieldTest.bounds, Bound.ofValue?]

theorem Catalog.bounds_search (catalog : Catalog) {term : String} (hterm : term ≠ "") :
    (catalog.search term).elim [] Predicate.bounds
      = List.replicate catalog.searched.length (.text (searchPattern term)) := by
  have hcontains : ∀ names : List String,
      (Predicate.testsOf (names.map fun name => .contains name term)).flatMap
          (fun test => test.2.bounds)
        = List.replicate names.length (.text (searchPattern term)) := by
    intro names
    induction names with
    | nil => rfl
    | cons name names ih =>
        rw [List.map_cons, Predicate.testsOf, List.flatMap_append, ih]
        rfl
  have hempty : term.isEmpty = false := by simp [hterm]
  unfold search
  rw [hempty, Bool.false_or]
  split
  · next hnone =>
      rw [List.isEmpty_iff.mp hnone]
      rfl
  · exact hcontains catalog.searched

theorem RangeRequest.bounds_filter (request : RangeRequest) :
    request.filter.elim [] Predicate.bounds
      = request.search.elim [] Predicate.bounds ++ request.boundary.elim [] Predicate.bounds := by
  unfold filter
  cases request.search with
  | none => cases request.boundary <;> rfl
  | some search =>
      cases request.boundary with
      | none => exact (List.append_nil _).symm
      | some boundary => exact Predicate.bounds_and search boundary

def ListQuery.bounds (catalog : Catalog) (query : ListQuery) (count : Nat) : List Bound :=
  query.search.elim []
      (fun term => List.replicate catalog.searched.length (.text (searchPattern term)))
    ++ query.cursor.elim [] (·.bounds query.sort)
    ++ [.count count]

theorem ListQuery.bounds_assemble {catalog : Catalog} {query : ListQuery} {count : Nat}
    (hsearch : ∀ term ∈ query.search, term ≠ "") :
    (RangeRequest.assemble catalog query count).1.filter.elim [] Predicate.bounds ++ [.count count]
      = query.bounds catalog count := by
  rw [RangeRequest.bounds_filter]
  unfold ListQuery.bounds
  congr 2
  · change (query.search.bind catalog.search).elim [] Predicate.bounds = _
    cases hterm : query.search with
    | none => rfl
    | some term => exact catalog.bounds_search (hsearch term hterm)
  · change (query.cursor.map _).elim [] Predicate.bounds = _
    cases query.cursor with
    | none => rfl
    | some cursor => exact cursor.bounds_boundary ..

/-- A statement binds what its filter binds, and then the number of rows. -/
theorem Sql.Select.values_of_build {table : Table} {dialect : Dialect} {request : RangeRequest}
    {select : Select} (hbuild : Select.build table fields dialect request = .ok select) :
    select.values backend
      = request.filter.elim [] Predicate.bounds ++ [.count request.limit] := by
  obtain ⟨-, hlimit, hfilter, -⟩ := Select.build_eq_ok_iff.mp hbuild
  have horder : ∀ text : String,
      (if select.order.isEmpty then [] else [Piece.text text]).filterMap Piece.bound? = [] := by
    intro text
    split <;> rfl
  rw [values_eq_filterMap]
  unfold Select.pieces
  dsimp only
  rw [List.filterMap_append, List.filterMap_append, List.filterMap_append, horder, hlimit,
    List.append_nil]
  congr 1
  cases hcondition : select.filter with
  | none =>
      rw [hcondition, Option.map_none, Option.map_eq_none_iff] at hfilter
      rw [hfilter]
      rfl
  | some condition =>
      rw [hcondition, Option.map_some, Option.map_eq_some_iff] at hfilter
      obtain ⟨predicate, hpredicate, hmade⟩ := hfilter
      rw [hpredicate]
      exact Condition.bounds_ofPredicate hmade

end Bounds

/-! ### Requests of one form -/

/-- Two queries that differ in texts and counts alone: in their search terms, in what their cursors are made of, and in their limits. -/
structure ListQuery.SameForm (query other : ListQuery) : Prop where
  sort : query.sort = other.sort
  order : query.order = other.order
  direction : query.direction = other.direction
  cursor : query.cursor.map (·.value.isNull) = other.cursor.map (·.value.isNull)
  search : query.search.isSome = other.search.isSome

section Forms

variable {catalog : Catalog}

theorem Cursor.blanked_boundary {cursor other : Cursor} (hid : cursor.id.isNull = other.id.isNull)
    (hvalue : cursor.value.isNull = other.value.isNull) (identifier : FieldSpec) (key : SortKey)
    (direction : Direction) (order : SortOrder) :
    (cursor.boundary identifier key direction order).blanked
      = (other.boundary identifier key direction order).blanked := by
  obtain ⟨id, value⟩ := cursor
  obtain ⟨otherId, otherValue⟩ := other
  have hsame : id.blanked = otherId.blanked := Value.blanked_eq_of_isNull hid
  unfold boundary
  generalize Relation.of direction order = relation
  rcases key with field | field
  · rw [Predicate.blanked, Predicate.blanked, hsame]
  · have hvalues : value.blanked = otherValue.blanked := Value.blanked_eq_of_isNull hvalue
    cases value <;> cases otherValue <;> cases relation <;>
      first
      | contradiction
      | simp only [Predicate.blanked, Predicate.blankedParts, hsame, hvalues]

/-- Two terms that are looked for differ in nothing but themselves. -/
theorem Catalog.blanked_search (catalog : Catalog) {term other : String} (hterm : term ≠ "")
    (hother : other ≠ "") :
    (catalog.search term).map Predicate.blanked = (catalog.search other).map Predicate.blanked := by
  have hempty : term.isEmpty = false ∧ other.isEmpty = false := by
    simp [hterm, hother]
  unfold search
  rw [hempty.1, hempty.2]
  split
  · rfl
  · simp [Predicate.blanked, Predicate.blankedParts_eq_map]

theorem RangeRequest.blanked_filter (request : RangeRequest) :
    request.filter.map Predicate.blanked
      = filter { request with
          search := request.search.map Predicate.blanked
          boundary := request.boundary.map Predicate.blanked } := by
  unfold filter
  cases request.search with
  | none => cases request.boundary <;> rfl
  | some search =>
      cases request.boundary with
      | none => rfl
      | some boundary => exact congrArg some (Predicate.blanked_and search boundary)

namespace ListQuery.SameForm

variable {query other : ListQuery}

theorem blanked_search (hform : query.SameForm other)
    (hterm : ∀ term ∈ query.search, term ≠ "") (hother : ∀ term ∈ other.search, term ≠ "") :
    (query.search.bind catalog.search).map Predicate.blanked
      = (other.search.bind catalog.search).map Predicate.blanked := by
  have hsome := hform.search
  cases hquery : query.search with
  | none =>
      rw [hquery, Option.isSome_none, eq_comm, Option.isSome_eq_false_iff,
        Option.isNone_iff_eq_none] at hsome
      rw [hsome]
  | some term =>
      rw [hquery, Option.isSome_some, eq_comm, Option.isSome_iff_exists] at hsome
      obtain ⟨found, hfound⟩ := hsome
      rw [hfound]
      exact catalog.blanked_search (hterm term hquery) (hother found hfound)

theorem blanked_boundary (hform : query.SameForm other) (hquery : query.WellTyped catalog)
    (hother : other.WellTyped catalog) :
    (query.cursor.map fun cursor =>
        cursor.boundary catalog.identifier query.sort query.direction query.order).map
        Predicate.blanked
      = (other.cursor.map fun cursor =>
        cursor.boundary catalog.identifier other.sort other.direction other.order).map
        Predicate.blanked := by
  have hnull := hform.cursor
  rw [hform.sort, hform.direction, hform.order]
  cases hcursor : query.cursor with
  | none =>
      rw [hcursor, Option.map_none, eq_comm, Option.map_eq_none_iff] at hnull
      rw [hnull]
  | some cursor =>
      rw [hcursor, Option.map_some, eq_comm, Option.map_eq_some_iff] at hnull
      obtain ⟨found, hfound, hvalue⟩ := hnull
      have hid : cursor.id.isNull = false :=
        Value.isNull_eq_false.mpr (Value.ne_null_of_kind (hquery cursor hcursor).id_kind)
      have hfoundId : found.id.isNull = false :=
        Value.isNull_eq_false.mpr (Value.ne_null_of_kind (hother found hfound).id_kind)
      rw [hfound]
      exact congrArg some
        (Cursor.blanked_boundary (hid.trans hfoundId.symm) hvalue.symm _ other.sort _ _)

theorem blanked_filter (hform : query.SameForm other)
    (hterm : ∀ term ∈ query.search, term ≠ "") (hotherTerm : ∀ term ∈ other.search, term ≠ "")
    (hquery : query.WellTyped catalog) (hother : other.WellTyped catalog)
    (count otherCount : Nat) :
    (RangeRequest.assemble catalog query count).1.filter.map Predicate.blanked
      = (RangeRequest.assemble catalog other otherCount).1.filter.map Predicate.blanked := by
  rw [RangeRequest.blanked_filter, RangeRequest.blanked_filter]
  unfold RangeRequest.assemble
  dsimp only
  rw [hform.blanked_search hterm hotherTerm, hform.blanked_boundary hquery hother]
  rfl

end ListQuery.SameForm

namespace Sql.Select

variable {select other : Select} {table : Table} {fields : FieldMap} {dialect : Dialect}
  {request otherRequest : RangeRequest}

theorem shown_pieces (backend : Backend) (htable : select.table = other.table)
    (horder : select.order = other.order)
    (hfilter : select.filter.map Condition.blanked = other.filter.map Condition.blanked) :
    (select.pieces backend).map Piece.shown? = (other.pieces backend).map Piece.shown? := by
  have hframed : ∀ limit : Nat, ([Piece.text " LIMIT ", .bind (.count limit)]).map Piece.shown?
      = [some " LIMIT ", none] := fun _ => rfl
  unfold pieces
  dsimp only
  rw [htable, horder]
  cases hcondition : select.filter with
  | none =>
      rw [hcondition, Option.map_none, eq_comm, Option.map_eq_none_iff] at hfilter
      rw [hfilter]
      simp only [List.map_append, hframed]
  | some condition =>
      rw [hcondition, Option.map_some, eq_comm, Option.map_eq_some_iff] at hfilter
      obtain ⟨found, hfound, hblanked⟩ := hfilter
      have hshown : (condition.pieces backend).map Piece.shown?
          = (found.pieces backend).map Piece.shown? := by
        rw [← condition.shown_blanked, ← found.shown_blanked, hblanked]
      rw [hfound]
      simp only [List.map_append, List.map_cons, hshown, hframed]

theorem blanked_of_build (hbuild : Select.build table fields dialect request = .ok select) :
    (request.filter.map Predicate.blanked).map (Condition.ofPredicate fields)
      = (select.filter.map Condition.blanked).map Except.ok := by
  obtain ⟨-, -, hfilter, -⟩ := build_eq_ok_iff.mp hbuild
  calc (request.filter.map Predicate.blanked).map (Condition.ofPredicate fields)
      = (request.filter.map (Condition.ofPredicate fields)).map (Except.map Condition.blanked) := by
        rw [Option.map_map, Option.map_map]
        congr 1
        funext predicate
        exact Condition.ofPredicate_blanked fields predicate
    _ = (select.filter.map Except.ok).map (Except.map Condition.blanked) := by rw [hfilter]
    _ = (select.filter.map Condition.blanked).map Except.ok := by
        rw [Option.map_map, Option.map_map]
        rfl

/-- Requests that are alike but for texts and counts have statements that show the same. -/
theorem shown_eq_of_build (backend : Backend)
    (hbuild : Select.build table fields dialect request = .ok select)
    (hother : Select.build table fields dialect otherRequest = .ok other)
    (horder : request.order = otherRequest.order)
    (hfilter : request.filter.map Predicate.blanked = otherRequest.filter.map Predicate.blanked) :
    (select.pieces backend).map Piece.shown? = (other.pieces backend).map Piece.shown? := by
  obtain ⟨htable, -, -, hterms⟩ := build_eq_ok_iff.mp hbuild
  obtain ⟨hotherTable, -, -, hotherTerms⟩ := build_eq_ok_iff.mp hother
  have hterms : (Except.ok select.order : Except BuildError _) = .ok other.order := by
    rw [← hterms, ← hotherTerms, horder]
  have hblanked : (select.filter.map Condition.blanked).map Except.ok
      = (other.filter.map Condition.blanked).map (Except.ok : _ → Except BuildError _) := by
    rw [← blanked_of_build hbuild, ← blanked_of_build hother, hfilter]
  apply shown_pieces backend (htable.trans hotherTable.symm) (Except.ok.inj hterms)
  exact Option.map_injective (fun _ _ => Except.ok.inj) hblanked

end Sql.Select

theorem ListQuery.search_ne_empty_of_parse {params : ListParams} {policy : LimitPolicy}
    {query : ListQuery} (hparse : parse params catalog policy = .ok query) :
    ∀ term ∈ query.search, term ≠ "" := by
  obtain ⟨-, -, -, hsearch, -⟩ := parse_eq_ok_iff.mp hparse
  rintro term hterm rfl
  rw [hsearch, Option.mem_filter_iff] at hterm
  exact absurd hterm.2 (by decide)

theorem ResourceKind.missing_fields (kind : ResourceKind) :
    kind.fields.missing kind.catalog = [] := by
  cases kind <;> decide

/-- No table or column of a record has a name with a mark in it. -/
theorem ResourceKind.unmarked_table (kind : ResourceKind) (backend : Backend) :
    backend.Unmarked kind.table.name
      ∧ ∀ column ∈ kind.table.columns, backend.Unmarked column := by
  cases kind <;> cases backend <;> decide

theorem ResourceKind.unmarked_fields (kind : ResourceKind) (backend : Backend) (field : String)
    (column : MappedColumn) (hcolumn : kind.fields.get? field = some column) :
    backend.Unmarked column.column := by
  rcases ResourceKind.fields_eq_some hcolumn with ⟨-, rfl⟩ | ⟨-, rfl⟩ | ⟨-, rfl⟩
  · cases kind <;> cases backend <;> decide
  · cases kind <;> cases backend <;> decide
  · cases backend <;> decide

/-- **Texts of statements.** Accepted requests of one form have statements of one text, whatever texts and limits they are made of, and the text has one placeholder for each value. What a statement binds is, in the order of its placeholders, the search pattern once for each searched field, the values of the boundary, and the number of rows. -/
theorem statements_alike (kind : ResourceKind) (backend : Backend) (dialect : Dialect)
    {policy otherPolicy : LimitPolicy} {params otherParams : ListParams} {query other : ListQuery}
    (hquery : ListQuery.parse params kind.catalog policy = .ok query)
    (hother : ListQuery.parse otherParams kind.catalog otherPolicy = .ok other)
    (hform : query.SameForm other) (count otherCount : Nat) :
    ∃ select otherSelect,
      Select.build kind.table kind.fields dialect
          (RangeRequest.assemble kind.catalog query count).1 = .ok select
        ∧ Select.build kind.table kind.fields dialect
          (RangeRequest.assemble kind.catalog other otherCount).1 = .ok otherSelect
        ∧ select.text backend = otherSelect.text backend
        ∧ (select.text backend).toList.count backend.mark = (select.values backend).length
        ∧ (select.values backend).length = (otherSelect.values backend).length
        ∧ select.values backend = query.bounds kind.catalog count
        ∧ otherSelect.values backend = other.bounds kind.catalog otherCount := by
  have haccepted := ListQuery.accepted_of_parse hquery
  have hotherAccepted := ListQuery.accepted_of_parse hother
  have hterm := ListQuery.search_ne_empty_of_parse hquery
  have hotherTerm := ListQuery.search_ne_empty_of_parse hother
  obtain ⟨select, hbuild⟩ := Select.exists_build kind.missing_fields haccepted.sort_resolved
    haccepted.wellTyped kind.table dialect count
  obtain ⟨otherSelect, hotherBuild⟩ := Select.exists_build kind.missing_fields
    hotherAccepted.sort_resolved hotherAccepted.wellTyped kind.table dialect otherCount
  have horder : (RangeRequest.assemble kind.catalog query count).1.order
      = (RangeRequest.assemble kind.catalog other otherCount).1.order := by
    unfold RangeRequest.assemble
    dsimp only
    rw [hform.sort, hform.order, hform.direction]
  -- Both requests become the same one once their values are blanked, and so do their statements.
  have hshown := Select.shown_eq_of_build backend hbuild hotherBuild horder
    (hform.blanked_filter hterm hotherTerm haccepted.wellTyped hotherAccepted.wellTyped count
      otherCount)
  have htext : select.text backend = otherSelect.text backend :=
    Select.textFrom_eq_of_shown 1 hshown
  obtain ⟨htable, hcolumns⟩ := kind.unmarked_table backend
  have hcount := Select.count_mark_text htable hcolumns (kind.unmarked_fields backend) hbuild
  have hotherCount :=
    Select.count_mark_text htable hcolumns (kind.unmarked_fields backend) hotherBuild
  refine ⟨select, otherSelect, hbuild, hotherBuild, htext, hcount, ?_, ?_, ?_⟩
  · rw [← hcount, ← hotherCount, htext]
  · exact (Select.values_of_build hbuild).trans (ListQuery.bounds_assemble hterm)
  · exact (Select.values_of_build hotherBuild).trans (ListQuery.bounds_assemble hotherTerm)

def calledAfter (q after afterValue limit : String) : ListParams :=
  { ListParams.empty with
    sortBy := some "name"
    q := some q
    after := some after
    afterValue := some afterValue
    limit := some limit }

def calledAfterText : String :=
  "SELECT \"roles\".\"role_id\", \"roles\".\"name\", \"roles\".\"description\", "
    ++ "\"roles\".\"created_at\" FROM \"roles\" "
    ++ "WHERE (LOWER(\"role_id\") LIKE $1 ESCAPE E'\\\\' "
    ++ "OR LOWER(\"name\") LIKE $2 ESCAPE E'\\\\') "
    ++ "AND (\"name\" > $3 OR (\"name\" = $4 AND \"role_id\" > $5)) "
    ++ "ORDER BY \"roles\".\"name\" ASC NULLS FIRST, \"roles\".\"role_id\" ASC LIMIT $6"

/-- The second request tries to write into the statement. -/
theorem calledAfter_alike :
    ∃ query other select otherSelect,
      ListQuery.parse (calledAfter "Adm" "r1" "Auditor" "5") ResourceKind.role.catalog .standard
          = .ok query
        ∧ ListQuery.parse (calledAfter "%' OR 1=1 --" "$1; DROP TABLE roles" "\"?" "1000")
          ResourceKind.role.catalog .standard = .ok other
        ∧ query.SameForm other
        ∧ Select.build ResourceKind.role.table ResourceKind.role.fields (Backend.dialect .postgres)
            (RangeRequest.assemble ResourceKind.role.catalog query 6).1 = .ok select
        ∧ Select.build ResourceKind.role.table ResourceKind.role.fields (Backend.dialect .postgres)
            (RangeRequest.assemble ResourceKind.role.catalog other 1001).1 = .ok otherSelect
        ∧ select.text .postgres = otherSelect.text .postgres
        ∧ select.text .postgres = calledAfterText
        ∧ select.values .postgres = [.text "%adm%", .text "%adm%", .text "Auditor", .text "Auditor",
          .text "r1", .count 6] := by
  have hquery : ListQuery.parse (calledAfter "Adm" "r1" "Auditor" "5") ResourceKind.role.catalog
      .standard = .ok ⟨.attribute (.text "name"), .asc, 5, some "Adm",
        some ⟨.text "r1", .text "Auditor"⟩, .after⟩ := by
    decide +kernel
  have hother : ListQuery.parse (calledAfter "%' OR 1=1 --" "$1; DROP TABLE roles" "\"?" "1000")
      ResourceKind.role.catalog .standard = .ok ⟨.attribute (.text "name"), .asc, 1000,
        some "%' OR 1=1 --", some ⟨.text "$1; DROP TABLE roles", .text "\"?"⟩, .after⟩ := by
    decide +kernel
  have hform : ListQuery.SameForm
      ⟨.attribute (.text "name"), .asc, 5, some "Adm", some ⟨.text "r1", .text "Auditor"⟩, .after⟩
      ⟨.attribute (.text "name"), .asc, 1000, some "%' OR 1=1 --",
        some ⟨.text "$1; DROP TABLE roles", .text "\"?"⟩, .after⟩ :=
    ⟨rfl, rfl, rfl, rfl, rfl⟩
  have hwritten : (Select.build ResourceKind.role.table ResourceKind.role.fields
      (Backend.dialect .postgres)
      (RangeRequest.assemble ResourceKind.role.catalog ⟨.attribute (.text "name"), .asc, 5,
        some "Adm", some ⟨.text "r1", .text "Auditor"⟩, .after⟩ 6).1).map (Select.text .postgres)
      = .ok calledAfterText := by
    decide +kernel
  obtain ⟨select, otherSelect, hbuild, hotherBuild, htext, -, -, hvalues, -⟩ :=
    statements_alike .role .postgres (Backend.dialect .postgres) hquery hother hform 6 1001
  rw [hbuild] at hwritten
  refine ⟨_, _, select, otherSelect, hquery, hother, hform, hbuild, hotherBuild, htext,
    Except.ok.inj hwritten, ?_⟩
  rw [hvalues]
  decide +kernel

end Forms

end Registrar
