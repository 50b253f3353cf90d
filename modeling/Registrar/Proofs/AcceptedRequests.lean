import Registrar.Proofs.ParsedQueries
import Registrar.Proofs.SelectRefinement
import Registrar.Settings.Module

/-!
# Accepted requests

A list request is refused for a parameter or for its cursor, and what is let through has a statement
on every database, once the fields of the catalog have columns. So no client sees the failures of a
statement that names an unknown field or compares with null.
-/

namespace Registrar

/-! ### Refusals -/

section Refusals

variable {catalog : Catalog} {key : SortKey} {params : ListParams} {policy : LimitPolicy}
  {fault : ListError}

theorem bind_eq_error {ε α β : Type} {outcome : Except ε α} {next : α → Except ε β} {fault : ε}
    (hbind : (outcome >>= next) = .error fault) :
    outcome = .error fault ∨ ∃ value, outcome = .ok value ∧ next value = .error fault := by
  cases outcome with
  | error other => exact Or.inl (congrArg Except.error (Except.error.inj hbind))
  | ok value => exact Or.inr ⟨value, rfl, hbind⟩

theorem fault_of_parseLimit {raw : Option String} (hlimit : parseLimit raw policy = .error fault) :
    ∃ reason, fault = .invalidParameter "limit" reason := by
  unfold parseLimit at hlimit
  cases raw with
  | none => contradiction
  | some text =>
      dsimp only at hlimit
      cases hsize : signed64? (Text.trim text) with
      | none =>
          rw [hsize] at hlimit
          exact ⟨_, (Except.error.inj hlimit).symm⟩
      | some size =>
          rw [hsize] at hlimit
          dsimp only at hlimit
          split at hlimit
          · exact ⟨_, (Except.error.inj hlimit).symm⟩
          · contradiction

theorem fault_of_parseValue {raw name : String} (hvalue : catalog.parseValue raw name = .error fault) :
    ∃ reason, fault = .invalidSortValue name reason := by
  unfold Catalog.parseValue at hvalue
  split at hvalue
  · exact ⟨_, (Except.error.inj hvalue).symm⟩
  · next key hkey =>
      by_cases hraw : raw.isEmpty = true
      · rw [if_pos hraw] at hvalue
        split at hvalue
        · exact ⟨_, (Except.error.inj hvalue).symm⟩
        · contradiction
      · rw [if_neg hraw] at hvalue
        split at hvalue
        · contradiction
        · exact ⟨_, (Except.error.inj hvalue).symm⟩

/-- The failure of a value shows as one of the cursor. -/
theorem fault_of_parseAnchor {raw name : String}
    (hanchor : Cursor.parseAnchor catalog raw name = .error fault) :
    ∃ reason, fault = .invalidCursor reason := by
  unfold Cursor.parseAnchor at hanchor
  cases hvalue : catalog.parseValue raw name with
  | ok value =>
      rw [hvalue] at hanchor
      contradiction
  | error other =>
      rw [hvalue] at hanchor
      obtain ⟨reason, rfl⟩ := fault_of_parseValue hvalue
      exact ⟨_, (Except.error.inj hanchor).symm⟩

theorem fault_of_decode {raw : String} {rawValue : Option String}
    (hdecode : Cursor.decode catalog key raw rawValue = .error fault) :
    ∃ reason, fault = .invalidCursor reason := by
  unfold Cursor.decode at hdecode
  dsimp only at hdecode
  by_cases hraw : raw.isEmpty = true
  · rw [if_pos hraw] at hdecode
    exact ⟨_, (Except.error.inj hdecode).symm⟩
  rw [if_neg hraw] at hdecode
  rcases bind_eq_error hdecode with hid | ⟨id, -, hdecode⟩
  · exact fault_of_parseAnchor hid
  · split at hdecode
    · contradiction
    · contradiction
    · rcases bind_eq_error hdecode with hvalue | ⟨value, -, hdecode⟩
      · exact fault_of_parseAnchor hvalue
      · contradiction

namespace ListQuery

theorem fault_of_parseSort {raw : Option String} (hsort : parseSort catalog raw = .error fault) :
    ∃ reason, fault = .invalidParameter "sortBy" reason := by
  unfold parseSort at hsort
  split at hsort
  · contradiction
  · split at hsort
    · contradiction
    · split at hsort
      · contradiction
      · exact ⟨_, (Except.error.inj hsort).symm⟩

theorem fault_of_parseOrder {raw : Option String} (horder : parseOrder catalog raw = .error fault) :
    ∃ reason, fault = .invalidParameter "sortOrder" reason := by
  unfold parseOrder at horder
  split at horder
  · contradiction
  · next name =>
      split at horder
      · contradiction
      · cases hparse : SortOrder.parse name with
        | ok order =>
            rw [hparse] at horder
            contradiction
        | error reason =>
            rw [hparse] at horder
            exact ⟨reason, (Except.error.inj horder).symm⟩

theorem fault_of_parseCursor (hcursor : parseCursor catalog key params = .error fault) :
    (∃ reason, fault = .invalidParameter "after" reason)
      ∨ ∃ reason, fault = .invalidCursor reason := by
  have hdecoded : ∀ (side : Direction) raw rawValue,
      (Cursor.decodeWith catalog key side.marker raw rawValue).map
        (fun found => (found.1, some found.2)) = .error fault →
      ∃ reason, fault = .invalidCursor reason := by
    intro side raw rawValue hmap
    rw [decodeWith_marker] at hmap
    cases hdecode : Cursor.decode catalog key raw rawValue with
    | ok cursor =>
        rw [hdecode] at hmap
        contradiction
    | error other =>
        rw [hdecode] at hmap
        obtain rfl := Except.error.inj hmap
        exact fault_of_decode hdecode
  unfold parseCursor at hcursor
  split at hcursor
  · exact Or.inl ⟨_, (Except.error.inj hcursor).symm⟩
  · exact Or.inr (hdecoded .after _ _ hcursor)
  · exact Or.inr (hdecoded .before _ _ hcursor)
  · contradiction

def blamable : List String :=
  ["sortBy", "sortOrder", "limit", "afterValue", "beforeValue", "after"]

/-- A request is refused for one of its parameters or for its cursor, and for nothing else. -/
theorem fault_of_parse (hparse : parse params catalog policy = .error fault) :
    (∃ parameter ∈ blamable, ∃ reason, fault = .invalidParameter parameter reason)
      ∨ ∃ reason, fault = .invalidCursor reason := by
  have hblame : ∀ parameter, parameter ∈ blamable →
      (∃ reason, fault = .invalidParameter parameter reason) →
      ∃ parameter ∈ blamable, ∃ reason, fault = .invalidParameter parameter reason :=
    fun parameter hparameter hfault => ⟨parameter, hparameter, hfault⟩
  rcases bind_eq_error hparse with hsort | ⟨sort, -, hparse⟩
  · exact Or.inl (hblame "sortBy" (by decide) (fault_of_parseSort hsort))
  rcases bind_eq_error hparse with horder | ⟨order, -, hparse⟩
  · exact Or.inl (hblame "sortOrder" (by decide) (fault_of_parseOrder horder))
  rcases bind_eq_error hparse with hlimit | ⟨limit, -, hparse⟩
  · exact Or.inl (hblame "limit" (by decide) (fault_of_parseLimit hlimit))
  dsimp only at hparse
  split at hparse
  · exact Or.inl (hblame "afterValue" (by decide) ⟨_, (Except.error.inj hparse).symm⟩)
  split at hparse
  · exact Or.inl (hblame "beforeValue" (by decide) ⟨_, (Except.error.inj hparse).symm⟩)
  rcases bind_eq_error hparse with hcursor | ⟨found, -, hparse⟩
  · exact (fault_of_parseCursor hcursor).imp_left (hblame "after" (by decide))
  · contradiction

end ListQuery

end Refusals

/-! ### What is let through -/

section Accepted

variable {catalog : Catalog} {params : ListParams} {policy : LimitPolicy} {query : ListQuery}

/-- What an accepted request asks for, whatever texts it is made of. -/
structure ListQuery.WellFormed (catalog : Catalog) (params : ListParams) (maxLimit : Nat)
    (query : ListQuery) : Prop where
  limit_pos : 1 ≤ query.limit
  limit_le : query.limit ≤ maxLimit
  search_ne_empty : ∀ term ∈ query.search, term ≠ ""
  cursor_isSome : query.cursor.isSome = (params.after.isSome ^^ params.before.isSome)
  direction_eq : query.direction = if params.before.isSome then .before else .after
  id_ne_null : ∀ cursor ∈ query.cursor, cursor.id ≠ .null
  id_kind : ∀ cursor ∈ query.cursor, cursor.id.kind? = some catalog.identifier.kind
  value_eq_null : ∀ cursor ∈ query.cursor, query.sort.isIdentifier = true → cursor.value = .null
  value_kind : ∀ cursor ∈ query.cursor,
    cursor.value = .null ∨ cursor.value.kind? = some query.sort.field.kind

theorem Cursor.value_eq_null_of_decode {key : SortKey} {cursor : Cursor} {raw : String}
    {rawValue : Option String} (hdecode : decode catalog key raw rawValue = .ok cursor)
    (hkey : key.isIdentifier = true) : cursor.value = .null := by
  unfold decode at hdecode
  dsimp only at hdecode
  split at hdecode
  · contradiction
  · obtain ⟨id, -, hdecode⟩ := bind_eq_ok hdecode
    rcases key with field | field
    · obtain rfl := Except.ok.inj hdecode
      rfl
    · contradiction

namespace ListQuery

theorem Given.cursor_isSome {key : SortKey} {direction : Direction} {found : Option Cursor}
    (hgiven : Given catalog key params direction found) :
    found.isSome = (params.after.isSome ^^ params.before.isSome)
      ∧ direction = if params.before.isSome then .before else .after := by
  cases hgiven with
  | start hafter hbefore =>
      rw [hafter, hbefore]
      exact ⟨rfl, rfl⟩
  | after hafter hbefore hdecode =>
      rw [hafter, hbefore]
      exact ⟨rfl, rfl⟩
  | before hafter hbefore hdecode =>
      rw [hafter, hbefore]
      exact ⟨rfl, rfl⟩

theorem Given.value_eq_null {key : SortKey} {direction : Direction} {found : Option Cursor}
    (hgiven : Given catalog key params direction found) (hkey : key.isIdentifier = true) :
    ∀ cursor ∈ found, cursor.value = .null := by
  intro cursor hmem
  cases hgiven with
  | start hafter hbefore => contradiction
  | after hafter hbefore hdecode =>
      obtain rfl := Option.mem_some_iff.mp hmem
      exact Cursor.value_eq_null_of_decode hdecode hkey
  | before hafter hbefore hdecode =>
      obtain rfl := Option.mem_some_iff.mp hmem
      exact Cursor.value_eq_null_of_decode hdecode hkey

/-- What was let through is well formed if the standard page is among the allowed ones. -/
theorem wellFormed_of_parse (hdefault : 1 ≤ policy.default) (hmax : policy.default ≤ policy.max)
    (hparse : parse params catalog policy = .ok query) :
    query.WellFormed catalog params policy.max := by
  have hwellTyped := (accepted_of_parse hparse).wellTyped
  obtain ⟨-, -, hlimit, hsearch, -, -, hcursor⟩ := parse_eq_ok_iff.mp hparse
  obtain ⟨hpos, hle⟩ := parseLimit_bounds hdefault hmax hlimit
  have hgiven := given_of_parseCursor hcursor
  obtain ⟨hsome, hdirection⟩ := hgiven.cursor_isSome
  refine ⟨hpos, hle, ?_, hsome, hdirection, ?_, ?_, ?_, ?_⟩
  · intro term hterm hempty
    rw [hsearch, hempty, Option.mem_filter_iff] at hterm
    simp at hterm
  · exact fun cursor hmem => Value.ne_null_of_kind (hwellTyped cursor hmem).id_kind
  · exact fun cursor hmem => (hwellTyped cursor hmem).id_kind
  · exact fun cursor hmem hkey => hgiven.value_eq_null hkey cursor hmem
  · intro cursor hmem
    rcases hsort : query.sort with field | field
    · exact Or.inl (hgiven.value_eq_null (by rw [hsort]; rfl) cursor hmem)
    · exact (hwellTyped cursor hmem).value_admitted field hsort

end ListQuery

theorem bounds_of_validate {settings : Settings.ModuleSettings}
    (hvalid : settings.validate = .ok ()) :
    1 ≤ settings.defaultPageSize ∧ settings.defaultPageSize ≤ settings.maxPageSize := by
  unfold Settings.ModuleSettings.validate at hvalid
  split at hvalid
  · contradiction
  · split at hvalid
    · contradiction
    · omega

def Predicate.ComparesValues (predicate : Predicate) : Prop :=
  ∀ field comparison value, (field, FieldTest.compare comparison value) ∈ predicate.tests →
    value ≠ .null

theorem Sql.Asked.ne_null {field : String} {comparison : Comparison} {value : Value}
    (htest : Asked catalog query (field, .compare comparison value))
    (hquery : query.WellTyped catalog) : value ≠ .null := by
  cases htest with
  | id hcursor comparison => exact Value.ne_null_of_kind (hquery _ hcursor).id_kind
  | value hcursor hfield hvalue comparison => exact hvalue

/-- A null in the cursor makes a test for null, never a comparison. -/
theorem comparesValues_boundary (hquery : query.WellTyped catalog) (limit : Nat) :
    ∀ boundary ∈ (RangeRequest.assemble catalog query limit).1.boundary,
      boundary.ComparesValues := by
  intro boundary hboundary field comparison value htest
  obtain ⟨cursor, hcursor, rfl⟩ := Option.map_eq_some_iff.mp hboundary
  exact (Sql.asked_of_mem_boundary hcursor _ htest).ne_null hquery

/-- **Accepted requests.** Under page sizes that are valid and with a column for every field, a request of whatever texts is refused for a parameter or for its cursor, or else it is well formed, compares with no null, and has a statement on every database. -/
theorem refused_or_stated {settings : Settings.ModuleSettings}
    (hsettings : settings.validate = .ok ()) {fields : Sql.FieldMap}
    (hmapped : fields.missing catalog = []) (params : ListParams) :
    (∃ fault, ListQuery.parse params catalog settings.limits = .error fault
        ∧ ((∃ parameter ∈ ListQuery.blamable, ∃ reason,
            fault = .invalidParameter parameter reason)
          ∨ ∃ reason, fault = .invalidCursor reason))
      ∨ ∃ query, ListQuery.parse params catalog settings.limits = .ok query
        ∧ query.WellFormed catalog params settings.maxPageSize
        ∧ ∀ limit,
          (∀ boundary ∈ (RangeRequest.assemble catalog query limit).1.boundary,
            boundary.ComparesValues)
          ∧ ∀ table dialect, ∃ select, Sql.Select.build table fields dialect
            (RangeRequest.assemble catalog query limit).1 = .ok select := by
  obtain ⟨hdefault, hmax⟩ := bounds_of_validate hsettings
  cases hparse : ListQuery.parse params catalog settings.limits with
  | error fault => exact Or.inl ⟨fault, rfl, ListQuery.fault_of_parse hparse⟩
  | ok query =>
      have haccepted := ListQuery.accepted_of_parse hparse
      refine Or.inr ⟨query, rfl, ListQuery.wellFormed_of_parse hdefault hmax hparse, ?_⟩
      intro limit
      refine ⟨comparesValues_boundary haccepted.wellTyped limit, ?_⟩
      intro table dialect
      exact Sql.Select.exists_build hmapped haccepted.sort_resolved haccepted.wellTyped table
        dialect limit

end Accepted

/-- A request for the rows before one with a name, the limit written with blanks and a sign. -/
def beforeParams : ListParams :=
  { ListParams.empty with
    sortBy := some "name"
    q := some "C"
    before := some "e"
    beforeValue := some "x"
    limit := some " +2 " }

theorem beforeParams_stated :
    Settings.ModuleSettings.standard.validate = .ok ()
      ∧ Sql.namesFields.missing namesCatalog = []
      ∧ ∃ query, ListQuery.parse beforeParams namesCatalog Settings.ModuleSettings.standard.limits
          = .ok query
        ∧ query.WellFormed namesCatalog beforeParams 1000
        ∧ ∀ limit,
          (∀ boundary ∈ (RangeRequest.assemble namesCatalog query limit).1.boundary,
            boundary.ComparesValues)
          ∧ ∀ table dialect, ∃ select, Sql.Select.build table Sql.namesFields dialect
            (RangeRequest.assemble namesCatalog query limit).1 = .ok select := by
  have hsettings : Settings.ModuleSettings.standard.validate = .ok () := by decide
  have hmapped : Sql.namesFields.missing namesCatalog = [] := by decide
  have hparse : ListQuery.parse beforeParams namesCatalog Settings.ModuleSettings.standard.limits
      = .ok ⟨.attribute (.text "name"), .asc, 2, some "C", some ⟨.text "e", .text "x"⟩, .before⟩ := by
    decide +kernel
  refine ⟨hsettings, hmapped, ?_⟩
  rcases refused_or_stated hsettings hmapped beforeParams with ⟨fault, hfault, -⟩ | hstated
  · rw [hparse] at hfault
    contradiction
  · exact hstated

end Registrar
