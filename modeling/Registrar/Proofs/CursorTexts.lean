import Registrar.Proofs.RecordChecks
import Registrar.Proofs.SqliteListing
import Registrar.Resource.Wire

/-!
# Cursors as texts

An answer names the rows at the edges of its page by texts. Sent back, they are read as the cursors
at these rows: no stored record has an empty text, so a value that is left out was null, and the text
of an instant loses nothing.
-/

namespace Registrar

open Time

/-- A value that its text stands for. The empty text does not: it is read as null. -/
def Value.Tellable (value : Value) : Prop :=
  value.Legible ∧ value ≠ .text ""

def Value.reread (value : Value) : Value :=
  if value = .text "" then .null else value

theorem Value.Tellable.reread {value : Value} (htell : value.Tellable) : value.reread = value :=
  if_neg htell.2

/-- The empty text is the only value that is read as another one. -/
theorem Value.reread_eq_self_iff {value : Value} : value.reread = value ↔ value ≠ .text "" := by
  unfold Value.reread
  split
  · next hempty =>
      rw [hempty]
      exact ⟨Value.noConfusion, fun hne => absurd rfl hne⟩
  · next hne => exact ⟨fun _ => hne, fun _ => rfl⟩

/-- By its kind, a legible value is read back from its text. -/
theorem Value.parse_raw {value : Value} {kind : Kind} {raw : String} (hlegible : value.Legible)
    (hkind : value.kind? = some kind) (hraw : value.raw? = some raw) :
    kind.parse raw = .ok value := by
  cases value with
  | null => contradiction
  | text content =>
      obtain rfl := Option.some_inj.mp hkind
      obtain rfl := Option.some_inj.mp hraw
      rfl
  | instant moment =>
      obtain rfl := Option.some_inj.mp hkind
      obtain rfl := Option.some_inj.mp hraw
      unfold Kind.parse
      dsimp only
      rw [Instant.read_text hlegible.1 hlegible.2]

/-- Only the empty text has an empty text. -/
theorem Value.isEmpty_raw {value : Value} {raw : String} (hlegible : value.Legible)
    (hraw : value.raw? = some raw) : raw.isEmpty = decide (value = .text "") := by
  cases value with
  | null => contradiction
  | text content =>
      obtain rfl := Option.some_inj.mp hraw
      rw [Bool.eq_iff_iff, decide_eq_true_eq, String.isEmpty_iff, Value.text.injEq]
  | instant moment =>
      obtain rfl := Option.some_inj.mp hraw
      have hread := Instant.read_text hlegible.1 hlegible.2
      rw [decide_eq_false Value.noConfusion, String.isEmpty_eq_false_iff]
      intro hempty
      rw [hempty] at hread
      contradiction

theorem Value.eq_null_of_raw {value : Value} (hraw : value.raw? = none) : value = .null := by
  cases value with
  | null => rfl
  | text content => contradiction
  | instant moment => contradiction

section Decode

variable {ρ : Type} [Row ρ] {catalog : Catalog} {key : SortKey} {row : ρ}

/-- The text of a value is read back for its field, the empty text as null if the field may be null. -/
theorem Catalog.parseValue_raw {name raw : String} {value : Value}
    (hresolve : catalog.resolve name = some key) (hlegible : value.Legible)
    (hkind : value.kind? = some key.field.kind) (hraw : value.raw? = some raw)
    (hnull : key.isIdentifier = true → value ≠ .text "") :
    catalog.parseValue raw name = .ok value.reread := by
  unfold parseValue
  rw [hresolve]
  dsimp only
  rw [Value.isEmpty_raw hlegible hraw]
  by_cases hempty : value = .text ""
  · have hattribute : key.isIdentifier = false :=
      Bool.eq_false_iff.mpr fun hkey => hnull hkey hempty
    rw [decide_eq_true hempty, if_pos rfl, hattribute, if_neg Bool.false_ne_true,
      Value.reread, if_pos hempty]
  · rw [decide_eq_false hempty, if_neg Bool.false_ne_true, Value.parse_raw hlegible hkind hraw,
      Value.reread, if_neg hempty]

/-- The texts of the values of a row are read as the cursor at the row, an empty sort value as null. -/
theorem Cursor.decode_reread (hrow : Sortable catalog key row)
    (hkey : ∃ name, catalog.resolve name = some key)
    (hlegible : ∀ name, (Row.value row name).Legible) {rawId : String}
    (hid : (Row.value row catalog.identifier.name).raw? = some rawId) (hsome : rawId ≠ "") :
    decode catalog key rawId
        (if key.isIdentifier then none else (Row.value row key.field.name).raw?)
      = .ok ⟨(Cursor.at catalog key row).id, (Cursor.at catalog key row).value.reread⟩ := by
  obtain ⟨name, hname⟩ := hkey
  have hidSome : Row.value row catalog.identifier.name ≠ .text "" := by
    intro hempty
    rw [hempty] at hid
    exact hsome (Option.some_inj.mp hid).symm
  refine decode_eq_ok_iff.mpr ⟨String.isEmpty_eq_false_iff.mpr hsome, ?_, ?_⟩
  · unfold Cursor.at
    rw [← Value.reread_eq_self_iff.mpr hidSome]
    exact Catalog.parseValue_raw catalog.resolve_identifier (hlegible _) hrow.id_kind hid
      fun _ => hidSome
  · rcases key with field | field
    · rfl
    · change ReadsValue catalog _ (Row.value row field.name).raw? (Row.value row field.name).reread
      cases hraw : (Row.value row field.name).raw? with
      | none =>
          rw [Value.eq_null_of_raw hraw]
          rfl
      | some raw =>
          have hkind : (Row.value row field.name).kind? = some field.kind := by
            refine (hrow.value_admitted field rfl).resolve_left fun hnull => ?_
            rw [hnull] at hraw
            contradiction
          exact Catalog.parseValue_raw (Catalog.resolve_field hname) (hlegible _) hkind hraw
            Bool.noConfusion

/-- **Round trip.** The texts of the values of a row are read as the cursor at the row. -/
theorem Cursor.decode_at (hrow : Sortable catalog key row)
    (hkey : ∃ name, catalog.resolve name = some key)
    (htell : ∀ name, (Row.value row name).Tellable) {rawId : String}
    (hid : (Row.value row catalog.identifier.name).raw? = some rawId) :
    decode catalog key rawId
        (if key.isIdentifier then none else (Row.value row key.field.name).raw?)
      = .ok (Cursor.at catalog key row) := by
  have hsome : rawId ≠ "" := by
    rw [← String.isEmpty_eq_false_iff, Value.isEmpty_raw (htell _).1 hid]
    exact decide_eq_false (htell _).2
  have hvalue : (Cursor.at catalog key row).value.reread = (Cursor.at catalog key row).value := by
    unfold Cursor.at
    dsimp only
    split
    · rfl
    · exact (htell _).reread
  rw [decode_reread hrow hkey (fun name => (htell name).1) hid hsome, hvalue]

end Decode

/-! ### The requests of a walk -/

def ListParams.start (sortBy : String) (order : SortOrder) (limit : Option String) : ListParams :=
  { ListParams.empty with sortBy := some sortBy, sortOrder := some order.name, limit := limit }

def ListParams.follow (params : ListParams) (cursor : CursorTexts) : ListParams :=
  { params with after := some cursor.id, afterValue := cursor.value }

/-- A request for the page after a cursor asks for what the first one asked for, from that cursor on. -/
theorem ListQuery.parse_follow {params : ListParams} {catalog : Catalog} {policy : LimitPolicy}
    {query : ListQuery} {cursor : CursorTexts} {anchor : Cursor}
    (hparse : parse params catalog policy = .ok query) (hbefore : params.before = none)
    (hdecode : Cursor.decode catalog query.sort cursor.id cursor.value = .ok anchor) :
    parse (params.follow cursor) catalog policy = .ok (query.after anchor) := by
  obtain ⟨hsort, horder, hlimit, hsearch, -, hvalue, -⟩ := parse_eq_ok_iff.mp hparse
  refine parse_eq_ok_iff.mpr ⟨hsort, horder, hlimit, hsearch, Bool.and_false _, hvalue, ?_⟩
  exact Given.parseCursor (.after rfl hbefore hdecode)

/-! ### Records -/

section Records

variable {kind : ResourceKind} {record : Record kind}

theorem exists_resolve_of_mem_sortNames : ∀ name ∈ kind.catalog.sortNames,
    name.isEmpty = false ∧ ∃ key, kind.catalog.resolve name = some key := by
  simp only [← Option.isSome_iff_exists]
  cases kind <;> decide

theorem parse_start {name : String} {key : SortKey} {order : SortOrder} {raw : Option String}
    {policy : LimitPolicy} {limit : Nat} (hname : name.isEmpty = false)
    (hresolve : kind.catalog.resolve name = some key) (hlimit : parseLimit raw policy = .ok limit) :
    ListQuery.parse (.start name order raw) kind.catalog policy
      = .ok ⟨key, order, limit, none, none, .after⟩ := by
  refine ListQuery.parse_eq_ok_iff.mpr ⟨?_, ?_, hlimit, rfl, rfl, rfl, rfl⟩
  · change ListQuery.parseSort kind.catalog (some name) = .ok key
    unfold ListQuery.parseSort
    simp only [hname, hresolve, Bool.false_eq_true, if_false]
  · cases order <;> rfl

theorem ne_empty_of_nonblank {text : String} (hblank : Text.isBlankText text = false) :
    text ≠ "" := by
  rintro rfl
  contradiction

theorem label_ne_empty_of_validate (hvalid : record.validate = .ok ()) :
    record.label ≠ some "" := by
  intro hempty
  exact ne_empty_of_nonblank (Record.validate_eq_ok_iff.mp hvalid "" hempty).1 rfl

theorem Record.legible (hcreated : record.created.Proper ∧ record.created.HasCommonYear)
    (name : String) : (Row.value record name).Legible := by
  change (record.value name).Legible
  unfold value
  split
  · trivial
  split
  · cases record.label <;> trivial
  split
  · exact hcreated
  · trivial

/-- What has passed the checks can be told by its texts: the label is not empty, and the clock shows a year of four digits. -/
theorem Record.tellable (hid : StorableId record.id) (hvalid : record.validate = .ok ())
    (hcreated : record.created.Proper ∧ record.created.HasCommonYear) (name : String) :
    (Row.value record name).Tellable := by
  refine ⟨record.legible hcreated name, ?_⟩
  change record.value name ≠ .text ""
  have hlabel := label_ne_empty_of_validate hvalid
  unfold value
  split
  · intro hempty
    exact ne_empty_of_nonblank hid.nonblank (Value.text.inj hempty)
  split
  · cases hsome : record.label with
    | none => exact Value.noConfusion
    | some label =>
        intro hempty
        exact hlabel (by rw [hsome, Value.text.inj hempty])
  split
  · exact Value.noConfusion
  · exact Value.noConfusion

theorem raw_id (record : Record kind) :
    (Row.value record kind.catalog.identifier.name).raw? = some record.id := by
  rw [kind.identifier_catalog]
  exact congrArg Value.raw? record.value_idField

theorem CursorTexts.decode_at {query : ListQuery}
    (hkey : ∃ name, kind.catalog.resolve name = some query.sort)
    (htell : ∀ name, (Row.value record name).Tellable) :
    Cursor.decode kind.catalog query.sort (CursorTexts.at record query).id
        (CursorTexts.at record query).value
      = .ok (Cursor.at kind.catalog query.sort record) :=
  Cursor.decode_at (record.sortable hkey) hkey htell (raw_id record)

/-! ### Records with an empty label -/

/-- Only a label can be an empty text in a listing. -/
theorem Record.sortValue_eq_empty_iff {key : SortKey}
    (hkey : ∃ name, kind.catalog.resolve name = some key) (record : Record kind) :
    (Cursor.at kind.catalog key record).value = .text ""
      ↔ key = .attribute (.text kind.labelField) ∧ record.label = some "" := by
  rcases key with field | field
  · exact ⟨Value.noConfusion, fun hlabel => SortKey.noConfusion hlabel.1⟩
  · change Row.value record field.name = .text "" ↔ _
    rcases kind.attribute_of_resolve hkey with rfl | rfl
    · change Row.value record kind.labelField = .text "" ↔ _
      rw [record.value_labelField]
      cases record.label <;> simp
    · change Row.value record "createdAt" = .text "" ↔ _
      rw [record.value_createdAt]
      simp [FieldSpec.text, FieldSpec.instant]

/-- **Cursors and their texts.** The texts of the cursor at a record with an identifier are read as a cursor, though its label be blank or too long to be stored by a request. It is the cursor at the record unless the listing is by label and the label is the empty text. This is read as no label, so that the record lies beyond its own cursor and an ascending listing gives it again. -/
theorem CursorTexts.decode_eq_at_iff {query : ListQuery}
    (hkey : ∃ name, kind.catalog.resolve name = some query.sort) (hid : record.id ≠ "")
    (hcreated : record.created.Proper ∧ record.created.HasCommonYear) :
    ∃ cursor, Cursor.decode kind.catalog query.sort (CursorTexts.at record query).id
          (CursorTexts.at record query).value = .ok cursor
      ∧ (cursor = Cursor.at kind.catalog query.sort record
        ↔ ¬ (query.sort = .attribute (.text kind.labelField) ∧ record.label = some ""))
      ∧ (query.sort = .attribute (.text kind.labelField) → record.label = some "" →
        cursor = ⟨.text record.id, .null⟩
          ∧ cursor.Precedes .asc (Cursor.at kind.catalog query.sort record)) := by
  have hdecode := Cursor.decode_reread (record.sortable hkey) hkey (record.legible hcreated)
    (raw_id record) hid
  have hempty := record.sortValue_eq_empty_iff hkey
  refine ⟨_, hdecode, ?_, ?_⟩
  · rw [← hempty, ← ne_eq, ← Value.reread_eq_self_iff]
    exact ⟨congrArg Cursor.value, fun hvalue => congrArg (Cursor.mk _) hvalue⟩
  · intro hsort hlabel
    have hvalue := hempty.mpr ⟨hsort, hlabel⟩
    have hrow : (Cursor.at kind.catalog query.sort record).id = .text record.id := by
      change Row.value record kind.catalog.identifier.name = _
      rw [kind.identifier_catalog]
      exact record.value_idField
    refine ⟨?_, ?_⟩
    · rw [hvalue, hrow]
      rfl
    · unfold Cursor.Precedes Cursor.cmpIn Cursor.cmp
      rw [hvalue]
      rfl

end Records

/-- A role whose name is the empty text. No request stores one, but a store takes it. -/
def unnamedRole : Record .role :=
  .create .role "r1" ⟨none, some "", none⟩ ⟨1704067200, 0⟩

def rolesByName : ListQuery :=
  ⟨.attribute (.text "name"), .asc, 1, none, none, .after⟩

theorem unnamedRole_misread :
    (∃ name, ResourceKind.role.catalog.resolve name = some rolesByName.sort)
      ∧ unnamedRole.id ≠ ""
      ∧ (unnamedRole.created.Proper ∧ unnamedRole.created.HasCommonYear)
      ∧ ∃ cursor, Cursor.decode ResourceKind.role.catalog rolesByName.sort
            (CursorTexts.at unnamedRole rolesByName).id
            (CursorTexts.at unnamedRole rolesByName).value = .ok cursor
        ∧ cursor ≠ Cursor.at ResourceKind.role.catalog rolesByName.sort unnamedRole
        ∧ cursor = ⟨.text "r1", .null⟩
        ∧ cursor.Precedes .asc (Cursor.at ResourceKind.role.catalog rolesByName.sort unnamedRole) := by
  have hkey : ∃ name, ResourceKind.role.catalog.resolve name = some rolesByName.sort :=
    ⟨"name", by decide⟩
  have hid : unnamedRole.id ≠ "" := by decide
  have hcreated : unnamedRole.created.Proper ∧ unnamedRole.created.HasCommonYear := by decide
  obtain ⟨cursor, hdecode, hread, hmisread⟩ := CursorTexts.decode_eq_at_iff hkey hid hcreated
  have hempty : rolesByName.sort = .attribute (.text ResourceKind.role.labelField)
      ∧ unnamedRole.label = some "" := ⟨rfl, rfl⟩
  refine ⟨hkey, hid, hcreated, cursor, hdecode, ?_, hmisread hempty.1 hempty.2⟩
  intro hsame
  exact hread.mp hsame hempty

end Registrar
