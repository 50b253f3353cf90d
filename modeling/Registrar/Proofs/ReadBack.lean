import Registrar.Proofs.CursorTexts

/-!
# Reading back what was read

The text of a value that was read is sent again to continue a listing. It is read as the value unless
this is an instant in a year of more or fewer than four digits. Such a year is never written in what
is read, but an offset can lead to it: from the first day of the year 0 to the last of the year -1,
and from the last day of the year 9999 to the first of the year 10000. The sign of its text is then
refused.
-/

namespace Registrar

namespace Time

open Timestamp

/-! ### Years that offsets lead to -/

/-- The day next to a valid date is in the same year or in the next one. -/
theorem Date.year_le_of_dayNumber_le {a b : Date} (ha : a.isValid = true) (hb : b.isValid = true)
    (hnext : b.dayNumber ≤ a.dayNumber + 1) : b.year ≤ a.year + 1 := by
  by_contra hfar
  -- A new year's day would lie between the two, and leave no room for them to be neighbours.
  have hnewYear : (⟨a.year + 1, 1, 1⟩ : Date).isValid = true := rfl
  have hafter : a.dayNumber < (⟨a.year + 1, 1, 1⟩ : Date).dayNumber :=
    dayNumber_lt_of_monthCount_lt ha hnewYear (by
      have hmonth := (isValid_iff.mp ha).2.1
      unfold monthCount
      dsimp only
      omega)
  have hbefore : (⟨a.year + 1, 1, 1⟩ : Date).dayNumber < b.dayNumber :=
    dayNumber_lt_of_monthCount_lt hnewYear hb (by
      have hmonth := (isValid_iff.mp hb).1
      unfold monthCount
      dsimp only
      omega)
  omega

/-- An offset moves a year of four digits by one at most. -/
theorem Instant.year_of_read {text : String} {instant : Instant}
    (hread : Instant.read text = .ok instant) : -1 ≤ instant.year ∧ instant.year ≤ 10000 := by
  obtain ⟨date, hour, minute, second, fraction, offset, hdate, hfirst, hlast, hhour, hminute,
    hsecond, -, hoffset, hseconds, -⟩ := exists_wall_of_read hread
  have hday := Date.dayNumber_ofDayNumber (instant.seconds / 86400)
  have hvalid := Date.ofDayNumber_isValid (instant.seconds / 86400)
  have hclock : (if second = 60 then 59 else second) ≤ 59 := by split <;> omega
  have hbefore := Date.year_le_of_dayNumber_le hvalid hdate (by omega)
  have hafter := Date.year_le_of_dayNumber_le hdate hvalid (by omega)
  unfold Instant.year
  omega

/-! ### Texts with a sign -/

theorem le_length_padded (width value : Nat) : width ≤ (padded width value).toList.length := by
  unfold padded
  rw [String.toList_ofList, List.length_append, List.length_replicate]
  omega

theorem le_length_yearText (year : Int) : 4 ≤ (yearText year).toList.length := by
  have hdigits := le_length_padded 4
  unfold yearText
  split
  · exact hdigits _
  · split
    · rw [String.toList_append, List.length_append]
      exact Nat.le_add_left_of_le (hdigits _)
    · rw [String.toList_append, List.length_append]
      exact Nat.le_add_left_of_le (hdigits _)

/-- The text of an instant is long enough for a date and a time. -/
theorem Instant.le_length_text (instant : Instant) : 19 ≤ instant.text.toList.length := by
  have hyear := le_length_yearText (Date.ofDayNumber (instant.seconds / 86400)).year
  have hpair := le_length_padded 2
  unfold text render
  simp only [String.toList_append, List.length_append]
  have hmonth := hpair (Date.ofDayNumber (instant.seconds / 86400)).month
  have hday := hpair (Date.ofDayNumber (instant.seconds / 86400)).day
  have hhour := hpair ((instant.seconds % 86400).toNat / 3600)
  have hminute := hpair ((instant.seconds % 86400).toNat / 60 % 60)
  have hsecond := hpair ((instant.seconds % 86400).toNat % 60 + instant.nanos / 1000000000)
  have hmarks : "-".toList.length = 1 ∧ "T".toList.length = 1 ∧ ":".toList.length = 1
      ∧ "Z".toList.length = 1 := by decide
  omega

theorem length_le_flatMap_utf8EncodeChar (chars : List Char) :
    chars.length ≤ (chars.flatMap String.utf8EncodeChar).length := by
  induction chars with
  | nil => exact Nat.le_refl 0
  | cons c chars ih =>
      have hsize := c.utf8Size_pos
      rw [List.flatMap_cons, List.length_append, String.length_utf8EncodeChar, List.length_cons]
      omega

/-- A text that is long enough and does not start with a digit is refused as invalid, not as too short. -/
theorem readBytes_of_not_digit {first : UInt8} {rest : List UInt8}
    (hfirst : isDigit first = false) (hlength : 18 ≤ rest.length) :
    readBytes (first :: rest) = .error .invalid := by
  have hyear : ∀ others : List UInt8, number (first :: others) = .error .invalid := by
    intro others
    rw [number, List.all_cons, hfirst, Bool.false_and, if_neg Bool.false_ne_true]
  -- There are as many bytes as a date and a time have, so that the year is read first.
  iterate 18
    obtain _ | ⟨_, rest⟩ := rest
    · simp at hlength
  simp only [readBytes, hyear]
  rfl

/-- A text whose year has a sign is never read. -/
theorem Instant.read_text_of_signed {instant : Instant} (hyear : ¬ instant.HasCommonYear) :
    Instant.read instant.text = .error .invalid := by
  obtain ⟨sign, rest, hsign, htext⟩ := instant.exists_sign hyear "Z"
  have hlength := instant.le_length_text
  have hbytes := length_le_flatMap_utf8EncodeChar rest
  have hascii : ∀ c ∈ [sign], c.toNat < 128 := by
    rintro c hc
    rw [List.mem_singleton.mp hc]
    exact Nat.lt_trans hsign (by decide)
  change instant.text.toList = sign :: rest at htext
  rw [htext, List.length_cons] at hlength
  rw [read, htext, ← List.singleton_append, List.flatMap_append,
    flatMap_utf8EncodeChar_of_ascii hascii, List.map_singleton, List.singleton_append]
  refine readBytes_of_not_digit ?_ (by omega)
  have hbyte : (asciiByte sign).toNat < 46 := by
    rw [asciiByte, UInt32.toNat_toUInt8]
    exact Nat.lt_of_le_of_lt (Nat.mod_le _ _) hsign
  unfold isDigit
  rw [Bool.and_eq_false_iff, decide_eq_false_iff_not, UInt8.le_iff_toNat_le]
  exact Or.inl (Nat.not_le_of_lt (Nat.lt_trans hbyte (by decide)))

end Time

open Time Timestamp

/-! ### Values -/

def signRefusal (text : String) : String :=
  s!"expected an RFC 3339 timestamp, got '{text}' ({TimestampFault.invalid.message})"

section Values

variable {kind : Kind} {raw text : String} {value : Value}

theorem Kind.exists_text_of_parse (hparse : kind.parse raw = .ok value) :
    ∃ text, value.raw? = some text := by
  obtain ⟨hkind, -⟩ := Kind.kind_of_parse hparse
  cases value with
  | null => contradiction
  | text content => exact ⟨_, rfl⟩
  | instant moment => exact ⟨_, rfl⟩

/-- What is read and has no text to be read by is an instant next to the years of four digits, and the sign of its text is what stops the reading. -/
theorem Kind.parse_text_of_illegible (hparse : kind.parse raw = .ok value)
    (htext : value.raw? = some text) (hillegible : ¬ value.Legible) :
    (∃ moment, value = .instant moment ∧ (moment.year = -1 ∨ moment.year = 10000))
      ∧ kind.parse text = .error (signRefusal text) := by
  obtain ⟨hkind, hproper⟩ := Kind.kind_of_parse hparse
  cases value with
  | null => exact absurd trivial hillegible
  | text content => exact absurd trivial hillegible
  | instant moment =>
      obtain rfl := Option.some_inj.mp hkind
      obtain rfl := Option.some_inj.mp htext
      have hyear : ¬ moment.HasCommonYear := fun hyear => hillegible ⟨hproper moment rfl, hyear⟩
      obtain ⟨hfirst, hlast⟩ := Instant.year_of_read (Kind.read_of_parse hparse)
      refine ⟨⟨moment, rfl, ?_⟩, ?_⟩
      · unfold Instant.HasCommonYear at hyear
        omega
      · unfold Kind.parse signRefusal
        dsimp only
        rw [Instant.read_text_of_signed hyear]

/-- Within its kind, exactly a legible value is read back. -/
theorem Kind.parse_text_iff (hparse : kind.parse raw = .ok value)
    (htext : value.raw? = some text) : kind.parse text = .ok value ↔ value.Legible := by
  constructor
  · intro hback
    by_contra hillegible
    obtain ⟨-, hfault⟩ := parse_text_of_illegible hparse htext hillegible
    rw [hfault] at hback
    contradiction
  · exact fun hlegible => Value.parse_raw hlegible (Kind.kind_of_parse hparse).1 htext

end Values

/-! ### Cursors -/

section Cursors

variable {catalog : Catalog} {key : SortKey} {name raw text : String} {value : Value}

theorem Catalog.parseValue_of_nonempty (hresolve : catalog.resolve name = some key)
    (hraw : raw.isEmpty = false) :
    catalog.parseValue raw name = .ok value ↔ key.field.kind.parse raw = .ok value := by
  unfold parseValue
  rw [hresolve]
  dsimp only
  rw [hraw, if_neg Bool.false_ne_true]
  cases key.field.kind.parse raw with
  | error reason => simp only [reduceCtorEq]
  | ok found => simp only [Except.ok.injEq]

/-- A text that is read as anything but null is not empty. -/
theorem Catalog.isEmpty_of_parseValue (hresolve : catalog.resolve name = some key)
    (hparse : catalog.parseValue raw name = .ok value) (hvalue : value ≠ .null) :
    raw.isEmpty = false := by
  by_contra hempty
  unfold parseValue at hparse
  rw [hresolve] at hparse
  dsimp only at hparse
  rw [if_pos (Bool.eq_true_of_not_eq_false hempty)] at hparse
  split at hparse
  · contradiction
  · exact hvalue (Except.ok.inj hparse).symm

theorem Kind.isEmpty_text_of_parse {kind : Kind} (hparse : kind.parse raw = .ok value)
    (hraw : raw.isEmpty = false) (htext : value.raw? = some text) : text.isEmpty = false := by
  cases value with
  | null => contradiction
  | text content =>
      obtain rfl := Option.some_inj.mp (Kind.kind_of_parse hparse).1
      obtain rfl := Option.some_inj.mp htext
      obtain rfl := Value.text.inj (Except.ok.inj hparse)
      exact hraw
  | instant moment =>
      obtain rfl := Option.some_inj.mp htext
      have hlength := moment.le_length_text
      rw [String.isEmpty_eq_false_iff]
      intro hempty
      rw [hempty] at hlength
      contradiction

theorem Catalog.parseValue_text_iff (hresolve : catalog.resolve name = some key)
    (hparse : catalog.parseValue raw name = .ok value) (htext : value.raw? = some text) :
    catalog.parseValue text name = .ok value ↔ value.Legible := by
  have hvalue : value ≠ .null := by
    rintro rfl
    contradiction
  have hraw := isEmpty_of_parseValue hresolve hparse hvalue
  have hkind := (parseValue_of_nonempty hresolve hraw).mp hparse
  rw [parseValue_of_nonempty hresolve (Kind.isEmpty_text_of_parse hkind hraw htext)]
  exact Kind.parse_text_iff hkind htext

theorem Cursor.readsValue_text_iff {rawValue : Option String}
    (hresolve : catalog.resolve name = some key) (hvalue : ReadsValue catalog key rawValue value) :
    ReadsValue catalog key value.raw? value ↔ value.Legible := by
  cases htext : value.raw? with
  | none =>
      obtain rfl := Value.eq_null_of_raw htext
      exact iff_of_true (by rcases key with field | field <;> rfl) trivial
  | some text =>
      have hnull : value ≠ .null := by
        rintro rfl
        contradiction
      rcases key with field | field
      · exact absurd hvalue hnull
      · cases rawValue with
        | none => exact absurd hvalue hnull
        | some raw =>
            exact Catalog.parseValue_text_iff (Catalog.resolve_field hresolve) hvalue htext

/-- The cursor comes back if and only if both of its values do. -/
theorem Cursor.decode_texts_iff {rawId : String} {rawValue : Option String} {cursor : Cursor}
    (hresolve : catalog.resolve name = some key)
    (hdecode : decode catalog key rawId rawValue = .ok cursor) :
    ∃ id, cursor.id.raw? = some id
      ∧ (decode catalog key id cursor.value.raw? = .ok cursor
        ↔ cursor.id.Legible ∧ cursor.value.Legible) := by
  obtain ⟨hraw, hid, hvalue⟩ := decode_eq_ok_iff.mp hdecode
  have hread := (Catalog.parseValue_of_nonempty catalog.resolve_identifier hraw).mp hid
  obtain ⟨id, htext⟩ := Kind.exists_text_of_parse hread
  refine ⟨id, htext, ?_⟩
  rw [decode_eq_ok_iff, Catalog.parseValue_text_iff catalog.resolve_identifier hid htext,
    readsValue_text_iff hresolve hvalue]
  exact and_iff_right (Kind.isEmpty_text_of_parse hread hraw htext)

end Cursors

/-- **Reading back.** The text of a value that was read is read as the value unless this is an instant whose year an offset has moved below the year 0 or above the year 9999, and then it is refused for its sign. So the texts of a cursor that was read are read as the cursor, or one of its two values is such an instant. -/
theorem parsed_readBack_iff (kind : Kind) (catalog : Catalog) (key : SortKey) :
    (∀ (raw : String) (value : Value), kind.parse raw = .ok value →
      ∃ text, value.raw? = some text
        ∧ (kind.parse text = .ok value ↔ value.Legible)
        ∧ (value.Legible ∨
          (∃ moment, value = .instant moment ∧ (moment.year = -1 ∨ moment.year = 10000))
            ∧ kind.parse text = .error (signRefusal text)))
    ∧ ∀ (rawId : String) (rawValue : Option String) (cursor : Cursor),
        (∃ name, catalog.resolve name = some key) →
        Cursor.decode catalog key rawId rawValue = .ok cursor →
      ∃ id, cursor.id.raw? = some id
        ∧ (Cursor.decode catalog key id cursor.value.raw? = .ok cursor
          ↔ cursor.id.Legible ∧ cursor.value.Legible) := by
  constructor
  · intro raw value hparse
    obtain ⟨text, htext⟩ := Kind.exists_text_of_parse hparse
    refine ⟨text, htext, Kind.parse_text_iff hparse htext, ?_⟩
    by_cases hlegible : value.Legible
    · exact Or.inl hlegible
    · exact Or.inr (Kind.parse_text_of_illegible hparse htext hlegible)
  · rintro rawId rawValue cursor ⟨name, hresolve⟩ hdecode
    exact Cursor.decode_texts_iff hresolve hdecode

/-- The last second of the year 9999 where clocks are an hour behind, which is in the year 10000. -/
def lastSecond : Instant :=
  ⟨253402304399, 0⟩

theorem lastSecond_refused :
    Kind.instant.parse "9999-12-31T23:59:59-01:00" = .ok (.instant lastSecond)
      ∧ Kind.instant.parse "+10000-01-01T00:59:59Z" = .error
        "expected an RFC 3339 timestamp, got '+10000-01-01T00:59:59Z' (input contains invalid characters)"
      ∧ Cursor.decode ResourceKind.role.catalog (.attribute (.instant "createdAt")) "r1"
          (some "9999-12-31T23:59:59-01:00") = .ok ⟨.text "r1", .instant lastSecond⟩
      ∧ Cursor.decode ResourceKind.role.catalog (.attribute (.instant "createdAt")) "r1"
          (some "+10000-01-01T00:59:59Z") ≠ .ok ⟨.text "r1", .instant lastSecond⟩ := by
  have hparse : Kind.instant.parse "9999-12-31T23:59:59-01:00" = .ok (.instant lastSecond) := by
    decide +kernel
  have hkey : ∃ name, ResourceKind.role.catalog.resolve name
      = some (.attribute (.instant "createdAt")) := ⟨"createdAt", by decide⟩
  have hdecode : Cursor.decode ResourceKind.role.catalog (.attribute (.instant "createdAt")) "r1"
      (some "9999-12-31T23:59:59-01:00") = .ok ⟨.text "r1", .instant lastSecond⟩ := by
    decide +kernel
  have htext : (Value.instant lastSecond).raw? = some "+10000-01-01T00:59:59Z" := by
    decide +kernel
  have hyear : ¬ lastSecond.HasCommonYear := by decide +kernel
  have hillegible : ¬ (Value.instant lastSecond).Legible := fun hlegible => hyear hlegible.2
  obtain ⟨hvalues, hcursors⟩ := parsed_readBack_iff .instant ResourceKind.role.catalog
    (.attribute (.instant "createdAt"))
  obtain ⟨text, hraw, -, hfault⟩ := hvalues _ _ hparse
  obtain rfl := Option.some_inj.mp (htext.symm.trans hraw)
  obtain ⟨id, hid, hback⟩ := hcursors _ _ _ hkey hdecode
  obtain rfl : "r1" = id := Option.some_inj.mp hid
  rw [htext] at hback
  exact ⟨hparse, (hfault.resolve_left hillegible).2, hdecode,
    fun hsame => hillegible (hback.mp hsame).2⟩

end Registrar
