import Registrar.Proofs.RequestTests
import Registrar.Proofs.TimestampText

/-!
# Queries read from parameters

What is let through as a query names a field of the catalog, and its cursor is an anchor in the
listing that it asks for, with an instant that a clock can show.
-/

namespace Registrar

open Time Timestamp

/-! ### Instants -/

theorem Time.Timestamp.expect_eq_ok {condition : Bool} {fault : TimestampFault} {done : Unit}
    (hexpect : expect condition fault = .ok done) : condition = true := by
  unfold expect at hexpect
  split at hexpect
  · assumption
  · contradiction

theorem Time.Timestamp.number_lt {bytes : List UInt8} {value : Nat}
    (hnumber : number bytes = .ok value) : value < 10 ^ bytes.length := by
  unfold number at hnumber
  split at hnumber
  · next hdigits =>
      obtain rfl := Except.ok.inj hnumber
      exact digitsValue_lt (List.all_eq_true.mp hdigits)
  · contradiction

theorem Time.Timestamp.fraction_lt {bytes rest : List UInt8} {nanos : Nat}
    (hfraction : fraction bytes = .ok (nanos, rest)) : nanos < 1000000000 := by
  unfold fraction at hfraction
  dsimp only at hfraction
  split at hfraction
  · contradiction
  · obtain ⟨rfl, -⟩ := Prod.mk.inj (Except.ok.inj hfraction)
    have hdigits : ∀ byte ∈ (bytes.takeWhile isDigit).take 9, isDigit byte = true :=
      fun byte hbyte =>
      List.all_eq_true.mp List.all_takeWhile byte (List.mem_of_mem_take hbyte)
    have hlength : ((bytes.takeWhile isDigit).take 9).length ≤ 9 := by
      rw [List.length_take]
      exact Nat.min_le_left ..
    have hvalue := digitsValue_lt hdigits
    generalize (bytes.takeWhile isDigit).take 9 = digits at hlength hvalue
    calc digitsValue digits * 10 ^ (9 - digits.length)
        < 10 ^ digits.length * 10 ^ (9 - digits.length) :=
          Nat.mul_lt_mul_of_pos_right hvalue (Nat.pow_pos (by decide))
      _ = 10 ^ 9 := by rw [← Nat.pow_add, Nat.add_sub_cancel' hlength]

theorem Time.Timestamp.optionalFraction_lt {bytes rest : List UInt8} {nanos : Nat}
    (hfraction : optionalFraction bytes = .ok (nanos, rest)) : nanos < 1000000000 := by
  unfold optionalFraction at hfraction
  split at hfraction
  · exact fraction_lt hfraction
  · obtain ⟨rfl, -⟩ := Prod.mk.inj (Except.ok.inj hfraction)
    decide

/-- What is read is a date in a year of four digits and a time of its day, both shifted by an offset of less than a day. -/
theorem Time.Instant.exists_wall_of_read {text : String} {instant : Instant}
    (hread : Instant.read text = .ok instant) :
    ∃ (date : Date) (hour minute second fraction : Nat) (offset : Int), date.isValid = true
      ∧ 0 ≤ date.year ∧ date.year < 10000 ∧ hour ≤ 23 ∧ minute ≤ 59 ∧ second ≤ 60
      ∧ fraction < 1000000000 ∧ offset.natAbs < 24 * 60
      ∧ instant.seconds = date.dayNumber * 86400 + (hour * 3600 + minute * 60 : Nat)
        + (if second = 60 then 59 else second : Nat) - offset * 60
      ∧ instant.nanos = if second = 60 then fraction + 1000000000 else fraction := by
  unfold Instant.read readBytes at hread
  split at hread
  · dsimp only at hread
    obtain ⟨year, hyear, hread⟩ := bind_eq_ok hread
    obtain ⟨-, -, hread⟩ := bind_eq_ok hread
    obtain ⟨month, -, hread⟩ := bind_eq_ok hread
    obtain ⟨-, -, hread⟩ := bind_eq_ok hread
    obtain ⟨day, -, hread⟩ := bind_eq_ok hread
    obtain ⟨_, hdate, hread⟩ := bind_eq_ok hread
    obtain ⟨-, -, hread⟩ := bind_eq_ok hread
    obtain ⟨hour, -, hread⟩ := bind_eq_ok hread
    obtain ⟨-, -, hread⟩ := bind_eq_ok hread
    obtain ⟨minute, -, hread⟩ := bind_eq_ok hread
    obtain ⟨-, -, hread⟩ := bind_eq_ok hread
    obtain ⟨second, -, hread⟩ := bind_eq_ok hread
    obtain ⟨⟨fraction, rest⟩, hfraction, hread⟩ := bind_eq_ok hread
    obtain ⟨_, hclock, hread⟩ := bind_eq_ok hread
    obtain ⟨⟨offset, rest⟩, -, hread⟩ := bind_eq_ok hread
    obtain ⟨-, -, hread⟩ := bind_eq_ok hread
    obtain ⟨_, hoffset, hread⟩ := bind_eq_ok hread
    obtain rfl := Except.ok.inj hread
    have hclock := expect_eq_ok hclock
    simp only [Bool.and_eq_true, decide_eq_true_eq] at hclock
    obtain ⟨⟨hhour, hminute⟩, hsecond⟩ := hclock
    have hyear : year < 10 ^ 4 := number_lt hyear
    refine ⟨⟨year, month, day⟩, hour, minute, second, fraction, offset, expect_eq_ok hdate,
      Int.natCast_nonneg year, ?_, hhour, hminute, hsecond, optionalFraction_lt hfraction,
      of_decide_eq_true (expect_eq_ok hoffset), rfl, rfl⟩
    dsimp only
    omega
  · contradiction

/-- Offsets are whole minutes, so an instant that is read in a leap second stays in the last second of a minute. -/
theorem Time.Instant.proper_of_read {text : String} {instant : Instant}
    (hread : Instant.read text = .ok instant) : instant.Proper := by
  obtain ⟨date, hour, minute, second, fraction, offset, -, -, -, -, -, hsecond, hfraction, -,
    hseconds, hnanos⟩ := exists_wall_of_read hread
  unfold Proper
  rw [hseconds, hnanos]
  split <;> omega

/-! ### Values -/

theorem Kind.read_of_parse {kind : Kind} {raw : String} {moment : Instant}
    (hparse : kind.parse raw = .ok (.instant moment)) : Instant.read raw = .ok moment := by
  unfold Kind.parse at hparse
  split at hparse
  · exact Value.noConfusion (Except.ok.inj hparse)
  · split at hparse
    · next found hread =>
        obtain rfl := Value.instant.inj (Except.ok.inj hparse)
        exact hread
    · contradiction

/-- What is read has the kind it was read for, and an instant is one that a clock can show. -/
theorem Kind.kind_of_parse {kind : Kind} {raw : String} {value : Value}
    (hparse : kind.parse raw = .ok value) :
    value.kind? = some kind ∧ ∀ moment, value = .instant moment → moment.Proper := by
  refine ⟨?_, ?_⟩
  · unfold Kind.parse at hparse
    split at hparse
    · obtain rfl := Except.ok.inj hparse
      rfl
    · split at hparse
      · obtain rfl := Except.ok.inj hparse
        rfl
      · contradiction
  · rintro moment rfl
    exact Instant.proper_of_read (read_of_parse hparse)

section Catalog

variable {catalog : Catalog} {key : SortKey} {name raw : String} {value : Value}

theorem Catalog.resolve_identifier (catalog : Catalog) :
    catalog.resolve catalog.identifier.name = some (.identifier catalog.identifier) :=
  if_pos rfl

theorem Catalog.resolve_field (hresolve : catalog.resolve name = some key) :
    catalog.resolve key.field.name = some key := by
  suffices hname : key.field.name = name by rw [hname, hresolve]
  unfold resolve at hresolve
  split at hresolve
  · next hidentifier =>
      obtain rfl := Option.some_inj.mp hresolve
      exact hidentifier.symm
  · obtain ⟨field, hfield, rfl⟩ := Option.map_eq_some_iff.mp hresolve
    have hfound := List.find?_some hfield
    exact of_decide_eq_true hfound

/-- What is read for a field is of its kind, or null if the field is not the identifier. -/
theorem Catalog.kind_of_parseValue (hresolve : catalog.resolve name = some key)
    (hparse : catalog.parseValue raw name = .ok value) :
    (value.kind? = some key.field.kind ∨ value = .null ∧ key.isIdentifier = false)
      ∧ ∀ moment, value = .instant moment → moment.Proper := by
  unfold parseValue at hparse
  rw [hresolve] at hparse
  dsimp only at hparse
  split at hparse
  · split at hparse
    · contradiction
    · next hattribute =>
        obtain rfl := Except.ok.inj hparse
        exact ⟨Or.inr ⟨rfl, by simpa using hattribute⟩, fun moment hmoment => nomatch hmoment⟩
  · split at hparse
    · next found hfound =>
        obtain rfl := Except.ok.inj hparse
        obtain ⟨hkind, hproper⟩ := Kind.kind_of_parse hfound
        exact ⟨Or.inl hkind, hproper⟩
    · contradiction

theorem Cursor.parseAnchor_eq_ok :
    parseAnchor catalog raw name = .ok value ↔ catalog.parseValue raw name = .ok value := by
  unfold parseAnchor
  cases catalog.parseValue raw name with
  | ok found => rfl
  | error fault => simp [Except.mapError]

/-- The sort value that is read for a cursor, null where the listing is by the identifier or none is sent. -/
def Cursor.ReadsValue (catalog : Catalog) (key : SortKey) (rawValue : Option String)
    (value : Value) : Prop :=
  match key, rawValue with
  | .identifier _, _ => value = .null
  | .attribute _, none => value = .null
  | .attribute field, some raw => catalog.parseValue raw field.name = .ok value

/-- A cursor is read exactly from an identifier that is not empty and from a value for its field. -/
theorem Cursor.decode_eq_ok_iff {cursor : Cursor} {rawId : String} {rawValue : Option String} :
    decode catalog key rawId rawValue = .ok cursor
      ↔ rawId.isEmpty = false
        ∧ catalog.parseValue rawId catalog.identifier.name = .ok cursor.id
        ∧ ReadsValue catalog key rawValue cursor.value := by
  constructor
  · intro hdecode
    unfold decode at hdecode
    dsimp only at hdecode
    by_cases hraw : rawId.isEmpty = true
    · rw [if_pos hraw] at hdecode
      contradiction
    rw [if_neg hraw] at hdecode
    obtain ⟨id, hid, hdecode⟩ := bind_eq_ok hdecode
    refine ⟨Bool.eq_false_iff.mpr hraw, ?_⟩
    split at hdecode
    · obtain rfl := Except.ok.inj hdecode
      exact ⟨parseAnchor_eq_ok.mp hid, rfl⟩
    · obtain rfl := Except.ok.inj hdecode
      exact ⟨parseAnchor_eq_ok.mp hid, rfl⟩
    · obtain ⟨value, hvalue, hdecode⟩ := bind_eq_ok hdecode
      obtain rfl := Except.ok.inj hdecode
      exact ⟨parseAnchor_eq_ok.mp hid, parseAnchor_eq_ok.mp hvalue⟩
  · rintro ⟨hraw, hid, hvalue⟩
    obtain ⟨id, value⟩ := cursor
    unfold decode
    rw [hraw, if_neg Bool.false_ne_true, parseAnchor_eq_ok.mpr hid]
    rcases key with field | field
    · obtain rfl : value = .null := hvalue
      rfl
    · cases rawValue with
      | none =>
          obtain rfl : value = .null := hvalue
          rfl
      | some raw =>
          have hanchor := parseAnchor_eq_ok.mpr hvalue
          dsimp only
          rw [hanchor]
          rfl

/-- An anchor that is fit for the listing, its instant being one that a clock can show. -/
structure Cursor.Anchors (catalog : Catalog) (key : SortKey) (cursor : Cursor) : Prop where
  wellTyped : cursor.WellTyped catalog key
  proper : ∀ moment, cursor.value = .instant moment → moment.Proper

theorem Cursor.anchors_of_decode {cursor : Cursor} {rawValue : Option String}
    (hresolve : catalog.resolve name = some key)
    (hdecode : decode catalog key raw rawValue = .ok cursor) : cursor.Anchors catalog key := by
  obtain ⟨-, hid, hvalue⟩ := decode_eq_ok_iff.mp hdecode
  obtain ⟨hkind, -⟩ := Catalog.kind_of_parseValue catalog.resolve_identifier hid
  have hidKind : cursor.id.kind? = some catalog.identifier.kind :=
    hkind.resolve_right fun hnull => Bool.noConfusion hnull.2
  have of_null (hnull : cursor.value = .null) : cursor.Anchors catalog key := by
    refine ⟨⟨hidKind, fun _ _ => Or.inl hnull⟩, fun moment hmoment => ?_⟩
    rw [hnull] at hmoment
    contradiction
  rcases key with field | field
  · exact of_null hvalue
  · cases rawValue with
    | none => exact of_null hvalue
    | some rawField =>
        obtain ⟨hadmitted, hproper⟩ :=
          Catalog.kind_of_parseValue (Catalog.resolve_field hresolve) hvalue
        refine ⟨⟨hidKind, ?_⟩, hproper⟩
        rintro _ ⟨⟩
        exact hadmitted.symm.imp_left And.left

end Catalog

/-! ### Queries -/

theorem parseLimit_bounds {raw : Option String} {policy : LimitPolicy} {limit : Nat}
    (hdefault : 1 ≤ policy.default) (hmax : policy.default ≤ policy.max)
    (hlimit : parseLimit raw policy = .ok limit) : 1 ≤ limit ∧ limit ≤ policy.max := by
  unfold parseLimit at hlimit
  cases raw with
  | none =>
      obtain rfl := Except.ok.inj hlimit
      exact ⟨hdefault, hmax⟩
  | some text =>
      dsimp only at hlimit
      generalize signed64? (Text.trim text) = size at hlimit
      cases size with
      | none => contradiction
      | some size =>
          dsimp only at hlimit
          split at hlimit
          · contradiction
          · next hrange =>
              obtain rfl := Except.ok.inj hlimit
              omega

namespace ListQuery

variable {params : ListParams} {catalog : Catalog} {policy : LimitPolicy} {query : ListQuery}

theorem resolve_of_parseSort {raw : Option String} {key : SortKey}
    (hsort : parseSort catalog raw = .ok key) : ∃ name, catalog.resolve name = some key := by
  have hdefault : ∃ name, catalog.resolve name = some catalog.defaultKey :=
    ⟨_, catalog.resolve_identifier⟩
  unfold parseSort at hsort
  split at hsort
  · exact Except.ok.inj hsort ▸ hdefault
  · split at hsort
    · exact Except.ok.inj hsort ▸ hdefault
    · split at hsort
      · next found hfound => exact ⟨_, Except.ok.inj hsort ▸ hfound⟩
      · contradiction

inductive Given (catalog : Catalog) (key : SortKey) (params : ListParams) :
    Direction → Option Cursor → Prop where
  | start (hafter : params.after = none) (hbefore : params.before = none) :
      Given catalog key params .after none
  | after {id : String} {cursor : Cursor} (hafter : params.after = some id)
      (hbefore : params.before = none)
      (hdecode : Cursor.decode catalog key id params.afterValue = .ok cursor) :
      Given catalog key params .after (some cursor)
  | before {id : String} {cursor : Cursor} (hafter : params.after = none)
      (hbefore : params.before = some id)
      (hdecode : Cursor.decode catalog key id params.beforeValue = .ok cursor) :
      Given catalog key params .before (some cursor)

theorem decodeWith_marker (catalog : Catalog) (key : SortKey) (direction : Direction) (raw : String)
    (rawValue : Option String) :
    Cursor.decodeWith catalog key direction.marker raw rawValue
      = (Cursor.decode catalog key raw rawValue).map (direction, ·) := by
  unfold Cursor.decodeWith
  cases direction <;> cases Cursor.decode catalog key raw rawValue <;> rfl

theorem given_of_parseCursor {key : SortKey} {direction : Direction} {found : Option Cursor}
    (hcursor : parseCursor catalog key params = .ok (direction, found)) :
    Given catalog key params direction found := by
  have hdecoded : ∀ (side : Direction) raw rawValue,
      (Cursor.decodeWith catalog key side.marker raw rawValue).map
        (fun found => (found.1, some found.2)) = .ok (direction, found) →
      ∃ cursor, Cursor.decode catalog key raw rawValue = .ok cursor ∧ direction = side
        ∧ found = some cursor := by
    intro side raw rawValue hmap
    rw [decodeWith_marker] at hmap
    cases hdecode : Cursor.decode catalog key raw rawValue with
    | error fault => rw [hdecode] at hmap; contradiction
    | ok cursor =>
        rw [hdecode] at hmap
        obtain ⟨rfl, rfl⟩ := Prod.mk.inj (Except.ok.inj hmap)
        exact ⟨cursor, rfl, rfl, rfl⟩
  unfold parseCursor at hcursor
  split at hcursor
  · contradiction
  · next hafter hbefore =>
      obtain ⟨cursor, hdecode, rfl, rfl⟩ := hdecoded .after _ _ hcursor
      exact .after hafter hbefore hdecode
  · next hafter hbefore =>
      obtain ⟨cursor, hdecode, rfl, rfl⟩ := hdecoded .before _ _ hcursor
      exact .before hafter hbefore hdecode
  · next hafter hbefore =>
      obtain ⟨rfl, rfl⟩ := Prod.mk.inj (Except.ok.inj hcursor)
      exact .start hafter hbefore

theorem Given.parseCursor {key : SortKey} {direction : Direction} {found : Option Cursor}
    (hgiven : Given catalog key params direction found) :
    parseCursor catalog key params = .ok (direction, found) := by
  unfold ListQuery.parseCursor
  cases hgiven with
  | start hafter hbefore => rw [hafter, hbefore]
  | after hafter hbefore hdecode =>
      rw [hafter, hbefore]
      change (Cursor.decodeWith catalog key Direction.after.marker _ _).map _ = _
      rw [decodeWith_marker, hdecode]
      rfl
  | before hafter hbefore hdecode =>
      rw [hafter, hbefore]
      change (Cursor.decodeWith catalog key Direction.before.marker _ _).map _ = _
      rw [decodeWith_marker, hdecode]
      rfl

/-- Whatever texts a client sends, the cursor that comes of them is an anchor for the listing. -/
theorem anchors_of_parseCursor {name : String} {key : SortKey} {direction : Direction}
    {found : Option Cursor} (hresolve : catalog.resolve name = some key)
    (hcursor : parseCursor catalog key params = .ok (direction, found)) :
    ∀ cursor ∈ found, cursor.Anchors catalog key := by
  intro cursor hmem
  cases given_of_parseCursor hcursor with
  | start hafter hbefore => contradiction
  | after hafter hbefore hdecode =>
      obtain rfl := Option.mem_some_iff.mp hmem
      exact Cursor.anchors_of_decode hresolve hdecode
  | before hafter hbefore hdecode =>
      obtain rfl := Option.mem_some_iff.mp hmem
      exact Cursor.anchors_of_decode hresolve hdecode

structure Accepted (catalog : Catalog) (query : ListQuery) : Prop where
  sort_resolved : ∃ name, catalog.resolve name = some query.sort
  anchors : ∀ cursor ∈ query.cursor, cursor.Anchors catalog query.sort

theorem Accepted.wellTyped (hquery : query.Accepted catalog) : query.WellTyped catalog :=
  fun cursor hcursor => (hquery.anchors cursor hcursor).wellTyped

/-- Parameters are let through if all of them can be read, values without their identifiers left out. -/
theorem parse_eq_ok_iff : parse params catalog policy = .ok query
    ↔ parseSort catalog params.sortBy = .ok query.sort
      ∧ parseOrder catalog params.sortOrder = .ok query.order
      ∧ parseLimit params.limit policy = .ok query.limit
      ∧ query.search = params.q.filter (fun term => !term.isEmpty)
      ∧ (params.afterValue.isSome && params.after.isNone) = false
      ∧ (params.beforeValue.isSome && params.before.isNone) = false
      ∧ parseCursor catalog query.sort params = .ok (query.direction, query.cursor) := by
  constructor
  · intro hparse
    obtain ⟨sort, hsort, hparse⟩ := bind_eq_ok hparse
    obtain ⟨order, horder, hparse⟩ := bind_eq_ok hparse
    obtain ⟨limit, hlimit, hparse⟩ := bind_eq_ok hparse
    dsimp only at hparse
    split at hparse
    · contradiction
    next hafter =>
    split at hparse
    · contradiction
    next hbefore =>
    obtain ⟨⟨direction, found⟩, hcursor, hparse⟩ := bind_eq_ok hparse
    obtain rfl := Except.ok.inj hparse
    exact ⟨hsort, horder, hlimit, rfl, Bool.eq_false_iff.mpr hafter, Bool.eq_false_iff.mpr hbefore,
      hcursor⟩
  · rintro ⟨hsort, horder, hlimit, hsearch, hafter, hbefore, hcursor⟩
    unfold parse
    rw [hsort, horder, hlimit]
    simp only [bind, Except.bind, hafter, hbefore, Bool.false_eq_true, if_false, hcursor]
    rw [← hsearch]
    rfl

/-- No other queries than accepted ones are let through, so what holds of those holds of all requests. -/
theorem accepted_of_parse (hparse : parse params catalog policy = .ok query) :
    query.Accepted catalog := by
  obtain ⟨hsort, -, -, -, -, -, hcursor⟩ := parse_eq_ok_iff.mp hparse
  obtain ⟨name, hname⟩ := resolve_of_parseSort hsort
  exact ⟨⟨name, hname⟩, anchors_of_parseCursor hname hcursor⟩

end ListQuery

end Registrar
