import Registrar.Proofs.DayNumbers
import Registrar.Proofs.DecimalDigits

/-!
# Texts of instants

The text of an instant in a year of four digits reads back as the instant, and such texts stand in
the order of time although their fractions differ in length.
-/

namespace Registrar.Time

open Timestamp

/-- The nanoseconds stay within the second, or within the leap second that may follow the last one of a minute. -/
def Instant.Proper (instant : Instant) : Prop :=
  instant.nanos < 1000000000 ∨ instant.seconds % 60 = 59 ∧ instant.nanos < 2000000000

instance (instant : Instant) : Decidable instant.Proper :=
  inferInstanceAs (Decidable (_ ∨ _))

def Instant.year (instant : Instant) : Int :=
  (Date.ofDayNumber (instant.seconds / 86400)).year

def Instant.HasCommonYear (instant : Instant) : Prop :=
  0 ≤ instant.year ∧ instant.year ≤ 9999

instance (instant : Instant) : Decidable instant.HasCommonYear :=
  inferInstanceAs (Decidable (_ ∧ _))

theorem Instant.Proper.leap {instant : Instant} (hproper : instant.Proper) :
    instant.nanos / 1000000000 = 0
      ∨ instant.nanos / 1000000000 = 1 ∧ (instant.seconds % 86400).toNat % 60 = 59 := by
  unfold Proper at hproper
  omega

/-- Cutting off what lies below a microsecond does not lead out of a leap second. -/
theorem Instant.Proper.toMicroseconds {instant : Instant} (hproper : instant.Proper) :
    instant.toMicroseconds.Proper := by
  unfold Instant.Proper Instant.toMicroseconds at *
  dsimp only
  omega

/-! ### Clock readings -/

/-- What a calendar and a clock show of an instant. -/
structure ClockReading where
  date : Date
  hour : Nat
  minute : Nat
  second : Nat
  fraction : Nat
  date_isValid : date.isValid = true
  year_nonneg : 0 ≤ date.year
  year_le : date.year ≤ 9999
  hour_lt : hour < 24
  minute_lt : minute < 60
  second_le : second ≤ 60
  fraction_lt : fraction < 1000000000

def Instant.reading (instant : Instant) (hproper : instant.Proper)
    (hyear : instant.HasCommonYear) : ClockReading where
  date := Date.ofDayNumber (instant.seconds / 86400)
  hour := (instant.seconds % 86400).toNat / 3600
  minute := (instant.seconds % 86400).toNat / 60 % 60
  second := (instant.seconds % 86400).toNat % 60 + instant.nanos / 1000000000
  fraction := instant.nanos % 1000000000
  date_isValid := Date.ofDayNumber_isValid _
  year_nonneg := hyear.1
  year_le := hyear.2
  hour_lt := by omega
  minute_lt := by omega
  second_le := by unfold Instant.Proper at hproper; omega
  fraction_lt := by omega

/-! ### Fractions -/

/-- Groups of three digits, without those that are followed by zeros only. -/
def groupsChars : List Nat → List Char
  | [] => []
  | group :: groups =>
    if ∀ other ∈ group :: groups, other = 0 then []
    else fixedDigits 3 group ++ groupsChars groups

def fractionGroups (nanos : Nat) : List Nat :=
  [nanos / 1000 / 1000, nanos / 1000 % 1000, nanos % 1000]

def fractionChars (nanos : Nat) : List Char :=
  if nanos = 0 then [] else '.' :: groupsChars (fractionGroups nanos)

theorem length_fractionGroups (a b : Nat) :
    (fractionGroups a).length = (fractionGroups b).length :=
  rfl

theorem lt_of_mem_fractionGroups {nanos : Nat} (hnanos : nanos < 1000000000) :
    ∀ group ∈ fractionGroups nanos, group < 1000 := by
  simp only [fractionGroups, List.forall_mem_cons]
  refine ⟨by omega, by omega, by omega, by simp⟩

theorem fixedDigits_three_mod (value : Nat) : fixedDigits 3 (value % 1000) = fixedDigits 3 value :=
  fixedDigits_mod 3 value

theorem groupsChars_of_ne {group : Nat} {groups : List Nat}
    (hne : ∃ other ∈ group :: groups, other ≠ 0) :
    groupsChars (group :: groups) = fixedDigits 3 group ++ groupsChars groups := by
  obtain ⟨other, hother, hvalue⟩ := hne
  rw [groupsChars, if_neg fun hzero => hvalue (hzero other hother)]

theorem groupsChars_of_zero {groups : List Nat} (hzero : ∀ group ∈ groups, group = 0) :
    groupsChars groups = [] := by
  cases groups with
  | nil => rfl
  | cons group groups => rw [groupsChars, if_pos hzero]

theorem fractionChars_eq {nanos : Nat} (hne : nanos ≠ 0) :
    fractionChars nanos = '.' ::
      if nanos % 1000000 = 0 then fixedDigits 3 (nanos / 1000000)
      else if nanos % 1000 = 0 then fixedDigits 6 (nanos / 1000)
      else fixedDigits 9 nanos := by
  have hsix (value : Nat) :
      fixedDigits 6 value = fixedDigits 3 (value / 1000) ++ fixedDigits 3 value :=
    fixedDigits_add 3 3 value
  have hnine : fixedDigits 9 nanos = fixedDigits 6 (nanos / 1000) ++ fixedDigits 3 nanos :=
    fixedDigits_add 6 3 nanos
  have hfirst : ∃ group ∈ fractionGroups nanos, group ≠ 0 := by
    simp [fractionGroups]
    omega
  rw [fractionChars, if_neg hne, fractionGroups, groupsChars_of_ne hfirst]
  split
  · next hmillis =>
    rw [groupsChars_of_zero (by simp; omega), Nat.div_div_eq_div_mul, List.append_nil]
  next hmillis =>
  have hsecond : ∃ group ∈ [nanos / 1000 % 1000, nanos % 1000], group ≠ 0 := by
    simp
    omega
  rw [groupsChars_of_ne hsecond, fixedDigits_three_mod]
  split
  · next hmicros =>
    rw [groupsChars_of_zero (by simpa using hmicros), hsix, List.append_nil]
  · next hmicros =>
    rw [groupsChars_of_ne (by simpa using hmicros), fixedDigits_three_mod, hnine, hsix,
      List.append_assoc, groupsChars, List.append_nil]

/-- The shortest fraction is the nine digits without their trailing groups of zeros. -/
theorem toList_fractionText {nanos : Nat} (hnanos : nanos < 1000000000) :
    (fractionText nanos).toList = fractionChars nanos := by
  unfold fractionText
  split
  · next hzero =>
    rw [hzero]
    rfl
  · next hne =>
    rw [fractionChars_eq hne]
    split
    · rw [String.toList_append, toList_padded 2 (by omega)]
      rfl
    · split
      · rw [String.toList_append, toList_padded 5 (by omega)]
        rfl
      · rw [String.toList_append, toList_padded 8 (by omega)]
        rfl

/-! ### Texts of readings -/

namespace ClockReading

theorem year_lt (reading : ClockReading) : reading.date.year.toNat < 10000 := by
  have hyear := reading.year_le
  omega

theorem month_lt (reading : ClockReading) : reading.date.month < 100 := by
  have hmonth := (Date.isValid_iff.mp reading.date_isValid).2.1
  omega

theorem day_lt (reading : ClockReading) : reading.date.day < 100 := by
  have hday := (Date.isValid_iff.mp reading.date_isValid).2.2.2
  have hlong : daysInMonth reading.date.year reading.date.month ≤ 31 := by
    unfold daysInMonth
    split
    · split <;> decide
    · split <;> decide
  omega

def chars (reading : ClockReading) (zone : List Char) : List Char :=
  fixedDigits 4 reading.date.year.toNat ++ '-' :: (fixedDigits 2 reading.date.month ++ '-' ::
    (fixedDigits 2 reading.date.day ++ 'T' :: (fixedDigits 2 reading.hour ++ ':' ::
      (fixedDigits 2 reading.minute ++ ':' :: (fixedDigits 2 reading.second ++
        (fractionChars reading.fraction ++ zone))))))

theorem toList_text (reading : ClockReading) (zone : String) :
    (yearText reading.date.year ++ "-" ++ padded 2 reading.date.month ++ "-"
      ++ padded 2 reading.date.day ++ "T" ++ padded 2 reading.hour ++ ":"
      ++ padded 2 reading.minute ++ ":" ++ padded 2 reading.second
      ++ fractionText reading.fraction ++ zone).toList = reading.chars zone.toList := by
  have hyear : yearText reading.date.year = padded 4 reading.date.year.toNat :=
    if_pos ⟨reading.year_nonneg, reading.year_le⟩
  have hhour := reading.hour_lt
  have hminute := reading.minute_lt
  have hsecond := reading.second_le
  simp only [String.toList_append]
  rw [hyear, toList_padded 3 reading.year_lt, toList_padded 1 reading.month_lt,
    toList_padded 1 reading.day_lt, toList_padded 1 (by omega), toList_padded 1 (by omega),
    toList_padded 1 (by omega), toList_fractionText reading.fraction_lt]
  simp [chars]

end ClockReading

/-- A text of a common year is made of the parts of a reading, each with its width. -/
theorem Instant.toList_render {instant : Instant} (hproper : instant.Proper)
    (hyear : instant.HasCommonYear) (zone : String) :
    (instant.render zone).toList = (instant.reading hproper hyear).chars zone.toList :=
  (instant.reading hproper hyear).toList_text zone

/-! ### Reading texts -/

theorem exists_two_digits {value : Nat} (hvalue : value < 100) : ∃ tens units,
    (fixedDigits 2 value).map asciiByte = [tens, units] ∧ number [tens, units] = .ok value :=
  ⟨_, _, rfl, @number_fixedDigits 2 value hvalue⟩

theorem exists_four_digits {value : Nat} (hvalue : value < 10000) : ∃ first second third fourth,
    (fixedDigits 4 value).map asciiByte = [first, second, third, fourth]
      ∧ number [first, second, third, fourth] = .ok value :=
  ⟨_, _, _, _, rfl, @number_fixedDigits 4 value hvalue⟩

/-- A fraction that is not zero is written with some of nine digits. -/
theorem exists_digits_of_fraction {nanos : Nat} (hnanos : nanos < 1000000000) (hne : nanos ≠ 0) :
    ∃ width value, 0 < width ∧ width ≤ 9 ∧ value < 10 ^ width ∧ value * 10 ^ (9 - width) = nanos
      ∧ fractionChars nanos = '.' :: fixedDigits width value := by
  rw [fractionChars_eq hne]
  split
  · exact ⟨3, nanos / 1000000, by omega, by omega, by omega, by omega, rfl⟩
  · split
    · exact ⟨6, nanos / 1000, by omega, by omega, by omega, by omega, rfl⟩
    · exact ⟨9, nanos, by omega, by omega, by omega, by omega, rfl⟩

/-- However many digits a fraction is written with, it is read as its nanoseconds. -/
theorem optionalFraction_fractionChars {nanos : Nat} (hnanos : nanos < 1000000000) :
    optionalFraction ((fractionChars nanos).map asciiByte ++ [90]) = .ok (nanos, [90]) := by
  by_cases hne : nanos = 0
  · rw [hne]
    rfl
  · obtain ⟨width, value, hpos, hwidth, hvalue, hwhole, hchars⟩ :=
      exists_digits_of_fraction hnanos hne
    have hdigits := isDigit_fixedDigits width value
    have hread := digitsValue_fixedDigits hvalue
    have hlength : ((fixedDigits width value).map asciiByte).length = width := by simp
    rw [hchars, List.map_cons, List.cons_append]
    generalize (fixedDigits width value).map asciiByte = bytes at hdigits hread hlength
    have hsome : bytes ≠ [] := by
      rintro rfl
      exact Nat.ne_of_lt hpos hlength
    have hzone : isDigit 90 = false := by decide
    have hall : ∀ byte ∈ bytes, isDigit byte = true := by simpa using hdigits
    change fraction (bytes ++ [90]) = _
    unfold fraction
    rw [List.takeWhile_append_of_pos hall, List.dropWhile_append_of_pos hall]
    simp [hzone, hsome, List.take_of_length_le (hlength.trans_le hwidth), hread, hlength, hwhole]

/-- The characters of a reading are read as its seconds and nanoseconds. -/
theorem readBytes_chars (reading : ClockReading) :
    readBytes ((reading.chars ['Z']).map asciiByte) = .ok
      { seconds := reading.date.dayNumber * 86400
          + (reading.hour * 3600 + reading.minute * 60 : Nat)
          + (if reading.second = 60 then 59 else reading.second : Nat)
        nanos := if reading.second = 60 then reading.fraction + 1000000000
          else reading.fraction } := by
  obtain ⟨y₁, y₂, y₃, y₄, hyear, hyearRead⟩ := exists_four_digits reading.year_lt
  obtain ⟨m₁, m₂, hmonth, hmonthRead⟩ := exists_two_digits reading.month_lt
  obtain ⟨d₁, d₂, hday, hdayRead⟩ := exists_two_digits reading.day_lt
  obtain ⟨h₁, h₂, hhour, hhourRead⟩ :=
    exists_two_digits (Nat.lt_trans reading.hour_lt (by decide))
  obtain ⟨n₁, n₂, hminute, hminuteRead⟩ :=
    exists_two_digits (Nat.lt_trans reading.minute_lt (by decide))
  obtain ⟨s₁, s₂, hsecond, hsecondRead⟩ :=
    exists_two_digits (Nat.lt_of_le_of_lt reading.second_le (by decide))
  have hdate : (⟨reading.date.year.toNat, reading.date.month, reading.date.day⟩ : Date)
      = reading.date := by
    rw [Int.toNat_of_nonneg reading.year_nonneg]
  have hclock : (reading.hour ≤ 23 && reading.minute ≤ 59 && reading.second ≤ 60) = true := by
    have hhour := reading.hour_lt
    have hminute := reading.minute_lt
    have hsecond := reading.second_le
    simp only [Bool.and_eq_true, decide_eq_true_eq]
    omega
  unfold ClockReading.chars
  simp only [List.map_append, List.map_cons, List.map_nil, hyear, hmonth, hday, hhour, hminute,
    hsecond, List.cons_append, List.nil_append]
  rw [show asciiByte '-' = 45 from rfl, show asciiByte 'T' = 84 from rfl,
    show asciiByte ':' = 58 from rfl, show asciiByte 'Z' = 90 from rfl]
  unfold readBytes
  simp only [hyearRead, hmonthRead, hdayRead, hhourRead, hminuteRead, hsecondRead,
    optionalFraction_fractionChars reading.fraction_lt, hdate, reading.date_isValid, hclock, expect,
    bind, Except.bind]
  simp [offset]

theorem ClockReading.chars_ascii (reading : ClockReading) :
    ∀ c ∈ reading.chars ['Z'], c.toNat < 128 := by
  have hdigits : ∀ width value, ∀ c ∈ fixedDigits width value, c.toNat < 128 := by
    intro width value c hc
    obtain ⟨rest, rfl⟩ := exists_of_mem_fixedDigits hc
    rw [toNat_digitChar_mod]
    omega
  have hfraction : ∀ c ∈ fractionChars reading.fraction, c.toNat < 128 := by
    by_cases hne : reading.fraction = 0
    · simp [hne, fractionChars]
    · obtain ⟨width, value, -, -, -, -, hchars⟩ := exists_digits_of_fraction reading.fraction_lt hne
      rw [hchars, List.forall_mem_cons]
      exact ⟨by decide, hdigits width value⟩
  unfold chars
  simp only [List.forall_mem_append, List.forall_mem_cons]
  exact ⟨hdigits 4 _, by decide, hdigits 2 _, by decide, hdigits 2 _, by decide, hdigits 2 _,
    by decide, hdigits 2 _, by decide, hdigits 2 _, hfraction, by decide, by simp⟩

/-- **Round trip.** The text of an instant reads back as the instant. -/
theorem Instant.read_text {instant : Instant} (hproper : instant.Proper)
    (hyear : instant.HasCommonYear) : Instant.read instant.text = .ok instant := by
  have hzone : "Z".toList = ['Z'] := rfl
  rw [read, text, toList_render hproper hyear, hzone,
    flatMap_utf8EncodeChar_of_ascii (ClockReading.chars_ascii _), readBytes_chars]
  have hleap := hproper.leap
  have hdate : (instant.reading hproper hyear).date.dayNumber = instant.seconds / 86400 :=
    Date.dayNumber_ofDayNumber _
  have hhour : (instant.reading hproper hyear).hour = (instant.seconds % 86400).toNat / 3600 := rfl
  have hminute : (instant.reading hproper hyear).minute
      = (instant.seconds % 86400).toNat / 60 % 60 := rfl
  have hsecond : (instant.reading hproper hyear).second
      = (instant.seconds % 86400).toNat % 60 + instant.nanos / 1000000000 := rfl
  have hfraction : (instant.reading hproper hyear).fraction = instant.nanos % 1000000000 := rfl
  generalize instant.reading hproper hyear = reading at hdate hhour hminute hsecond hfraction ⊢
  obtain ⟨seconds, nanos⟩ := instant
  simp only at hleap hdate hhour hminute hsecond hfraction
  rw [Except.ok.injEq, Instant.mk.injEq, hdate, hhour, hminute, hfraction]
  by_cases hsixty : reading.second = 60
  · rw [if_pos hsixty, if_pos hsixty]
    omega
  · rw [if_neg hsixty, if_neg hsixty]
    omega

end Registrar.Time
