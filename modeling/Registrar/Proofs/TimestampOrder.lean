import Registrar.Proofs.TimestampText

/-!
# The order of texts of instants

Texts of instants have fractions of different lengths. They stand in the order of time all the same,
since what follows a fraction stands before the point and the digits.
-/

namespace Registrar.Time

open Timestamp

/-! ### Fractions -/

instance : Std.OrientedCmp charsCmp where
  eq_swap {a b} := by
    have hswap : compare (String.ofList a) (String.ofList b)
        = (compare (String.ofList b) (String.ofList a)).swap := Std.OrientedOrd.eq_swap
    simpa only [compare_eq_charsCmp, String.toList_ofList] using hswap

theorem compareLex_zeros {groups others : List Nat} (hlength : groups.length = others.length)
    (hzero : ∀ group ∈ groups, group = 0) (hne : ∃ other ∈ others, other ≠ 0) :
    List.compareLex compare groups others = .lt := by
  induction groups generalizing others with
  | nil =>
      obtain rfl : others = [] := List.eq_nil_of_length_eq_zero hlength.symm
      simp at hne
  | cons group groups ih =>
      obtain ⟨other, others, rfl⟩ := List.exists_cons_of_length_eq_add_one hlength.symm
      obtain ⟨rfl, hgroups⟩ := List.forall_mem_cons.mp hzero
      rw [List.compareLex_cons_cons]
      rcases Nat.eq_zero_or_pos other with rfl | hpos
      · rw [Std.compare_self, Ordering.eq_then]
        exact ih (Nat.succ.inj hlength) hgroups (by simpa using hne)
      · rw [Nat.compare_eq_lt.mpr hpos, Ordering.lt_then]

section Marks

variable {mark : Char} {zone : List Char} (hmark : mark.toNat < '.'.toNat)

include hmark

theorem charsCmp_mark_fixedDigits (width value : Nat) (rest : List Char) :
    charsCmp (mark :: zone) (fixedDigits (width + 1) value ++ rest) = .lt := by
  have hpoint : '.'.toNat = 46 := rfl
  rw [Nat.add_comm, fixedDigits_add, List.append_assoc, fixedDigits, fixedDigits, List.nil_append,
    List.singleton_append, charsCmp_cons, toNat_digitChar_mod, Nat.compare_eq_lt.mpr (by omega),
    Ordering.lt_then]

/-- Where one fraction has ended, any further digits of the other make it the later one. -/
theorem charsCmp_mark_groupsChars {groups : List Nat} (hne : ∃ group ∈ groups, group ≠ 0) :
    charsCmp (mark :: zone) (groupsChars groups ++ mark :: zone) = .lt := by
  cases groups with
  | nil => simp at hne
  | cons group groups =>
      rw [groupsChars_of_ne hne, List.append_assoc]
      exact charsCmp_mark_fixedDigits hmark 2 group _

/-- Fractions compare group by group, as what follows them stands before all digits. -/
theorem charsCmp_groupsChars {groups others : List Nat} (hlength : groups.length = others.length)
    (hgroups : ∀ group ∈ groups, group < 1000) (hothers : ∀ other ∈ others, other < 1000) :
    charsCmp (groupsChars groups ++ mark :: zone) (groupsChars others ++ mark :: zone)
      = List.compareLex compare groups others := by
  induction groups generalizing others with
  | nil =>
      obtain rfl : others = [] := List.eq_nil_of_length_eq_zero hlength.symm
      rw [charsCmp_self, List.compareLex_nil_nil]
  | cons group groups ih =>
      obtain ⟨other, others, rfl⟩ := List.exists_cons_of_length_eq_add_one hlength.symm
      by_cases hgroup : ∃ value ∈ group :: groups, value ≠ 0
      · by_cases hother : ∃ value ∈ other :: others, value ≠ 0
        · obtain ⟨hgroup', hgroups⟩ := List.forall_mem_cons.mp hgroups
          obtain ⟨hother', hothers⟩ := List.forall_mem_cons.mp hothers
          rw [groupsChars_of_ne hgroup, groupsChars_of_ne hother, List.append_assoc,
            List.append_assoc, charsCmp_fixedDigits hgroup' hother', List.compareLex_cons_cons,
            ih (Nat.succ.inj hlength) hgroups hothers]
        · have hzero : ∀ value ∈ other :: others, value = 0 := by simpa using hother
          rw [groupsChars_of_zero hzero,
            Std.OrientedCmp.gt_of_lt (compareLex_zeros hlength.symm hzero hgroup)]
          exact Std.OrientedCmp.gt_of_lt (charsCmp_mark_groupsChars hmark hgroup)
      · have hzero : ∀ value ∈ group :: groups, value = 0 := by simpa using hgroup
        by_cases hother : ∃ value ∈ other :: others, value ≠ 0
        · rw [groupsChars_of_zero hzero, compareLex_zeros hlength hzero hother]
          exact charsCmp_mark_groupsChars hmark hother
        · have hzero' : ∀ value ∈ other :: others, value = 0 := by simpa using hother
          have hsame : group :: groups = other :: others := by
            rw [List.eq_replicate_iff.mpr ⟨rfl, hzero⟩, List.eq_replicate_iff.mpr ⟨rfl, hzero'⟩, hlength]
          rw [hsame, charsCmp_self]
          exact Std.ReflCmp.compare_self.symm

/-- Texts of fractions stand in the order of the fractions, as the mark that follows a text stands before the point. -/
theorem charsCmp_fractionChars {a b : Nat} (ha : a < 1000000000) (hb : b < 1000000000) :
    charsCmp (fractionChars a ++ mark :: zone) (fractionChars b ++ mark :: zone) = compare a b := by
  have hbefore : ∀ nanos, nanos ≠ 0 →
      charsCmp (mark :: zone) (fractionChars nanos ++ mark :: zone) = .lt := by
    intro nanos hnanos
    rw [fractionChars, if_neg hnanos, List.cons_append, charsCmp_cons, Nat.compare_eq_lt.mpr hmark,
      Ordering.lt_then]
  by_cases hzero : a = 0
  · by_cases hother : b = 0
    · rw [hzero, hother, charsCmp_self, Std.compare_self]
    · rw [hzero, Nat.compare_eq_lt.mpr (Nat.pos_of_ne_zero hother)]
      exact hbefore b hother
  · by_cases hother : b = 0
    · rw [hother, Nat.compare_eq_gt.mpr (Nat.pos_of_ne_zero hzero)]
      exact Std.OrientedCmp.gt_of_lt (hbefore a hzero)
    · rw [fractionChars, fractionChars, if_neg hzero, if_neg hother, List.cons_append,
        List.cons_append, charsCmp_cons_self, charsCmp_groupsChars hmark (length_fractionGroups a b)
          (lt_of_mem_fractionGroups ha) (lt_of_mem_fractionGroups hb)]
      simp only [fractionGroups, List.compareLex_cons_cons, List.compareLex_nil_nil,
        Ordering.then_eq]
      rw [← Ordering.then_assoc, compare_div_mod, compare_div_mod]

end Marks

/-! ### Readings -/

theorem compare_toNat {a b : Int} (ha : 0 ≤ a) (hb : 0 ≤ b) :
    compare a.toNat b.toNat = compare a b := by
  rcases lt_trichotomy a b with hlt | heq | hgt
  · rw [compare_lt_iff_lt.mpr hlt, compare_lt_iff_lt]
    omega
  · rw [heq, compare_eq_iff_eq.mpr rfl, compare_eq_iff_eq.mpr rfl]
  · rw [compare_gt_iff_gt.mpr hgt, compare_gt_iff_gt]
    omega

namespace ClockReading

def cmp (a b : ClockReading) : Ordering :=
  (a.date.cmp b.date).then ((compare a.hour b.hour).then ((compare a.minute b.minute).then
    ((compare a.second b.second).then (compare a.fraction b.fraction))))

/-- The parts of a reading have fixed widths up to the fraction, so texts compare part by part. -/
theorem charsCmp_chars (a b : ClockReading) {mark : Char} (hmark : mark.toNat < '.'.toNat)
    (zone : List Char) :
    charsCmp (a.chars (mark :: zone)) (b.chars (mark :: zone)) = a.cmp b := by
  have hhour : ∀ reading : ClockReading, reading.hour < 10 ^ 2 := fun reading =>
    Nat.lt_trans reading.hour_lt (by decide)
  have hminute : ∀ reading : ClockReading, reading.minute < 10 ^ 2 := fun reading =>
    Nat.lt_trans reading.minute_lt (by decide)
  have hsecond : ∀ reading : ClockReading, reading.second < 10 ^ 2 := fun reading =>
    Nat.lt_of_le_of_lt reading.second_le (by decide)
  unfold chars cmp Date.cmp
  rw [charsCmp_fixedDigits a.year_lt b.year_lt, charsCmp_cons_self,
    charsCmp_fixedDigits a.month_lt b.month_lt, charsCmp_cons_self,
    charsCmp_fixedDigits a.day_lt b.day_lt, charsCmp_cons_self,
    charsCmp_fixedDigits (hhour a) (hhour b), charsCmp_cons_self,
    charsCmp_fixedDigits (hminute a) (hminute b), charsCmp_cons_self,
    charsCmp_fixedDigits (hsecond a) (hsecond b),
    charsCmp_fractionChars hmark a.fraction_lt b.fraction_lt,
    compare_toNat a.year_nonneg b.year_nonneg, Ordering.then_assoc, Ordering.then_assoc]

end ClockReading

/-! ### Instants -/

theorem compare_seconds (a b : Int) :
    (compare (a / 86400) (b / 86400)).then (compare (a % 86400).toNat (b % 86400).toNat)
      = compare a b := by
  rw [compare_toNat (by omega) (by omega)]
  rcases lt_trichotomy (a / 86400) (b / 86400) with hlt | heq | hgt
  · rw [compare_lt_iff_lt.mpr hlt, Ordering.lt_then, eq_comm, compare_lt_iff_lt]
    omega
  · rw [compare_eq_iff_eq.mpr heq, Ordering.eq_then]
    rcases lt_trichotomy a b with hless | hsame | hmore
    · rw [compare_lt_iff_lt.mpr hless, compare_lt_iff_lt]
      omega
    · rw [hsame, compare_eq_iff_eq.mpr rfl, compare_eq_iff_eq.mpr rfl]
    · rw [compare_gt_iff_gt.mpr hmore, compare_gt_iff_gt]
      omega
  · rw [compare_gt_iff_gt.mpr hgt, Ordering.gt_then, eq_comm, compare_gt_iff_gt]
    omega

/-- A leap second comes after the last second of its minute, and no other second does. -/
theorem compare_add_leap {second other leap otherLeap : Nat} (hsecond : second < 60)
    (hother : other < 60) (hleap : leap = 0 ∨ leap = 1 ∧ second = 59)
    (hotherLeap : otherLeap = 0 ∨ otherLeap = 1 ∧ other = 59) :
    compare (second + leap) (other + otherLeap)
      = (compare second other).then (compare leap otherLeap) := by
  rcases Nat.lt_trichotomy second other with hlt | rfl | hgt
  · rw [Nat.compare_eq_lt.mpr hlt, Nat.compare_eq_lt.mpr (by omega), Ordering.lt_then]
  · rw [Std.compare_self, Ordering.eq_then, Nat.compare_eq_ite_lt, Nat.compare_eq_ite_lt]
    simp only [Nat.add_lt_add_iff_left]
  · rw [Nat.compare_eq_gt.mpr hgt, Nat.compare_eq_gt.mpr (by omega), Ordering.gt_then]

theorem compare_clock (a b : Nat) :
    (compare (a / 3600) (b / 3600)).then ((compare (a / 60 % 60) (b / 60 % 60)).then
      (compare (a % 60) (b % 60))) = compare a b := by
  rw [← Nat.div_div_eq_div_mul a 60 60, ← Nat.div_div_eq_div_mul b 60 60, ← Ordering.then_assoc,
    compare_div_mod, compare_div_mod]

namespace Instant

variable {a b : Instant} (ha : a.Proper) (hb : b.Proper) (hayear : a.HasCommonYear) (hbyear : b.HasCommonYear)

/-- Instants stand in the order of their readings. -/
theorem cmp_reading : (a.reading ha hayear).cmp (b.reading hb hbyear) = a.cmp b := by
  unfold ClockReading.cmp cmp
  simp only [reading]
  rw [← Date.compare_dayNumber (Date.ofDayNumber_isValid _) (Date.ofDayNumber_isValid _),
    Date.dayNumber_ofDayNumber, Date.dayNumber_ofDayNumber,
    compare_add_leap (Nat.mod_lt _ (by decide)) (Nat.mod_lt _ (by decide)) ha.leap hb.leap,
    ← compare_seconds a.seconds, ← compare_clock (a.seconds % 86400).toNat,
    ← compare_div_mod a.nanos b.nanos 1000000000]
  simp only [Ordering.then_assoc]

include ha hb hayear hbyear in
/-- **Order of texts.** Instants stand in the order of their texts, whatever the lengths of their fractions, if what follows these stands before the point. -/
theorem compare_render {mark : Char} {zone : List Char} (hmark : mark.toNat < '.'.toNat) :
    compare (a.render (String.ofList (mark :: zone))) (b.render (String.ofList (mark :: zone)))
      = a.cmp b := by
  rw [compare_eq_charsCmp, toList_render ha hayear, toList_render hb hbyear, String.toList_ofList,
    ClockReading.charsCmp_chars _ _ hmark, cmp_reading]

/-- A year of more or fewer than four digits is written with a sign. -/
theorem exists_sign {instant : Instant} (hyear : ¬ instant.HasCommonYear) (zone : String) :
    ∃ sign rest, sign.toNat < '.'.toNat ∧ (instant.render zone).toList = sign :: rest := by
  have huncommon : ¬ (0 ≤ instant.year ∧ instant.year ≤ 9999) := hyear
  have hsigned : ∃ sign digits, sign.toNat < '.'.toNat
      ∧ (yearText instant.year).toList = sign :: digits := by
    unfold yearText
    rw [if_neg huncommon]
    split
    · exact ⟨'-', _, by decide, String.toList_append⟩
    · exact ⟨'+', _, by decide, String.toList_append⟩
  have hrender : ∃ rest, instant.render zone = yearText instant.year ++ rest := by
    refine ⟨?rest, ?hrest⟩
    case hrest =>
      unfold render
      simp only [String.append_assoc]
      rfl
  obtain ⟨sign, digits, hsign, hdigits⟩ := hsigned
  obtain ⟨rest, hrest⟩ := hrender
  refine ⟨sign, digits ++ rest.toList, hsign, ?_⟩
  rw [hrest, String.toList_append, hdigits, List.cons_append]

include ha hayear in
/-- Texts of years of four digits stand after those of all other years, be these earlier or later. -/
theorem compare_render_signed (hbyear : ¬ b.HasCommonYear) (zone other : String) :
    compare (a.render zone) (b.render other) = .gt := by
  obtain ⟨sign, rest, hsign, htext⟩ := b.exists_sign hbyear other
  rw [compare_eq_charsCmp, toList_render ha hayear, htext]
  exact Std.OrientedCmp.gt_of_lt (charsCmp_mark_fixedDigits hsign 3 _ _)

end Instant

end Registrar.Time
