import Registrar.Time.Calendar
import Mathlib.Data.Int.Init
import Mathlib.Tactic.IntervalCases

/-!
# Dates and day numbers

Every day number has a date, and earlier days have earlier dates. Going from a number to its date, a
day of an era is counted by centuries, periods of four years and years; going back, the days before
a month are counted from one month to the next.
-/

namespace Registrar.Time

theorem Date.isValid_iff {date : Date} : date.isValid = true ↔
    1 ≤ date.month ∧ date.month ≤ 12 ∧ 1 ≤ date.day
      ∧ date.day ≤ daysInMonth date.year date.month := by
  simp [isValid, and_assoc]

theorem isLeapYear_iff (year : Int) :
    isLeapYear year = true ↔ year % 4 = 0 ∧ (year % 100 ≠ 0 ∨ year % 400 = 0) := by
  simp [isLeapYear]

def marchDays (year : Int) : Int :=
  365 * year + year / 4 - year / 100 + year / 400

theorem marchDays_eq (year : Int) :
    marchDays year = marchDays (year - 1) + if isLeapYear year then 366 else 365 := by
  have hleap := isLeapYear_iff year
  unfold marchDays
  split <;> rename_i h <;> simp only [h, true_iff, Bool.false_eq_true, false_iff] at hleap <;> omega

/-! ### The date of a day number -/

/-- A day of an era of 400 years, by the centuries, periods of four years and years that have passed before it. Only the last year of a period is a leap year, and only if it does not end one of the first three centuries. -/
structure EraDay where
  centuries : Nat
  periods : Nat
  years : Nat
  days : Nat
  centuries_le : centuries ≤ 3
  periods_le : periods ≤ 24
  years_le : years ≤ 3
  days_le : days ≤ 365
  leap_day : days = 365 → years = 3 ∧ (periods = 24 → centuries = 3)

namespace EraDay

def year (day : EraDay) : Nat :=
  100 * day.centuries + 4 * day.periods + day.years

def number (day : EraDay) : Nat :=
  36524 * day.centuries + 1461 * day.periods + 365 * day.years + day.days

/-- Every day of an era has its place by centuries, periods of four years and years. -/
theorem exists_number_eq {number : Nat} (hnumber : number < 146097) :
    ∃ day : EraDay, day.number = number := by
  obtain ⟨centuries, hcenturies⟩ : ∃ centuries, centuries = min (number / 36524) 3 := ⟨_, rfl⟩
  obtain ⟨periods, hperiods⟩ : ∃ periods, periods = (number - 36524 * centuries) / 1461 := ⟨_, rfl⟩
  obtain ⟨years, hyears⟩ : ∃ years,
      years = min ((number - 36524 * centuries - 1461 * periods) / 365) 3 := ⟨_, rfl⟩
  refine ⟨⟨centuries, periods, years,
    number - 36524 * centuries - 1461 * periods - 365 * years, ?_, ?_, ?_, ?_, ?_⟩, ?_⟩
  case refine_6 =>
    simp only [EraDay.number]
    omega
  all_goals omega

/-- The corrections take out the leap days before the day, so that all years count 365 days. -/
theorem year_eq_div (day : EraDay) :
    (day.number - day.number / 1460 + day.number / 36524 - day.number / 146096) / 365
      = day.year := by
  obtain ⟨centuries, periods, years, days, hcenturies, hperiods, hyears, hdays, hleap⟩ := day
  simp only [number, year]
  generalize hnumber : 36524 * centuries + 1461 * periods + 365 * years + days = number
  have hperiod : number / 1460 = 25 * centuries + periods
      + if 24 * centuries + periods + 365 * years + days < 1460 then 0 else 1 := by
    split <;> omega
  have hcentury : number / 36524 = centuries + if number = 146096 then 1 else 0 := by
    split <;> omega
  have hera : number / 146096 = if number = 146096 then 1 else 0 := by
    split <;> omega
  rw [hperiod, hcentury, hera]
  refine Nat.div_eq_of_lt_le ?_ ?_
  · split <;> split <;> omega
  · split <;> split <;> omega

theorem days_eq_sub (day : EraDay) :
    day.number - (365 * day.year + day.year / 4 - day.year / 100) = day.days := by
  have hcenturies := day.centuries_le
  have hperiods := day.periods_le
  have hyears := day.years_le
  unfold number year
  omega

theorem marchDays_year (day : EraDay) (era : Int) :
    marchDays (day.year + era * 400) + day.days = 146097 * era + day.number := by
  have hcenturies := day.centuries_le
  have hperiods := day.periods_le
  have hyears := day.years_le
  unfold marchDays number year
  omega

theorem isLeapYear_of_days (day : EraDay) (era : Int) (hdays : day.days = 365) :
    isLeapYear (day.year + era * 400 + 1) = true := by
  have hcenturies := day.centuries_le
  have hperiods := day.periods_le
  obtain ⟨hyears, hlast⟩ := day.leap_day hdays
  rw [isLeapYear_iff]
  unfold year
  omega

end EraDay

def Date.ofMarch (year : Int) (days : Nat) : Date :=
  let monthOfYear := (5 * days + 2) / 153
  let month := if monthOfYear < 10 then monthOfYear + 3 else monthOfYear - 9
  { year := year + (if month ≤ 2 then 1 else 0)
    month := month
    day := days - (153 * monthOfYear + 2) / 5 + 1 }

theorem Date.ofMarch_isValid {year : Int} {days : Nat} (hdays : days ≤ 365)
    (hleap : days = 365 → isLeapYear (year + 1) = true) : (Date.ofMarch year days).isValid = true := by
  rw [isValid_iff]
  unfold ofMarch
  simp only
  generalize hmonth : (5 * days + 2) / 153 = monthOfYear
  have hbound : monthOfYear ≤ 11 := by omega
  refine ⟨by split <;> omega, by split <;> omega, by omega, ?_⟩
  -- The months are told apart, since their lengths follow no simpler rule; February comes last.
  unfold daysInMonth
  interval_cases monthOfYear
  case «11» =>
    by_cases hlast : days = 365
    · simp [hleap hlast, hlast]
    · have hshort : days - 336 ≤ 28 := by omega
      simp
      split <;> omega
  all_goals
    simp
    omega

theorem Date.dayNumber_ofMarch {year : Int} {days : Nat} (hdays : days ≤ 365) :
    (Date.ofMarch year days).dayNumber = marchDays year + days - epochShift := by
  unfold ofMarch dayNumber marchDays
  simp only
  generalize hmonth : (5 * days + 2) / 153 = monthOfYear
  have hbound : monthOfYear ≤ 11 := by omega
  by_cases hspring : monthOfYear < 10
  · simp only [if_pos hspring, if_neg (show ¬ monthOfYear + 3 ≤ 2 by omega)]
    rw [show (monthOfYear + 3 + 9) % 12 = monthOfYear by omega]
    omega
  · simp only [if_neg hspring, if_pos (show monthOfYear - 9 ≤ 2 by omega)]
    rw [show (monthOfYear - 9 + 9) % 12 = monthOfYear by omega, add_sub_cancel_right]
    omega

theorem Date.exists_ofDayNumber_eq (number : Int) : ∃ (era : Int) (day : EraDay),
    number + epochShift = 146097 * era + day.number
      ∧ Date.ofDayNumber number = Date.ofMarch (day.year + era * 400) day.days := by
  have hera : ((number + epochShift) % 146097).toNat < 146097 := by omega
  obtain ⟨day, hday⟩ := EraDay.exists_number_eq hera
  refine ⟨(number + epochShift) / 146097, day, by omega, ?_⟩
  unfold ofDayNumber ofMarch
  simp only [← hday, day.year_eq_div, day.days_eq_sub]

/-- No day number leads to a thirtieth of February. -/
theorem Date.ofDayNumber_isValid (number : Int) : (Date.ofDayNumber number).isValid = true := by
  obtain ⟨era, day, -, hdate⟩ := exists_ofDayNumber_eq number
  rw [hdate]
  exact ofMarch_isValid day.days_le (day.isLeapYear_of_days era)

/-- The date of a day number has that number again. -/
theorem Date.dayNumber_ofDayNumber (number : Int) : (Date.ofDayNumber number).dayNumber = number := by
  obtain ⟨era, day, hnumber, hdate⟩ := exists_ofDayNumber_eq number
  have hmarch := day.marchDays_year era
  rw [hdate, dayNumber_ofMarch day.days_le]
  omega

/-! ### The order of dates -/

def Date.monthCount (date : Date) : Int :=
  12 * date.year + date.month - 3

def monthStart (count : Int) : Int :=
  marchDays (count / 12) + (153 * (count % 12) + 2) / 5 - epochShift

theorem monthStart_of_year {year month : Int} (hfirst : 0 ≤ month) (hlast : month < 12) :
    monthStart (12 * year + month) = marchDays year + (153 * month + 2) / 5 - epochShift := by
  unfold monthStart
  rw [show (12 * year + month) / 12 = year by omega, show (12 * year + month) % 12 = month by omega]

/-- Once months are counted through all years, the number of a date is that of the first of its month and the days after it. -/
theorem Date.dayNumber_eq_monthStart {date : Date} (hdate : date.isValid = true) :
    date.dayNumber = monthStart date.monthCount + date.day - 1 := by
  obtain ⟨hfirst, hlast, hday, -⟩ := isValid_iff.mp hdate
  obtain ⟨year, month, day⟩ := date
  unfold dayNumber monthStart monthCount marchDays
  simp only at hfirst hlast hday ⊢
  have hyear : (12 * year + (month : Int) - 3) / 12 = if month ≤ 2 then year - 1 else year := by
    split <;> omega
  have hmonth : (12 * year + (month : Int) - 3) % 12 = ((month + 9) % 12 : Nat) := by
    omega
  rw [hyear, hmonth]
  omega

/-- A month is followed by the next one after as many days as it has. -/
theorem Date.monthStart_succ {date : Date} (hdate : date.isValid = true) :
    monthStart (date.monthCount + 1)
      = monthStart date.monthCount + daysInMonth date.year date.month := by
  obtain ⟨hfirst, hlast, -, -⟩ := isValid_iff.mp hdate
  obtain ⟨year, month, day⟩ := date
  have hmarch := marchDays_eq year
  simp only at hfirst hlast
  unfold monthCount daysInMonth
  simp only
  rcases Nat.lt_trichotomy month 2 with hmonth | rfl | hmonth
  · obtain rfl : month = 1 := by omega
    rw [show 12 * year + ((1 : Nat) : Int) - 3 + 1 = 12 * (year - 1) + 11 by omega,
      show 12 * year + ((1 : Nat) : Int) - 3 = 12 * (year - 1) + 10 by omega,
      monthStart_of_year (by omega) (by omega), monthStart_of_year (by omega) (by omega)]
    simp
    omega
  · rw [show 12 * year + ((2 : Nat) : Int) - 3 + 1 = 12 * year + 0 by omega,
      show 12 * year + ((2 : Nat) : Int) - 3 = 12 * (year - 1) + 11 by omega,
      monthStart_of_year (by omega) (by omega), monthStart_of_year (by omega) (by omega), hmarch]
    split <;> simp <;> omega
  · rw [show 12 * year + (month : Int) - 3 + 1 = 12 * year + (month - 2) by omega,
      show 12 * year + (month : Int) - 3 = 12 * year + (month - 3) by omega,
      monthStart_of_year (by omega) (by omega), monthStart_of_year (by omega) (by omega)]
    interval_cases month <;> simp <;> omega

theorem monthStart_le {a b : Int} (hle : a ≤ b) : monthStart a ≤ monthStart b := by
  induction b, hle using Int.leInduction with
  | base => exact Int.le_refl _
  | succ count hle ih =>
      refine Int.le_trans ih ?_
      unfold monthStart marchDays
      omega

theorem Date.dayNumber_lt_of_monthCount_lt {a b : Date} (ha : a.isValid = true)
    (hb : b.isValid = true) (hlt : a.monthCount < b.monthCount) : a.dayNumber < b.dayNumber := by
  have hnext : monthStart (a.monthCount + 1) ≤ monthStart b.monthCount := monthStart_le hlt
  obtain ⟨-, -, -, hday⟩ := isValid_iff.mp ha
  obtain ⟨-, -, hfirst, -⟩ := isValid_iff.mp hb
  rw [monthStart_succ ha] at hnext
  rw [dayNumber_eq_monthStart ha, dayNumber_eq_monthStart hb]
  omega

def Date.cmp (a b : Date) : Ordering :=
  (compare a.year b.year).then ((compare a.month b.month).then (compare a.day b.day))

instance : Std.OrientedCmp Date.cmp :=
  inferInstanceAs (Std.OrientedCmp (compareLex (compareOn Date.year)
    (compareLex (compareOn Date.month) (compareOn Date.day))))

theorem Date.eq_of_cmp {a b : Date} (hcmp : a.cmp b = .eq) : a = b := by
  obtain ⟨hyear, hrest⟩ := Ordering.then_eq_eq.mp hcmp
  obtain ⟨hmonth, hday⟩ := Ordering.then_eq_eq.mp hrest
  cases a
  cases b
  rw [Date.mk.injEq]
  exact ⟨Std.LawfulEqOrd.eq_of_compare hyear, Std.LawfulEqOrd.eq_of_compare hmonth,
    Std.LawfulEqOrd.eq_of_compare hday⟩

theorem Date.dayNumber_lt_of_cmp {a b : Date} (ha : a.isValid = true) (hb : b.isValid = true)
    (hcmp : a.cmp b = .lt) : a.dayNumber < b.dayNumber := by
  obtain ⟨hafirst, halast, -, -⟩ := isValid_iff.mp ha
  obtain ⟨hbfirst, hblast, -, -⟩ := isValid_iff.mp hb
  simp only [cmp, Ordering.then_eq_lt, compare_lt_iff_lt, compare_eq_iff_eq] at hcmp
  rcases hcmp with hyear | ⟨hyear, hmonth | ⟨hmonth, hday⟩⟩
  · exact dayNumber_lt_of_monthCount_lt ha hb (by unfold monthCount; omega)
  · exact dayNumber_lt_of_monthCount_lt ha hb (by unfold monthCount; omega)
  · have hcount : a.monthCount = b.monthCount := by rw [monthCount, monthCount, hyear, hmonth]
    rw [dayNumber_eq_monthStart ha, dayNumber_eq_monthStart hb, hcount]
    omega

/-- Day numbers stand in the order of their dates. -/
theorem Date.compare_dayNumber {a b : Date} (ha : a.isValid = true) (hb : b.isValid = true) :
    compare a.dayNumber b.dayNumber = a.cmp b := by
  cases hcmp : a.cmp b with
  | lt => exact compare_lt_iff_lt.mpr (dayNumber_lt_of_cmp ha hb hcmp)
  | eq => rw [eq_of_cmp hcmp, compare_eq_iff_eq]
  | gt => exact compare_gt_iff_gt.mpr (dayNumber_lt_of_cmp hb ha (Std.OrientedCmp.lt_of_gt hcmp))

end Registrar.Time
