import Registrar.Time.Instant
import Mathlib.Algebra.Ring.Nat
import Mathlib.Data.List.Induction

/-!
# Decimal digits

Numbers written with a fixed count of digits read back as they were, and their texts stand in the
order of the numbers.
-/

namespace Registrar.Time

open Timestamp

def fixedDigits : Nat → Nat → List Char
  | 0, _ => []
  | width + 1, value => fixedDigits width (value / 10) ++ [Nat.digitChar (value % 10)]

theorem toNat_digitChar_mod (value : Nat) : (Nat.digitChar (value % 10)).toNat = 48 + value % 10 :=
  Nat.toNat_digitChar_of_lt_ten (Nat.mod_lt _ (by decide))

@[simp]
theorem length_fixedDigits (width value : Nat) : (fixedDigits width value).length = width := by
  induction width generalizing value with
  | zero => rfl
  | succ width ih => simp [fixedDigits, ih]

theorem fixedDigits_zero (width : Nat) : fixedDigits width 0 = List.replicate width '0' := by
  induction width with
  | zero => rfl
  | succ width ih =>
      rw [fixedDigits, List.replicate_succ', ← ih]
      rfl

theorem exists_of_mem_fixedDigits {width value : Nat} {c : Char}
    (hc : c ∈ fixedDigits width value) : ∃ rest, c = Nat.digitChar (rest % 10) := by
  induction width generalizing value with
  | zero => simp [fixedDigits] at hc
  | succ width ih =>
      rw [fixedDigits, List.mem_append, List.mem_singleton] at hc
      exact hc.elim ih fun hlast => ⟨value, hlast⟩

theorem fixedDigits_add (front back value : Nat) :
    fixedDigits (front + back) value
      = fixedDigits front (value / 10 ^ back) ++ fixedDigits back value := by
  induction back generalizing value with
  | zero => simp [fixedDigits]
  | succ back ih =>
      rw [← Nat.add_assoc, fixedDigits, fixedDigits, ih, List.append_assoc, Nat.div_div_eq_div_mul,
        Nat.pow_succ']

theorem fixedDigits_mod (width value : Nat) :
    fixedDigits width (value % 10 ^ width) = fixedDigits width value := by
  induction width generalizing value with
  | zero => rfl
  | succ width ih =>
      have hlast : value % 10 ^ (width + 1) % 10 = value % 10 :=
        Nat.mod_mod_of_dvd value (Nat.dvd_mul_left 10 (10 ^ width))
      rw [fixedDigits, fixedDigits, hlast, Nat.pow_succ', Nat.mod_mul_right_div_self, ih]

theorem div_lt_pow {width value : Nat} (hvalue : value < 10 ^ (width + 1)) :
    value / 10 < 10 ^ width := by
  rw [Nat.pow_succ] at hvalue
  omega

theorem toList_padded (width : Nat) {value : Nat} (hvalue : value < 10 ^ (width + 1)) :
    (padded (width + 1) value).toList = fixedDigits (width + 1) value := by
  unfold padded
  rw [String.toList_ofList]
  induction width generalizing value with
  | zero =>
      have hdigit : value < 10 := by simpa using hvalue
      rw [Nat.toDigits_of_lt_base hdigit]
      simp [fixedDigits, Nat.mod_eq_of_lt hdigit]
  | succ width ih =>
      rw [Nat.toDigits_eq_if (by decide), fixedDigits]
      split
      · next hdigit =>
        rw [Nat.div_eq_of_lt hdigit, fixedDigits_zero, Nat.mod_eq_of_lt hdigit]
        rfl
      · rw [← ih (div_lt_pow hvalue), List.append_assoc, List.length_append, List.length_singleton,
          Nat.add_sub_add_right]

/-! ### Reading digits -/

def asciiByte (c : Char) : UInt8 :=
  c.val.toUInt8

theorem flatMap_utf8EncodeChar_of_ascii {chars : List Char} (hchars : ∀ c ∈ chars, c.toNat < 128) :
    chars.flatMap String.utf8EncodeChar = chars.map asciiByte := by
  induction chars with
  | nil => rfl
  | cons c chars ih =>
      obtain ⟨hc, hrest⟩ := List.forall_mem_cons.mp hchars
      have hsize : c.utf8Size = 1 := by
        have hval : c.val ≤ 0x7F := by
          have : c.val.toNat < 128 := hc
          rw [UInt32.le_iff_toNat_le]
          exact Nat.le_of_lt_succ this
        simp [Char.utf8Size, hval]
      rw [List.flatMap_cons, List.map_cons, ih hrest, String.utf8EncodeChar_eq_singleton hsize]
      rfl

theorem toNat_asciiByte_digitChar (value : Nat) :
    (asciiByte (Nat.digitChar (value % 10))).toNat = 48 + value % 10 := by
  have hdigit : (Nat.digitChar (value % 10)).val.toNat = 48 + value % 10 := toNat_digitChar_mod value
  rw [asciiByte, UInt32.toNat_toUInt8, hdigit]
  omega

theorem digitsValue_append_singleton (bytes : List UInt8) (byte : UInt8) :
    digitsValue (bytes ++ [byte]) = digitsValue bytes * 10 + (byte.toNat - 48) := by
  simp [digitsValue]

theorem toNat_sub_lt_of_isDigit {byte : UInt8} (hbyte : isDigit byte = true) :
    byte.toNat - 48 < 10 := by
  unfold isDigit at hbyte
  rw [Bool.and_eq_true, decide_eq_true_eq, decide_eq_true_eq, UInt8.le_iff_toNat_le,
    UInt8.le_iff_toNat_le] at hbyte
  have hlast : byte.toNat ≤ 57 := hbyte.2
  omega

theorem digitsValue_lt {bytes : List UInt8} (hbytes : ∀ byte ∈ bytes, isDigit byte = true) :
    digitsValue bytes < 10 ^ bytes.length := by
  induction bytes using List.reverseRecOn with
  | nil => decide
  | append_singleton bytes byte ih =>
      obtain ⟨hfront, hlast⟩ := List.forall_mem_append.mp hbytes
      have hvalue := ih hfront
      have hdigit := toNat_sub_lt_of_isDigit (hlast byte (List.mem_singleton_self byte))
      rw [digitsValue_append_singleton, List.length_append, List.length_singleton, Nat.pow_succ]
      omega

/-- Digits that are written with a fixed width are read as their number again. -/
theorem digitsValue_fixedDigits {width value : Nat} (hvalue : value < 10 ^ width) :
    digitsValue ((fixedDigits width value).map asciiByte) = value := by
  induction width generalizing value with
  | zero =>
      obtain rfl : value = 0 := by simpa using hvalue
      rfl
  | succ width ih =>
      rw [fixedDigits, List.map_append, List.map_singleton, digitsValue_append_singleton,
        ih (div_lt_pow hvalue), toNat_asciiByte_digitChar]
      omega

theorem isDigit_fixedDigits (width value : Nat) :
    ((fixedDigits width value).map asciiByte).all isDigit = true := by
  rw [List.all_map, List.all_eq_true]
  intro c hc
  obtain ⟨rest, rfl⟩ := exists_of_mem_fixedDigits hc
  have hbyte := toNat_asciiByte_digitChar rest
  simp only [Function.comp_apply, isDigit, Bool.and_eq_true, decide_eq_true_eq,
    UInt8.le_iff_toNat_le, hbyte, UInt8.reduceToNat]
  omega

theorem number_fixedDigits {width value : Nat} (hvalue : value < 10 ^ width) :
    number ((fixedDigits width value).map asciiByte) = .ok value := by
  rw [number, if_pos (isDigit_fixedDigits width value), digitsValue_fixedDigits hvalue]

/-! ### Comparing digits -/

def charsCmp (a b : List Char) : Ordering :=
  compareOfLessAndEq a b

/-- Texts are compared character by character, so the order can be followed along their parts. -/
theorem compare_eq_charsCmp (a b : String) : compare a b = charsCmp a.toList b.toList := by
  change compareOfLessAndEq a b = compareOfLessAndEq a.toList b.toList
  unfold compareOfLessAndEq
  simp only [String.lt_iff, String.toList_inj]

theorem charsCmp_cons (c d : Char) (a b : List Char) :
    charsCmp (c :: a) (d :: b) = (compare c.toNat d.toNat).then (charsCmp a b) := by
  unfold charsCmp compareOfLessAndEq
  have hlt : c < d ↔ c.toNat < d.toNat := Iff.rfl
  simp only [List.cons_lt_cons_iff, List.cons.injEq, Nat.compare_eq_ite_lt, hlt, ← Char.toNat_inj]
  rcases Nat.lt_trichotomy c.toNat d.toNat with h | h | h
  · simp [h]
  · simp [h]
  · simp [h, Nat.ne_of_gt h, Nat.lt_asymm h]

theorem charsCmp_cons_self (c : Char) (a b : List Char) :
    charsCmp (c :: a) (c :: b) = charsCmp a b := by
  rw [charsCmp_cons, Std.compare_self, Ordering.eq_then]

theorem charsCmp_self (a : List Char) : charsCmp a a = .eq := by
  induction a with
  | nil => rfl
  | cons c a ih => rw [charsCmp_cons_self, ih]

/-- Numbers compare by their quotients first and then by their remainders. -/
theorem compare_div_mod (a b divisor : Nat) :
    (compare (a / divisor) (b / divisor)).then (compare (a % divisor) (b % divisor))
      = compare a b := by
  rcases Nat.lt_trichotomy (a / divisor) (b / divisor) with h | h | h
  · rw [Nat.compare_eq_lt.mpr h, Nat.compare_eq_lt.mpr (Nat.lt_of_div_lt_div h), Ordering.lt_then]
  · have ha := Nat.div_add_mod a divisor
    have hb := Nat.div_add_mod b divisor
    rw [h] at ha
    have hlt : a % divisor < b % divisor ↔ a < b := by omega
    have hgt : b % divisor < a % divisor ↔ b < a := by omega
    rw [Nat.compare_eq_eq.mpr h, Ordering.eq_then, Nat.compare_eq_ite_lt, Nat.compare_eq_ite_lt]
    simp only [hlt, hgt]
  · rw [Nat.compare_eq_gt.mpr h, Nat.compare_eq_gt.mpr (Nat.lt_of_div_lt_div h), Ordering.gt_then]

/-- Of one width, digits stand in the order of their numbers, and what follows them decides only if these are the same. -/
theorem charsCmp_fixedDigits {width a b : Nat} (ha : a < 10 ^ width) (hb : b < 10 ^ width)
    (s t : List Char) :
    charsCmp (fixedDigits width a ++ s) (fixedDigits width b ++ t)
      = (compare a b).then (charsCmp s t) := by
  induction width generalizing a b s t with
  | zero =>
      obtain rfl : a = 0 := by simpa using ha
      obtain rfl : b = 0 := by simpa using hb
      rfl
  | succ width ih =>
      have hlast : compare (48 + a % 10) (48 + b % 10) = compare (a % 10) (b % 10) := by
        rw [Nat.compare_eq_ite_lt, Nat.compare_eq_ite_lt]
        simp only [Nat.add_lt_add_iff_left]
      rw [fixedDigits, fixedDigits, List.append_assoc, List.append_assoc,
        ih (div_lt_pow ha) (div_lt_pow hb), List.singleton_append, List.singleton_append,
        charsCmp_cons, toNat_digitChar_mod, toNat_digitChar_mod, hlast, ← Ordering.then_assoc,
        compare_div_mod]

end Registrar.Time
