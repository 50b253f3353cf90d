import Registrar.Settings.Module
import Mathlib.Data.List.Induction
import Mathlib.Data.Nat.Digits.Defs

/-!
# Page sizes that are asked for

A page size is written as a decimal integer. It is read as a signed number of 64 bits, although the
settings allow page sizes of 64 bits without a sign: a page of 2 ^ 63 rows or more is refused as no
integer at all, even where the settings allow it.
-/

namespace Registrar

/-! ### Decimal integers -/

namespace Text

def digit (c : Char) : Nat :=
  c.toNat - '0'.toNat

/-- At least one decimal digit, and the number that they stand for, the last digit counting once. -/
structure IsNumeral (digits : List Char) (size : Nat) : Prop where
  ne_nil : digits ≠ []
  isDigit : ∀ c ∈ digits, isDigit c = true
  ofDigits_eq : Nat.ofDigits 10 (digits.reverse.map digit) = size

inductive IsInteger : List Char → Int → Prop
  | unsigned {digits : List Char} {size : Nat} :
    IsNumeral digits size → IsInteger digits size
  | positive {digits : List Char} {size : Nat} :
    IsNumeral digits size → IsInteger ('+' :: digits) size
  | negative {digits : List Char} {size : Nat} :
    IsNumeral digits size → IsInteger ('-' :: digits) (-size)

/-- Reading digits from the left gives what the positional system says. -/
theorem digitsValue_eq_ofDigits (digits : List Char) :
    digitsValue digits = Nat.ofDigits 10 (digits.reverse.map digit) := by
  induction digits using List.reverseRecOn with
  | nil => rfl
  | append_singleton digits c ih =>
      have hlast : digitsValue (digits ++ [c]) = digitsValue digits * 10 + digit c := by
        rw [digitsValue, List.foldl_append]
        rfl
      rw [hlast, ih, List.reverse_append, List.reverse_singleton, List.singleton_append,
        List.map_cons, Nat.ofDigits_cons]
      omega

theorem isNumeral_iff {digits : List Char} {size : Nat} :
    IsNumeral digits size
      ↔ (digits.isEmpty || !digits.all Text.isDigit) = false ∧ digitsValue digits = size := by
  rw [digitsValue_eq_ofDigits, Bool.or_eq_false_iff, Bool.not_eq_false', List.isEmpty_eq_false_iff,
    List.all_eq_true, and_assoc]
  exact ⟨fun hnumeral => ⟨hnumeral.ne_nil, hnumeral.isDigit, hnumeral.ofDigits_eq⟩,
    fun ⟨hne, hdigits, hsize⟩ => ⟨hne, hdigits, hsize⟩⟩

/-- A sign is no digit, so what follows it is all that it can be a sign of. -/
theorem IsNumeral.ne_sign {c : Char} {digits : List Char} {size : Nat}
    (hnumeral : IsNumeral (c :: digits) size) : c ≠ '+' ∧ c ≠ '-' := by
  have hdigit := hnumeral.isDigit c List.mem_cons_self
  constructor
  all_goals
    rintro rfl
    exact absurd hdigit (by decide)

theorem isInteger_minus_iff {digits : List Char} {n : Int} :
    IsInteger ('-' :: digits) n ↔ ∃ size : Nat, IsNumeral digits size ∧ n = -size := by
  constructor
  · rintro (hnumeral | hnumeral | hnumeral)
    · exact absurd rfl hnumeral.ne_sign.2
    · exact ⟨_, hnumeral, rfl⟩
  · rintro ⟨size, hnumeral, rfl⟩
    exact .negative hnumeral

theorem isInteger_plus_iff {digits : List Char} {n : Int} :
    IsInteger ('+' :: digits) n ↔ ∃ size : Nat, IsNumeral digits size ∧ n = size := by
  constructor
  · rintro (hnumeral | hnumeral | hnumeral)
    · exact absurd rfl hnumeral.ne_sign.1
    · exact ⟨_, hnumeral, rfl⟩
  · rintro ⟨size, hnumeral, rfl⟩
    exact .positive hnumeral

theorem isInteger_iff_of_unsigned {digits : List Char} {n : Int}
    (hminus : ∀ rest, digits ≠ '-' :: rest) (hplus : ∀ rest, digits ≠ '+' :: rest) :
    IsInteger digits n ↔ ∃ size : Nat, IsNumeral digits size ∧ n = size := by
  constructor
  · rintro (hnumeral | hnumeral | hnumeral)
    · exact ⟨_, hnumeral, rfl⟩
    · exact absurd rfl (hplus _)
    · exact absurd rfl (hminus _)
  · rintro ⟨size, hnumeral, rfl⟩
    exact .unsigned hnumeral

end Text

open Text

/-- The integer that a sign and the digits behind it stand for, if these are digits and it has 64 bits. -/
theorem signedDigits_eq_some_iff (negative : Bool) (digits : List Char) (n : Int) :
    (if (digits.isEmpty || !digits.all isDigit) = true then none
      else if negative = true then
        (if digitsValue digits ≤ Nat.pow 2 63 then some (-(digitsValue digits : Int)) else none)
      else (if digitsValue digits < Nat.pow 2 63 then some (digitsValue digits : Int) else none))
        = some n
      ↔ (∃ size : Nat, IsNumeral digits size ∧ n = if negative = true then -(size : Int) else size)
        ∧ -(2 ^ 63 : Int) ≤ n ∧ n < (2 ^ 63 : Int) := by
  simp only [isNumeral_iff]
  cases hdigits : digits.isEmpty || !digits.all isDigit with
  | true => simp
  | false =>
      have hpow : Nat.pow 2 63 = 9223372036854775808 := rfl
      simp only [hpow, true_and, exists_eq_left']
      generalize digitsValue digits = size
      cases negative
      all_goals
        simp only [Bool.false_eq_true, ↓reduceIte]
        split
        · rw [Option.some_inj]
          omega
        · exact iff_of_false nofun (by omega)

/-- What is read is exactly an integer in decimal notation within 64 bits. -/
theorem signed64?_eq_some_iff {text : String} {n : Int} :
    signed64? text = some n
      ↔ IsInteger text.toList n ∧ -(2 ^ 63 : Int) ≤ n ∧ n < (2 ^ 63 : Int) := by
  unfold signed64?
  generalize text.toList = chars
  dsimp only
  split
  · next rest =>
      rw [isInteger_minus_iff]
      exact signedDigits_eq_some_iff true rest n
  · next rest =>
      rw [isInteger_plus_iff]
      exact signedDigits_eq_some_iff false rest n
  · next hminus hplus =>
      rw [isInteger_iff_of_unsigned hminus hplus]
      exact signedDigits_eq_some_iff false chars n

/-! ### Limits -/

section Limits

variable {policy : LimitPolicy} {raw : String}

theorem parseLimit_of_signed64 {n : Int} (hsigned : signed64? (trim raw) = some n) :
    parseLimit (some raw) policy
      = if 1 ≤ n ∧ n ≤ policy.max then .ok n.toNat
        else .error (.invalidParameter "limit" s!"must be between 1 and {policy.max}, got {n}") := by
  unfold parseLimit
  dsimp only
  rw [hsigned]
  dsimp only
  by_cases hrange : 1 ≤ n ∧ n ≤ policy.max
  · rw [if_pos hrange, if_neg (by omega)]
  · rw [if_neg hrange, if_pos (by omega)]

theorem parseLimit_of_unsigned64 (hsigned : signed64? (trim raw) = none) :
    parseLimit (some raw) policy
      = .error (.invalidParameter "limit" s!"'{raw}' is not an integer") := by
  unfold parseLimit
  dsimp only
  rw [hsigned]

theorem signed64?_eq_none_iff {text : String} : signed64? text = none
    ↔ ∀ n : Int, IsInteger text.toList n → n < -(2 ^ 63 : Int) ∨ (2 ^ 63 : Int) ≤ n := by
  rw [Option.eq_none_iff_forall_ne_some]
  refine forall_congr' fun n => ?_
  rw [ne_eq, signed64?_eq_some_iff]
  constructor
  · intro hnone hinteger
    by_contra hbounds
    exact hnone ⟨hinteger, by omega⟩
  · rintro hnone ⟨hinteger, hbounds⟩
    have hout := hnone hinteger
    omega

/-- A page size is given as it was asked for, never clamped. -/
theorem parseLimit_eq_ok_iff {size : Nat} : parseLimit (some raw) policy = .ok size
    ↔ signed64? (trim raw) = some (size : Int) ∧ 1 ≤ size ∧ size ≤ policy.max := by
  cases hsigned : signed64? (trim raw) with
  | none =>
      rw [parseLimit_of_unsigned64 hsigned]
      exact iff_of_false nofun nofun
  | some n =>
      rw [parseLimit_of_signed64 hsigned, Option.some_inj]
      split
      · rw [Except.ok.injEq]
        omega
      · exact iff_of_false nofun (by omega)

theorem parseLimit_eq_error_iff {fault : ListError} : parseLimit (some raw) policy = .error fault
    ↔ (signed64? (trim raw) = none
        ∧ fault = .invalidParameter "limit" s!"'{raw}' is not an integer")
      ∨ ∃ n : Int, signed64? (trim raw) = some n ∧ (n < 1 ∨ policy.max < n)
        ∧ fault = .invalidParameter "limit" s!"must be between 1 and {policy.max}, got {n}" := by
  cases hsigned : signed64? (trim raw) with
  | none =>
      rw [parseLimit_of_unsigned64 hsigned, Except.error.injEq]
      simp [eq_comm]
  | some n =>
      rw [parseLimit_of_signed64 hsigned]
      simp only [reduceCtorEq, false_and, false_or, Option.some_inj, exists_eq_left']
      split
      · exact iff_of_false nofun (by omega)
      · next hrange =>
          rw [Except.error.injEq, and_iff_right (by omega), eq_comm]

end Limits

/-- The first number that has more than 64 bits with a sign. -/
theorem isInteger_two_pow : IsInteger (trim "9223372036854775808").toList (2 ^ 63 : Nat) :=
  .unsigned (isNumeral_iff.mpr (by decide +kernel))

/-- **Page sizes.** A page size that is asked for is given exactly if it is written as a decimal integer, lies between one and the greatest page size of the settings, and has 64 bits with its sign; in all other cases the parameter is refused. So every page size that the settings allow can be asked for exactly if they allow none of 2 ^ 63 rows or more. -/
theorem pageSize_given_iff (settings : Settings.ModuleSettings) :
    (∀ (raw : String) (size : Nat), parseLimit (some raw) settings.limits = .ok size
        ↔ IsInteger (trim raw).toList size ∧ 1 ≤ size ∧ size ≤ settings.maxPageSize
          ∧ size < 2 ^ 63)
      ∧ (∀ (raw : String) (fault : ListError),
        parseLimit (some raw) settings.limits = .error fault
          ↔ ((∀ n, IsInteger (trim raw).toList n → n < -(2 ^ 63 : Int) ∨ (2 ^ 63 : Int) ≤ n)
              ∧ fault = .invalidParameter "limit" s!"'{raw}' is not an integer")
            ∨ ∃ n : Int, IsInteger (trim raw).toList n ∧ -(2 ^ 63 : Int) ≤ n ∧ n < (2 ^ 63 : Int)
              ∧ (n < 1 ∨ settings.maxPageSize < n)
              ∧ fault = .invalidParameter "limit"
                s!"must be between 1 and {settings.maxPageSize}, got {n}")
      ∧ ((∀ (raw : String) (size : Nat), parseLimit (some raw) settings.limits = .ok size
          ↔ IsInteger (trim raw).toList size ∧ 1 ≤ size ∧ size ≤ settings.maxPageSize)
        ↔ settings.maxPageSize < 2 ^ 63) := by
  have hgiven : ∀ (raw : String) (size : Nat), parseLimit (some raw) settings.limits = .ok size
      ↔ IsInteger (trim raw).toList size ∧ 1 ≤ size ∧ size ≤ settings.maxPageSize
        ∧ size < 2 ^ 63 := by
    intro raw size
    rw [parseLimit_eq_ok_iff, signed64?_eq_some_iff]
    change _ ∧ 1 ≤ size ∧ size ≤ settings.maxPageSize ↔ _
    constructor
    · rintro ⟨⟨hinteger, -, hupper⟩, hpositive, hmax⟩
      exact ⟨hinteger, hpositive, hmax, by omega⟩
    · rintro ⟨hinteger, hpositive, hmax, hupper⟩
      exact ⟨⟨hinteger, by omega, by omega⟩, hpositive, hmax⟩
  refine ⟨hgiven, ?_, ?_, ?_⟩
  · intro raw fault
    rw [parseLimit_eq_error_iff, signed64?_eq_none_iff]
    simp only [signed64?_eq_some_iff, and_assoc]
    rfl
  · intro hall
    by_contra hwide
    have hasked := (hall "9223372036854775808" (2 ^ 63)).mpr
      ⟨isInteger_two_pow, by decide, by omega⟩
    have hbounds := (hgiven _ _).mp hasked
    exact absurd hbounds.2.2.2 (Nat.lt_irrefl _)
  · intro hnarrow raw size
    rw [hgiven]
    constructor
    · rintro ⟨hinteger, hpositive, hmax, -⟩
      exact ⟨hinteger, hpositive, hmax⟩
    · rintro ⟨hinteger, hpositive, hmax⟩
      exact ⟨hinteger, hpositive, hmax, by omega⟩

def widestPages : Settings.ModuleSettings :=
  ⟨25, 2 ^ 64 - 1, none⟩

/-- They are accepted and allow a page of 2 ^ 63 rows, which is refused when it is asked for; one row less is given. -/
theorem allowedPage_refused :
    widestPages.validate = .ok ()
      ∧ IsInteger (trim "9223372036854775808").toList (2 ^ 63 : Nat)
      ∧ 1 ≤ 2 ^ 63 ∧ 2 ^ 63 ≤ widestPages.maxPageSize
      ∧ parseLimit (some "9223372036854775808") widestPages.limits
        = .error (.invalidParameter "limit" "'9223372036854775808' is not an integer")
      ∧ parseLimit (some "9223372036854775807") widestPages.limits = .ok (2 ^ 63 - 1)
      ∧ ¬ ∀ (raw : String) (size : Nat), parseLimit (some raw) widestPages.limits = .ok size
        ↔ IsInteger (trim raw).toList size ∧ 1 ≤ size ∧ size ≤ widestPages.maxPageSize := by
  obtain ⟨hgiven, -, hnarrow⟩ := pageSize_given_iff widestPages
  refine ⟨rfl, isInteger_two_pow, by decide, by decide, by decide +kernel, ?_,
    mt hnarrow.mp (by decide)⟩
  exact (hgiven _ _).mpr
    ⟨.unsigned (isNumeral_iff.mpr (by decide +kernel)), by decide, by decide, by decide⟩

end Registrar
