import Registrar.Json.Basic

/-!
Decimal numbers as binary numbers of 53 significant bits, and the shortest decimals that stand for
them. A decimal stands for the nearest binary number, and for the even one of two equally near.
-/

namespace Registrar

structure Binary where
  mantissa : Nat
  exponent : Int
deriving DecidableEq, Repr

namespace Binary

def minExponent : Int := -1074

/-- The quotient rounded to the nearest whole number, a half to the even one. -/
def roundDiv (numerator denominator : Nat) : Nat :=
  let whole := numerator / denominator
  let twice := 2 * (numerator % denominator)
  if twice < denominator then whole
  else if denominator < twice then whole + 1
  else whole + whole % 2

def scaled (numerator denominator : Nat) (exponent : Int) : Nat × Nat :=
  if 0 ≤ exponent then (numerator, denominator * Nat.pow 2 exponent.toNat)
  else (numerator * Nat.pow 2 exponent.natAbs, denominator)

/-- The binary number nearest to a positive ratio; none if it is too large. -/
def nearest? (numerator denominator : Nat) : Option Binary :=
  let guess := max minExponent ((numerator.log2 : Int) - denominator.log2 - 53)
  let (n, d) := scaled numerator denominator guess
  let exponent := if Nat.pow 2 53 ≤ n / d then guess + 1 else guess
  let (n, d) := scaled numerator denominator exponent
  let mantissa := roundDiv n d
  let number : Binary :=
    if mantissa = Nat.pow 2 53 then ⟨Nat.pow 2 52, exponent + 1⟩ else ⟨mantissa, exponent⟩
  if 971 < number.exponent then none else some number

/-- The binary number nearest to `digits × 10 ^ exponent`. Exponents far out of range are settled without computing their powers. -/
def ofDecimal? (digits : Nat) (exponent : Int) : Option Binary :=
  let size : Int := (Nat.toDigits 10 digits).length
  if digits = 0 then some ⟨0, minExponent⟩
  else if 400 < exponent + size then none
  else if exponent + size < -400 then some ⟨0, minExponent⟩
  else if 0 ≤ exponent then nearest? (digits * Nat.pow 10 exponent.toNat) 1
  else nearest? digits (Nat.pow 10 exponent.natAbs)

def ratio (number : Binary) : Nat × Nat :=
  if 0 ≤ number.exponent then (number.mantissa * Nat.pow 2 number.exponent.toNat, 1)
  else (number.mantissa, Nat.pow 2 number.exponent.natAbs)

/-- The two decimals next to the value on the grid of multiples of `10 ^ place`. -/
def gridNeighbours (number : Binary) (place : Int) : List Nat :=
  let (n, d) := number.ratio
  let steps := if 0 ≤ place then n / (d * Nat.pow 10 place.toNat) else n * Nat.pow 10 place.natAbs / d
  [steps, steps + 1]

def gridDistance (number : Binary) (place : Int) (steps : Nat) : Nat :=
  let (n, d) := number.ratio
  if 0 ≤ place then max n (steps * Nat.pow 10 place.toNat * d) - min n (steps * Nat.pow 10 place.toNat * d)
  else max (n * Nat.pow 10 place.natAbs) (steps * d) - min (n * Nat.pow 10 place.natAbs) (steps * d)

def onGrid? (number : Binary) (place : Int) : Option Nat :=
  let hits := (number.gridNeighbours place).filter fun steps =>
    steps != 0 && ofDecimal? steps place == some number
  match hits with
  | [low, high] =>
    if number.gridDistance place high < number.gridDistance place low then some high else some low
  | hit :: _ => some hit
  | [] => none

def leadingPlace (number : Binary) : Int :=
  let (n, d) := number.ratio
  if d ≤ n then (Nat.toDigits 10 (n / d)).length - 1
  else -((Nat.toDigits 10 (d / n)).length : Int)

/-- The decimal with the fewest digits that stands for the number, as digits and the place of the last one. -/
def shortest (number : Binary) : Nat × Int :=
  let lead := number.leadingPlace + 1
  let found := (List.range 20).findSome? fun (below : Nat) =>
    (number.onGrid? (lead - (below : Int))).map fun steps => (steps, lead - (below : Int))
  found.getD (0, 0)

def positional (digits : Nat) (place : Int) : String :=
  let written := Nat.toDigits 10 digits
  if 0 ≤ place then String.ofList (written ++ List.replicate place.toNat '0') ++ ".0"
  else
    let after := place.natAbs
    let filled := List.replicate (after + 1 - written.length) '0' ++ written
    String.ofList (filled.take (filled.length - after)) ++ "." ++
      String.ofList (filled.drop (filled.length - after))

end Binary

def Decimal.shown (number : Decimal) : String :=
  let sign := if number.negative then "-" else ""
  match Binary.ofDecimal? number.digits number.exponent with
  | none => sign ++ "inf"
  | some binary =>
    if binary.mantissa = 0 then sign ++ "0.0"
    else
      let (digits, place) := binary.shortest
      sign ++ Binary.positional digits place

def Decimal.isFinite (number : Decimal) : Bool :=
  (Binary.ofDecimal? number.digits number.exponent).isSome

end Registrar
