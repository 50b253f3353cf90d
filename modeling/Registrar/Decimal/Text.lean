import Registrar.Json.Basic
import Registrar.Text.Search

/-!
Reading decimal numbers from texts of their own, such as `-12.5e3`.
-/

namespace Registrar

open Text

def splitSign : List Char → Bool × List Char
  | '-' :: rest => (true, rest)
  | '+' :: rest => (false, rest)
  | rest => (false, rest)

def readInteger? (text : List Char) : Option Int :=
  let (negative, digits) := splitSign text
  if digits.isEmpty || !digits.all isDigit then none
  else some (if negative then -(digitsValue digits : Int) else digitsValue digits)

namespace Decimal

def readMantissa? (text : List Char) : Option (Nat × Int) :=
  let whole := text.takeWhile isDigit
  let fraction? :=
    match text.dropWhile isDigit with
    | [] => some []
    | '.' :: fraction => if fraction.all isDigit then some fraction else none
    | _ => none
  fraction?.bind fun fraction =>
    if whole.isEmpty && fraction.isEmpty then none
    else some (digitsValue (whole ++ fraction), -(fraction.length : Int))

def read? (text : List Char) : Option Decimal := do
  let (negative, rest) := splitSign text
  let isMark (c : Char) : Bool := c = 'e' || c = 'E'
  let (digits, places) ← readMantissa? (rest.takeWhile fun c => !isMark c)
  let exponent ←
    match rest.dropWhile fun c => !isMark c with
    | [] => some 0
    | _ :: exponent => readInteger? exponent
  some ⟨negative, digits, exponent + places⟩

end Decimal

end Registrar
