import Registrar.Time.Calendar

/-!
Instants on the UTC time line with nanoseconds, and their RFC 3339 texts. A leap second is kept as
the second before it with a nanosecond count from one billion on, so it stays apart from its
neighbours and in order.
-/

namespace Registrar.Time

/-- A point in time: whole seconds since 1970-01-01T00:00:00Z and the nanoseconds after them. -/
structure Instant where
  seconds : Int
  nanos : Nat
deriving DecidableEq, Repr

def Instant.cmp (a b : Instant) : Ordering :=
  (compare a.seconds b.seconds).then (compare a.nanos b.nanos)

def Instant.toMicroseconds (instant : Instant) : Instant :=
  { instant with nanos := instant.nanos - instant.nanos % 1000 }

inductive TimestampFault where
  | premature
  | invalid
  | outOfRange
  | trailing
deriving DecidableEq, Repr

def TimestampFault.message : TimestampFault → String
  | .premature => "premature end of input"
  | .invalid => "input contains invalid characters"
  | .outOfRange => "input is out of range"
  | .trailing => "trailing input"

namespace Timestamp

def isDigit (byte : UInt8) : Bool :=
  48 ≤ byte && byte ≤ 57

def digitsValue (digits : List UInt8) : Nat :=
  digits.foldl (fun value digit => value * 10 + (digit.toNat - 48)) 0

def number (bytes : List UInt8) : Except TimestampFault Nat :=
  if bytes.all isDigit then .ok (digitsValue bytes) else .error .invalid

def expect (condition : Bool) (fault : TimestampFault) : Except TimestampFault Unit :=
  if condition then .ok () else .error fault

/-- The nanoseconds of a fraction after its point: nine digits count, further ones are dropped. -/
def fraction (bytes : List UInt8) : Except TimestampFault (Nat × List UInt8) :=
  let digits := bytes.takeWhile isDigit
  let rest := bytes.dropWhile isDigit
  if digits.isEmpty then .error (if rest.isEmpty then .premature else .invalid)
  else
    let kept := digits.take 9
    .ok (digitsValue kept * Nat.pow 10 (9 - kept.length), rest)

def optionalFraction : List UInt8 → Except TimestampFault (Nat × List UInt8)
  | 46 :: rest => fraction rest
  | rest => .ok (0, rest)

def offsetMinutes : List UInt8 → Except TimestampFault (Nat × List UInt8)
  | tens :: units :: rest =>
    if isDigit tens && isDigit units then
      if tens ≤ 53 then .ok (digitsValue [tens, units], rest) else .error .outOfRange
    else .error .invalid
  | _ => .error .premature

def offsetSize : List UInt8 → Except TimestampFault (Nat × List UInt8)
  | tens :: units :: rest => do
    let hours ← number [tens, units]
    match rest with
    | [] => .error .premature
    | 58 :: rest =>
      let (minutes, rest) ← offsetMinutes rest
      .ok (hours * 60 + minutes, rest)
    | _ => .error .invalid
  | _ => .error .premature

/-- The offset from UTC in minutes. The minus sign may be written as U+2212. -/
def offset : List UInt8 → Except TimestampFault (Int × List UInt8)
  | [] => .error .premature
  | 90 :: rest => .ok (0, rest)
  | 122 :: rest => .ok (0, rest)
  | 43 :: rest => do
    let (minutes, rest) ← offsetSize rest
    .ok (minutes, rest)
  | 45 :: rest => do
    let (minutes, rest) ← offsetSize rest
    .ok (-(minutes : Int), rest)
  | 0xE2 :: 0x88 :: 0x92 :: rest => do
    let (minutes, rest) ← offsetSize rest
    .ok (-(minutes : Int), rest)
  | _ => .error .invalid

/-- Reads `YYYY-MM-DDThh:mm:ss`, an optional fraction and an offset. The first fault in reading order is reported, and an offset of a day or more only when all else is well formed. -/
def readBytes : List UInt8 → Except TimestampFault Instant
  | y₁ :: y₂ :: y₃ :: y₄ :: dash :: m₁ :: m₂ :: dash' :: d₁ :: d₂ :: separator ::
      h₁ :: h₂ :: colon :: n₁ :: n₂ :: colon' :: s₁ :: s₂ :: rest => do
    let year ← number [y₁, y₂, y₃, y₄]
    expect (dash == 45) .invalid
    let month ← number [m₁, m₂]
    expect (dash' == 45) .invalid
    let day ← number [d₁, d₂]
    let date : Date := ⟨year, month, day⟩
    expect date.isValid .outOfRange
    expect (separator == 84 || separator == 116 || separator == 32) .invalid
    let hour ← number [h₁, h₂]
    expect (colon == 58) .invalid
    let minute ← number [n₁, n₂]
    expect (colon' == 58) .invalid
    let second ← number [s₁, s₂]
    let (nanos, rest) ← optionalFraction rest
    expect (hour ≤ 23 && minute ≤ 59 && second ≤ 60) .outOfRange
    let (offset, rest) ← offset rest
    expect rest.isEmpty .trailing
    expect (offset.natAbs < 24 * 60) .outOfRange
    let wall := date.dayNumber * 86400 + (hour * 3600 + minute * 60 : Nat)
    .ok
      { seconds := wall + (if second = 60 then 59 else second : Nat) - offset * 60
        nanos := if second = 60 then nanos + 1000000000 else nanos }
  | _ => .error .premature

def padded (width value : Nat) : String :=
  let digits := Nat.toDigits 10 value
  String.ofList (List.replicate (width - digits.length) '0' ++ digits)

/-- Four digits for the years 0 to 9999, a sign and at least four digits for all others. -/
def yearText (year : Int) : String :=
  if 0 ≤ year ∧ year ≤ 9999 then padded 4 year.toNat
  else if year < 0 then "-" ++ padded 4 year.natAbs
  else "+" ++ padded 4 year.toNat

/-- The fewest of 0, 3, 6 or 9 digits that lose nothing. -/
def fractionText (nanos : Nat) : String :=
  if nanos = 0 then ""
  else if nanos % 1000000 = 0 then "." ++ padded 3 (nanos / 1000000)
  else if nanos % 1000 = 0 then "." ++ padded 6 (nanos / 1000)
  else "." ++ padded 9 nanos

end Timestamp

open Timestamp

def Instant.read (text : String) : Except TimestampFault Instant :=
  readBytes (text.toList.flatMap String.utf8EncodeChar)

/-- The instant in UTC, with `zone` written for the offset. A leap second shows as `:60`. -/
def Instant.render (zone : String) (instant : Instant) : String :=
  let date := Date.ofDayNumber (instant.seconds / 86400)
  let second := (instant.seconds % 86400).toNat
  let leap := instant.nanos / 1000000000
  yearText date.year ++ "-" ++ padded 2 date.month ++ "-" ++ padded 2 date.day ++ "T" ++
    padded 2 (second / 3600) ++ ":" ++ padded 2 (second / 60 % 60) ++ ":" ++
    padded 2 (second % 60 + leap) ++ fractionText (instant.nanos % 1000000000) ++ zone

def Instant.text (instant : Instant) : String :=
  instant.render "Z"

end Registrar.Time
