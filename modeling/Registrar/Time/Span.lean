import Registrar.Text.Blank
import Registrar.Text.Search

/-!
Spans of time and their texts, such as `1h 30m`. A text is a sum of numbers with units; a month counts
as 30.44 days and a year as 365.25 days.
-/

namespace Registrar.Time

structure Span where
  nanoseconds : Nat
deriving DecidableEq, Repr

namespace Span

def zero : Span :=
  ⟨0⟩

def ofSeconds (seconds : Nat) : Span :=
  ⟨seconds * 1000000000⟩

/-- A unit of time: one of those up to the minute, whose fractions are counted in nanoseconds, or one from the hour on, whose fractions are counted in seconds. -/
inductive TimeUnit where
  | fine (nanoseconds : Nat)
  | coarse (seconds : Nat)
deriving DecidableEq, Repr

def units : List (List String × TimeUnit) :=
  [(["ns", "nsec", "nanos"], .fine 1),
    (["us", "usec", "µs"], .fine 1000),
    (["ms", "msec", "millis"], .fine 1000000),
    (["s", "sec", "secs", "second", "seconds"], .fine 1000000000),
    (["m", "min", "mins", "minute", "minutes"], .fine 60000000000),
    (["h", "hr", "hrs", "hour", "hours"], .coarse 3600),
    (["d", "day", "days"], .coarse 86400),
    (["w", "wk", "wks", "week", "weeks"], .coarse 604800),
    (["M", "month", "months"], .coarse 2630016),
    (["y", "yr", "yrs", "year", "years"], .coarse 31557600)]

def unit? (name : String) : Option TimeUnit :=
  (units.find? fun entry => entry.1.contains name).map (·.2)

def within64? (number : Nat) : Option Nat :=
  if number < Nat.pow 2 64 then some number else none

def exactly? (number divisor : Nat) : Option Nat :=
  if number % divisor = 0 then some (number / divisor) else none

def add? (total : Span) (seconds nanoseconds : Nat) : Option Span := do
  let fine ← within64? (total.nanoseconds % 1000000000 + nanoseconds)
  let coarse ← within64? (total.nanoseconds / 1000000000 + seconds + fine / 1000000000)
  some ⟨coarse * 1000000000 + fine % 1000000000⟩

def wholeUnits? (unit : TimeUnit) (number : Nat) : Option (Nat × Nat) :=
  match unit with
  | .fine size =>
    if 1000000000 ≤ size then (within64? (number * (size / 1000000000))).map fun seconds => (seconds, 0)
    else (within64? (number * size)).map fun nanoseconds => (0, nanoseconds)
  | .coarse size => (within64? (number * size)).map fun seconds => (seconds, 0)

/-- Seconds and nanoseconds of a fraction of a unit, which has to come out even; a nanosecond has no fractions. -/
def fractionOfUnit? (unit : TimeUnit) (numerator denominator : Nat) : Option (Nat × Nat) :=
  match unit with
  | .fine size =>
    if size = 1 then none
    else do
      let scaled ← within64? (numerator * size)
      let nanoseconds ← exactly? scaled denominator
      some (0, nanoseconds)
  | .coarse size => do
    let scaled ← within64? (numerator * size)
    let seconds ← exactly? scaled denominator
    some (seconds, 0)

def addUnits? (total : Span) (number : Nat) (fraction : Option (Nat × Nat)) (name : String) :
    Option Span := do
  let unit ← unit? name
  let (seconds, nanoseconds) ← wholeUnits? unit number
  let total ← total.add? seconds nanoseconds
  match fraction with
  | none => some total
  | some (numerator, denominator) =>
    let (seconds, nanoseconds) ← fractionOfUnit? unit numerator denominator
    total.add? seconds nanoseconds

inductive Reading where
  | nothing (first : Bool)
  | whole (number : Nat)
  | fraction (number numerator denominator : Nat)
  | unit (number : Nat) (fraction : Option (Nat × Nat)) (letters : List Char)
deriving DecidableEq, Repr

def isLetter (c : Char) : Bool :=
  ('a' ≤ c && c ≤ 'z') || ('A' ≤ c && c ≤ 'Z') || c == 'µ'

def digit (c : Char) : Nat :=
  c.toNat - '0'.toNat

/-- Reads one more character. Blanks may stand between digits and around units. -/
def read? (state : Reading × Span) (c : Char) : Option (Reading × Span) :=
  let (reading, total) := state
  match reading with
  | .nothing first =>
    if Text.isDigit c then some (.whole (digit c), total)
    else if Text.isBlank c then some (.nothing first, total)
    else none
  | .whole number =>
    if Text.isDigit c then do
      let number ← within64? (number * 10 + digit c)
      some (.whole number, total)
    else if Text.isBlank c then some (.whole number, total)
    else if isLetter c then some (.unit number none [c], total)
    else if c = '.' then some (.fraction number 0 1, total)
    else none
  | .fraction number numerator denominator =>
    if Text.isDigit c then do
      let denominator ← within64? (denominator * 10)
      let numerator ← within64? (numerator * 10 + digit c)
      some (.fraction number numerator denominator, total)
    else if Text.isBlank c then some (.fraction number numerator denominator, total)
    else if isLetter c && denominator != 1 then
      some (.unit number (some (numerator, denominator)) [c], total)
    else none
  | .unit number fraction letters =>
    if isLetter c then some (.unit number fraction (c :: letters), total)
    else do
      let total ← total.addUnits? number fraction (String.ofList letters.reverse)
      if Text.isDigit c then some (.whole (digit c), total)
      else if Text.isBlank c then some (.nothing false, total)
      else none

def finish? (state : Reading × Span) : Option Span :=
  match state.1 with
  | .nothing first => if first then none else some state.2
  | .unit number fraction letters =>
    state.2.addUnits? number fraction (String.ofList letters.reverse)
  | _ => none

def parse? (text : String) : Option Span :=
  if text = "0" then some zero
  else text.toList.foldlM read? (.nothing true, zero) >>= finish?

def parts (span : Span) : List String :=
  let seconds := span.nanoseconds / 1000000000
  let nanoseconds := span.nanoseconds % 1000000000
  let plural (name : String) (count : Nat) : String × Nat :=
    (if count = 1 then name else name ++ "s", count)
  let inYear := seconds % 31557600
  let inMonth := inYear % 2630016
  let inDay := inMonth % 86400
  ([plural "year" (seconds / 31557600), plural "month" (inYear / 2630016),
    plural "day" (inMonth / 86400), ("h", inDay / 3600), ("m", inDay / 60 % 60), ("s", inDay % 60),
    ("ms", nanoseconds / 1000000), ("us", nanoseconds / 1000 % 1000), ("ns", nanoseconds % 1000)].filter
      fun part => part.2 != 0).map fun part => toString part.2 ++ part.1

def text (span : Span) : String :=
  if span.nanoseconds = 0 then "0s" else " ".intercalate span.parts

end Span

end Registrar.Time
