import Registrar.Decimal.Binary
import Registrar.Decimal.Text
import Registrar.Json.Basic
import Registrar.Text.Search

/-!
YAML scalars: what a plain scalar stands for, and the texts of quoted ones.
-/

namespace Registrar.Yaml

open Text

def digit? (base : Nat) (c : Char) : Option Nat :=
  (hexDigit? c).bind fun digit => if digit < base then some digit else none

/-- An integer without its sign: decimal without zeros in front, or with its base. -/
def magnitude? (text : List Char) : Option Nat :=
  let based (base : Nat) (digits : List Char) : Option Nat :=
    if digits.isEmpty then none
    else (digits.mapM (digit? base)).map (·.foldl (fun value digit => value * base + digit) 0)
  match text with
  | '0' :: 'x' :: digits => based 16 digits
  | '0' :: 'o' :: digits => based 8 digits
  | '0' :: 'b' :: digits => based 2 digits
  | '0' :: _ :: _ => none
  | digits => based 10 digits

def integer? (text : List Char) : Option Int := do
  let (negative, rest) := splitSign text
  let size ← magnitude? rest
  let number : Int := if negative then -size else size
  if -(Nat.pow 2 63) ≤ number ∧ number < Nat.pow 2 64 then some number else none

/-- A number with a point or an exponent. Digits with a zero in front of them are a text. -/
def decimal? (text : List Char) : Option Decimal := do
  let rest := (splitSign text).2
  guard (!(rest.all isDigit && 1 < rest.length && rest.head? == some '0'))
  let number ← Decimal.read? text
  if number.isFinite then some number else none

def plain (text : String) : Json :=
  if text ∈ ["", "~", "null", "Null", "NULL"] then .null
  else if text ∈ ["true", "True", "TRUE"] then .bool true
  else if text ∈ ["false", "False", "FALSE"] then .bool false
  else
    match integer? text.toList, decimal? text.toList with
    | some number, _ => .int number
    | none, some number => .real number
    | none, none => .str text

def escape? (c : Char) : Option Char :=
  ([('0', 0), ('a', 7), ('b', 8), ('t', 9), ('\t', 9), ('n', 10), ('v', 11), ('f', 12), ('r', 13), ('e', 27),
    (' ', 32), ('"', 34), ('/', 47), ('\\', 92), ('N', 0x85), ('_', 0xA0), ('L', 0x2028),
    ('P', 0x2029)].lookup c).map Char.ofNat

def numbered? (width : Nat) (text : List Char) : Option (Char × List Char) := do
  let digits ← (text.take width).mapM hexDigit?
  guard (digits.length = width)
  let number := digits.foldl (fun value digit => value * 16 + digit) 0
  if number.isValidChar then some (Char.ofNat number, text.drop width) else none

/-- Reads a scalar in double quotes after the opening one; `done` holds the characters read so far, latest first. Every step takes up fuel. -/
def doubleQuoted? : Nat → List Char → List Char → Option (String × List Char)
  | 0, _, _ => none
  | _ + 1, _, [] => none
  | _ + 1, done, '"' :: rest => some (String.ofList done.reverse, rest)
  | fuel + 1, done, '\\' :: c :: rest => do
    let (next, rest) ←
      match c with
      | 'x' => numbered? 2 rest
      | 'u' => numbered? 4 rest
      | 'U' => numbered? 8 rest
      | _ => (escape? c).map fun next => (next, rest)
    doubleQuoted? fuel (next :: done) rest
  | fuel + 1, done, c :: rest => doubleQuoted? fuel (c :: done) rest

def apostrophe : Char :=
  Char.ofNat 39

def singleQuoted? (done : List Char) : List Char → Option (String × List Char)
  | [] => none
  | [c] => if c = apostrophe then some (String.ofList done.reverse, []) else none
  | c :: d :: rest =>
    if c ≠ apostrophe then singleQuoted? (c :: done) (d :: rest)
    else if d = apostrophe then singleQuoted? (apostrophe :: done) rest
    else some (String.ofList done.reverse, d :: rest)

def quoted? : List Char → Option (String × List Char)
  | '"' :: rest => doubleQuoted? (rest.length + 1) [] rest
  | c :: rest => if c = apostrophe then singleQuoted? [] rest else none
  | [] => none

def startsQuoted (text : List Char) : Bool :=
  text.head? == some '"' || text.head? == some apostrophe

def isIndicator (c : Char) : Bool :=
  ",[]\x7b\x7d#&*!|>%@".toList.contains c || c = '"' || c = apostrophe || c.toNat = 96

/-- Whether a scalar may start so: with no indicator, and with a dash, a question mark or a colon only when more of it follows at once. -/
def startsPlain : List Char → Bool
  | [] => false
  | c :: rest =>
    if c = '-' || c = '?' || c = ':' then
      match rest with
      | [] => false
      | d :: _ => d ≠ ' '
    else !isIndicator c && c ≠ '\t'

end Registrar.Yaml
