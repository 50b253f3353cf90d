import Registrar.Decimal.Binary
import Registrar.Text.Search

/-!
Reading JSON texts. The text is cut into tokens, and a machine with a stack of open arrays and
objects builds the document from them; at the first token that does not fit, all that is open is
left unclosed.
-/

namespace Registrar.Document

open Text

inductive Token where
  | beginArray
  | endArray
  | beginObject
  | endObject
  | colon
  | comma
  | scalar (value : Document)
  | text (content : String)
  | junk

def codeUnit? (a b c d : Char) : Option Nat := do
  let a ← hexDigit? a
  let b ← hexDigit? b
  let c ← hexDigit? c
  let d ← hexDigit? d
  some (((a * 16 + b) * 16 + c) * 16 + d)

def isHighSurrogate (unit : Nat) : Bool :=
  0xD800 ≤ unit && unit ≤ 0xDBFF

def isLowSurrogate (unit : Nat) : Bool :=
  0xDC00 ≤ unit && unit ≤ 0xDFFF

def simpleEscape? (c : Char) : Option Char :=
  match c with
  | '"' => some '"'
  | '\\' => some '\\'
  | '/' => some '/'
  | 'b' => some (Char.ofNat 8)
  | 'f' => some (Char.ofNat 12)
  | 'n' => some '\n'
  | 'r' => some '\r'
  | 't' => some '\t'
  | _ => none

/-- Reads a string after its opening quote; `done` holds the characters read so far, latest first. Control characters, unknown escapes and lone surrogates are refused. -/
def stringToken? (done : List Char) : List Char → Option (String × List Char)
  | [] => none
  | '"' :: rest => some (String.ofList done.reverse, rest)
  | '\\' :: 'u' :: a :: b :: c :: d :: rest =>
    match codeUnit? a b c d with
    | none => none
    | some unit =>
      if isHighSurrogate unit then
        match rest with
        | '\\' :: 'u' :: e :: f :: g :: h :: rest =>
          match codeUnit? e f g h with
          | none => none
          | some low =>
            if isLowSurrogate low then
              stringToken? (Char.ofNat (0x10000 + (unit - 0xD800) * 0x400 + (low - 0xDC00)) :: done) rest
            else none
        | _ => none
      else if isLowSurrogate unit then none
      else stringToken? (Char.ofNat unit :: done) rest
  | '\\' :: c :: rest =>
    match simpleEscape? c with
    | some escaped => stringToken? (escaped :: done) rest
    | none => none
  | c :: rest => if c.toNat < 0x20 || c == '\\' then none else stringToken? (c :: done) rest

def digitRun (chars : List Char) : List Char × List Char :=
  (chars.takeWhile isDigit, chars.dropWhile isDigit)

def wholeDigits? (chars : List Char) : Option (List Char × List Char) :=
  match digitRun chars with
  | ([], _) => none
  | ('0' :: _ :: _, _) => none
  | run => some run

def fractionDigits? : List Char → Option (Option (List Char) × List Char)
  | '.' :: rest =>
    match digitRun rest with
    | ([], _) => none
    | (digits, rest) => some (some digits, rest)
  | rest => some (none, rest)

def exponentValue? (chars : List Char) : Option (Int × List Char) :=
  let (negative, chars) :=
    match chars with
    | '-' :: rest => (true, rest)
    | '+' :: rest => (false, rest)
    | rest => (false, rest)
  match digitRun chars with
  | ([], _) => none
  | (digits, rest) =>
    let size : Int := digitsValue digits
    some (if negative then -size else size, rest)

def exponent? : List Char → Option (Option Int × List Char)
  | 'e' :: rest => (exponentValue? rest).map fun read => (some read.1, read.2)
  | 'E' :: rest => (exponentValue? rest).map fun read => (some read.1, read.2)
  | rest => some (none, rest)

/-- Whether an integer fits 64 bits; a negative zero does not. -/
def fits64 (negative : Bool) (size : Nat) : Bool :=
  if negative then 0 < size && size ≤ Nat.pow 2 63 else size < Nat.pow 2 64

def number? (chars : List Char) : Option (Document × List Char) := do
  let (negative, chars) :=
    match chars with
    | '-' :: rest => (true, rest)
    | rest => (false, rest)
  let (whole, rest) ← wholeDigits? chars
  let (fraction, rest) ← fractionDigits? rest
  let (exponent, rest) ← exponent? rest
  if fraction.isNone && exponent.isNone && fits64 negative (digitsValue whole) then
    let size : Int := digitsValue whole
    return (.int (if negative then -size else size), rest)
  else
    let digits := digitsValue (whole ++ fraction.getD [])
    let places : Int := (fraction.getD []).length
    let number : Decimal := ⟨negative, digits, exponent.getD 0 - places⟩
    if number.isFinite then some (.real number, rest) else none

def token (chars : List Char) : Token × List Char :=
  match chars with
  | '[' :: rest => (.beginArray, rest)
  | ']' :: rest => (.endArray, rest)
  | '\x7b' :: rest => (.beginObject, rest)
  | '\x7d' :: rest => (.endObject, rest)
  | ':' :: rest => (.colon, rest)
  | ',' :: rest => (.comma, rest)
  | 'n' :: 'u' :: 'l' :: 'l' :: rest => (.scalar .null, rest)
  | 't' :: 'r' :: 'u' :: 'e' :: rest => (.scalar (.bool true), rest)
  | 'f' :: 'a' :: 'l' :: 's' :: 'e' :: rest => (.scalar (.bool false), rest)
  | '"' :: rest =>
    match stringToken? [] rest with
    | some (content, rest) => (.text content, rest)
    | none => (.junk, [])
  | rest =>
    match number? rest with
    | some (number, rest) => (.scalar number, rest)
    | none => (.junk, [])

def isBlank (c : Char) : Bool :=
  c == ' ' || c == '\n' || c == '\t' || c == '\r'

/-- The tokens of the text, as far as `fuel` allows; every token takes at least one character. -/
def tokensUpTo : Nat → List Char → List Token
  | 0, _ => []
  | fuel + 1, chars =>
    match chars.dropWhile isBlank with
    | [] => []
    | c :: rest =>
      let (first, rest) := token (c :: rest)
      first :: tokensUpTo fuel rest

def tokens (text : String) : List Token :=
  tokensUpTo text.length text.toList

/-- An array or an object that is still open; its parts are kept latest first. -/
inductive Frame where
  | array (items : List Document)
  | object (members : List (String × Document)) (key : Option String)

namespace Frame

def fill (part : Document) : Frame → Frame
  | .array items => .array (part :: items)
  | .object members (some key) => .object ((key, part) :: members) none
  | .object members none => .object members none

def document (closed : Bool) : Frame → Document
  | .array items => .arr items.reverse closed
  | .object members _ => .obj members.reverse closed

end Frame

inductive Expect where
  | value
  | valueOrEnd
  | key
  | keyOrEnd
  | colon
  | separator
  | nothing
deriving DecidableEq

def leaveOpen (inner : Document) (frames : List Frame) : Document :=
  frames.foldl (fun part frame => (frame.fill part).document false) inner

def breakOff (expect : Expect) (frames : List Frame) (root : Document) : Document :=
  match expect, frames with
  | .nothing, _ => root
  | .value, frames => leaveOpen .broken frames
  | .colon, frames => leaveOpen .broken frames
  | _, [] => .broken
  | _, frame :: frames => leaveOpen (frame.document false) frames

structure Reading where
  document : Document
  complete : Bool

/-- Runs the machine over the tokens. A finished part goes into the innermost frame, or is the whole document when none is open. -/
def build (expect : Expect) (frames : List Frame) (root : Document) : List Token → Reading
  | [] => ⟨breakOff expect frames root, expect == .nothing⟩
  | next :: rest =>
    let finish (part : Document) (frames : List Frame) : Reading :=
      match frames with
      | [] => build .nothing [] part rest
      | frame :: frames => build .separator (frame.fill part :: frames) root rest
    match expect, next, frames with
    | .value, .scalar part, _ => finish part frames
    | .valueOrEnd, .scalar part, _ => finish part frames
    | .value, .text content, _ => finish (.str content) frames
    | .valueOrEnd, .text content, _ => finish (.str content) frames
    | .value, .beginArray, _ => build .valueOrEnd (.array [] :: frames) root rest
    | .valueOrEnd, .beginArray, _ => build .valueOrEnd (.array [] :: frames) root rest
    | .value, .beginObject, _ => build .keyOrEnd (.object [] none :: frames) root rest
    | .valueOrEnd, .beginObject, _ => build .keyOrEnd (.object [] none :: frames) root rest
    | .valueOrEnd, .endArray, frame :: frames => finish (frame.document true) frames
    | .keyOrEnd, .endObject, frame :: frames => finish (frame.document true) frames
    | .keyOrEnd, .text key, .object members _ :: frames =>
      build .colon (.object members (some key) :: frames) root rest
    | .key, .text key, .object members _ :: frames =>
      build .colon (.object members (some key) :: frames) root rest
    | .colon, .colon, _ => build .value frames root rest
    | .separator, .comma, .array items :: frames => build .value (.array items :: frames) root rest
    | .separator, .comma, .object members key :: frames =>
      build .key (.object members key :: frames) root rest
    | .separator, .endArray, .array items :: frames =>
      finish ((Frame.array items).document true) frames
    | .separator, .endObject, .object members key :: frames =>
      finish ((Frame.object members key).document true) frames
    | _, _, _ => ⟨breakOff expect frames root, false⟩

def read (text : String) : Reading :=
  build .value [] .broken (tokens text)

end Registrar.Document

namespace Registrar.Json

def parse? (text : String) : Option Json :=
  let reading := Document.read text
  if reading.complete then reading.document.json? else none

end Registrar.Json
