import Registrar.Decimal.Text
import Registrar.Json.Overlay
import Registrar.Text.Blank

/-!
Settings in environment variables. The name of a variable is the path of a setting, such as
`APP__SERVER__PORT`; its value is typed by its shape.
-/

namespace Registrar.Settings

open Text

namespace Variable

def isSpace (c : Char) : Bool :=
  c = ' ' || c = '\t' || c = '\n' || c = '\r' || c.toNat = 12

def skipSpace (text : List Char) : List Char :=
  text.dropWhile isSpace

def isSeparator (c : Char) : Bool :=
  ",[]\x7b\x7d".toList.contains c

/-- The value that a text without separators writes: an integer of 64 bits, a number with a point in it, or the text itself. -/
def plain (text : String) : Json :=
  let number? := readInteger? text.toList
  match if '.' ∈ text.toList then Decimal.read? text.toList else none, number? with
  | some number, _ => .real number
  | none, some number => if -(Nat.pow 2 63) ≤ number ∧ number < Nat.pow 2 64 then .int number else .str text
  | none, none => .str text

def quoted? (done : List Char) : List Char → Option (String × List Char)
  | [] => none
  | '"' :: rest => some (String.ofList done.reverse, rest)
  | '\\' :: 'b' :: rest => quoted? (Char.ofNat 8 :: done) rest
  | '\\' :: 't' :: rest => quoted? ('\t' :: done) rest
  | '\\' :: 'n' :: rest => quoted? ('\n' :: done) rest
  | '\\' :: 'f' :: rest => quoted? (Char.ofNat 12 :: done) rest
  | '\\' :: 'r' :: rest => quoted? ('\r' :: done) rest
  | '\\' :: '"' :: rest => quoted? ('"' :: done) rest
  | '\\' :: '\\' :: rest => quoted? ('\\' :: done) rest
  | '\\' :: _ => none
  | c :: rest => quoted? (c :: done) rest

def character? : List Char → Option (String × List Char)
  | mark :: c :: closing :: rest => if mark.toNat = 39 ∧ closing.toNat = 39 then some (String.ofList [c], rest) else none
  | _ => none

def name? (text : List Char) : Option (String × List Char) := do
  let isNameChar (c : Char) : Bool := c.isAlphanum || c = '_' || c = '-'
  let text := skipSpace text
  let (name, rest) ←
    match text with
    | '"' :: rest => quoted? [] rest
    | _ =>
      let name := text.takeWhile isNameChar
      if name.isEmpty then none else some (String.ofList name, text.dropWhile isNameChar)
  match skipSpace rest with
  | '=' :: rest => some (name, rest)
  | _ => none

mutual

/-- Reads a value at the front of the text, and the blanks around it. Every step into a part takes up fuel. -/
def value? : Nat → List Char → Option (Json × List Char)
  | 0, _ => none
  | fuel + 1, text =>
    let text := skipSpace text
    let read : Option (Json × List Char) :=
      match text with
      | '[' :: rest => (items? fuel rest).map fun found => (.arr found.1, found.2)
      | '\x7b' :: rest => (members? fuel rest).map fun found => (.obj found.1, found.2)
      | '"' :: rest => (quoted? [] rest).map fun found => (.str found.1, found.2)
      | 't' :: 'r' :: 'u' :: 'e' :: rest => some (.bool true, rest)
      | 'f' :: 'a' :: 'l' :: 's' :: 'e' :: rest => some (.bool false, rest)
      | c :: rest =>
        if c.toNat = 39 then (character? (c :: rest)).map fun found => (.str found.1, found.2)
        else
          let bare := (c :: rest).takeWhile fun c => !isSeparator c
          some (plain (trim (String.ofList bare)), (c :: rest).dropWhile fun c => !isSeparator c)
      | [] => some (.str "", [])
    read.map fun found => (found.1, skipSpace found.2)

def items? : Nat → List Char → Option (List Json × List Char)
  | 0, _ => none
  | _ + 1, ']' :: rest => some ([], rest)
  | fuel + 1, text => do
    let (item, rest) ← value? fuel text
    match rest with
    | ']' :: rest => some ([item], rest)
    | ',' :: rest =>
      let (items, rest) ← items? fuel rest
      some (item :: items, rest)
    | _ => none

def members? : Nat → List Char → Option (List (String × Json) × List Char)
  | 0, _ => none
  | _ + 1, '\x7d' :: rest => some ([], rest)
  | fuel + 1, text => do
    let (name, rest) ← name? text
    let (value, rest) ← value? fuel rest
    match rest with
    | '\x7d' :: rest => some ([(name, value)], rest)
    | ',' :: rest =>
      let (members, rest) ← members? fuel rest
      some ((name, value) :: members, rest)
    | _ => none

end

/-- The value that a text stands for; one that is not well formed stands for itself. -/
def value (text : String) : Json :=
  match value? (text.length + 1) text.toList with
  | some (found, []) => found
  | _ => .str text

def afterLead? (name : String) : Option String :=
  let lead := "app__".toList
  let chars := (trim name).toList
  if (chars.take lead.length).map asciiLower = lead then some (String.ofList (chars.drop lead.length))
  else none

/-- The path that the name of a variable writes, in lower case; two underscores or a dot stand between its parts, none of which is empty. -/
def path? (name : String) : Option (List String) := do
  let rest ← afterLead? name
  let dotted := trim (".".intercalate (rest.splitOn "__"))
  let parts := (split '.' dotted).map fun part => part.map asciiLower
  if parts.any String.isEmpty then none else some parts

end Variable

/-- The settings that the variables make, those of later ones laid over those of earlier ones. -/
def ofEnvironment (environment : List (String × String)) : Json :=
  environment.foldl (fun settings entry =>
    match Variable.path? entry.1 with
    | some path => settings.overlay (Json.nest path (Variable.value entry.2))
    | none => settings) (.obj [])

end Registrar.Settings
