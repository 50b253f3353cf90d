import Registrar.Json.Basic

/-!
JSON texts of values, without blanks between tokens.
-/

namespace Registrar.Json

def hexChar (digit : Nat) : Char :=
  if digit < 10 then Char.ofNat (48 + digit) else Char.ofNat (87 + digit)

def escapeChar (c : Char) : List Char :=
  if c == '"' then ['\\', '"']
  else if c == '\\' then ['\\', '\\']
  else if c == '\n' then ['\\', 'n']
  else if c == '\r' then ['\\', 'r']
  else if c == '\t' then ['\\', 't']
  else if c.toNat == 8 then ['\\', 'b']
  else if c.toNat == 12 then ['\\', 'f']
  else if c.toNat < 0x20 then ['\\', 'u', '0', '0', hexChar (c.toNat / 16), hexChar (c.toNat % 16)]
  else [c]

def quoted (content : String) : String :=
  "\"" ++ String.ofList (content.toList.flatMap escapeChar) ++ "\""

def decimalText (number : Decimal) : String :=
  (if number.negative then "-" else "") ++ toString number.digits ++
    (if number.exponent = 0 then ".0" else "e" ++ toString number.exponent)

mutual

def text : Json → String
  | .null => "null"
  | .bool flag => if flag then "true" else "false"
  | .int number => toString number
  | .real number => decimalText number
  | .str content => quoted content
  | .arr items => "[" ++ itemsText true items ++ "]"
  | .obj members => "\x7b" ++ membersText true members ++ "\x7d"

def itemsText (first : Bool) : List Json → String
  | [] => ""
  | item :: items => (if first then "" else ",") ++ item.text ++ itemsText false items

def membersText (first : Bool) : List (String × Json) → String
  | [] => ""
  | (name, value) :: members =>
    (if first then "" else ",") ++ quoted name ++ ":" ++ value.text ++ membersText false members

end

end Registrar.Json
