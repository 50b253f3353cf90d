/-!
Octets as characters in UTF-8. An ill-formed sequence is cut into the longest parts that could have
begun a character, and every part stands for one fault.
-/

namespace Registrar.Text.Utf8

/-- A character of which some octets have been read: their value, how many are missing, and the range of the next one. -/
structure Begun where
  value : Nat
  missing : Nat
  least : UInt8
  greatest : UInt8

inductive Opening where
  | whole (c : Char)
  | begun (part : Begun)
  | fault

/-- Overlong forms, surrogates and values beyond the last character are excluded by the range of the second octet. -/
def opening (octet : UInt8) : Opening :=
  if octet < 0x80 then .whole (Char.ofNat octet.toNat)
  else if octet < 0xC2 then .fault
  else if octet < 0xE0 then .begun ⟨octet.toNat - 0xC0, 1, 0x80, 0xBF⟩
  else if octet = 0xE0 then .begun ⟨0, 2, 0xA0, 0xBF⟩
  else if octet = 0xED then .begun ⟨0xD, 2, 0x80, 0x9F⟩
  else if octet < 0xF0 then .begun ⟨octet.toNat - 0xE0, 2, 0x80, 0xBF⟩
  else if octet = 0xF0 then .begun ⟨0, 3, 0x90, 0xBF⟩
  else if octet < 0xF4 then .begun ⟨octet.toNat - 0xF0, 3, 0x80, 0xBF⟩
  else if octet = 0xF4 then .begun ⟨4, 3, 0x80, 0x8F⟩
  else .fault

def start (octet : UInt8) : List (Option Char) × Option Begun :=
  match opening octet with
  | .whole c => ([some c], none)
  | .begun part => ([], some part)
  | .fault => ([none], none)

def advance (begun : Option Begun) (octet : UInt8) : List (Option Char) × Option Begun :=
  match begun with
  | none => start octet
  | some part =>
    if part.least ≤ octet && octet ≤ part.greatest then
      let value := part.value * 64 + (octet.toNat - 0x80)
      if part.missing = 1 then ([some (Char.ofNat value)], none)
      else ([], some ⟨value, part.missing - 1, 0x80, 0xBF⟩)
    else
      let (settled, next) := start octet
      (none :: settled, next)

/-- The characters of the octets, none standing for a fault; `begun` is the character in progress. -/
def units (begun : Option Begun) : List UInt8 → List (Option Char)
  | [] => if begun.isSome then [none] else []
  | octet :: rest =>
    let (settled, next) := advance begun octet
    settled ++ units next rest

def lossy (octets : List UInt8) : String :=
  String.ofList ((units none octets).map fun unit => unit.getD (Char.ofNat 0xFFFD))

def decode? (octets : List UInt8) : Option String :=
  ((units none octets).mapM id).map String.ofList

end Registrar.Text.Utf8
