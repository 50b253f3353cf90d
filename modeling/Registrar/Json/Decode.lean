import Registrar.Decimal.Binary
import Registrar.Text.Quoted

/-!
Decoding of documents into records. A record may be written as an object or as a list of its fields
in declared order. Faults are found in the order of the text, so one in a field comes before the
point where the text breaks off later.
-/

namespace Registrar

inductive Misfit where
  /-- The text breaks off, or goes on after the value. -/
  | unreadable
  /-- The list has more items than the record has fields. -/
  | surplus (count : Nat)
  /-- The part at `path` is wrong; the path of the whole is empty. -/
  | unfit (path reason : String)
deriving DecidableEq, Repr

namespace Misfit

def wrongType (found wanted : String) : Misfit :=
  .unfit "" s!"invalid type: {found}, expected {wanted}"

def wrongValue (found wanted : String) : Misfit :=
  .unfit "" s!"invalid value: {found}, expected {wanted}"

def ticked (name : String) : String :=
  "`" ++ name ++ "`"

def choice : List String → String
  | [] => "there are no fields"
  | [name] => "expected " ++ ticked name
  | [name, other] => "expected " ++ ticked name ++ " or " ++ ticked other
  | names => "expected one of " ++ ", ".intercalate (names.map ticked)

def unknownField (name : String) (known : List String) : Misfit :=
  .unfit name ("unknown field " ++ ticked name ++ ", " ++ choice known)

def duplicateField (name : String) : Misfit :=
  .unfit "" ("duplicate field " ++ ticked name)

def missingField (name : String) : Misfit :=
  .unfit "" ("missing field " ++ ticked name)

def within (part : String) : Misfit → Misfit
  | .unfit path reason => .unfit (if path.isEmpty then part else part ++ "." ++ path) reason
  | other => other

def message : Misfit → String
  | .unreadable => "the text breaks off"
  | .surplus count => s!"invalid length {count}, expected fewer elements in array"
  | .unfit _ reason => reason

end Misfit

namespace Document

def describe : Document → String
  | .null => "null"
  | .bool flag => "boolean " ++ Misfit.ticked (if flag then "true" else "false")
  | .int number => "integer " ++ Misfit.ticked (toString number)
  | .real number => "floating point " ++ Misfit.ticked number.shown
  | .str content => "string " ++ Text.quoted content
  | .arr .. => "sequence"
  | .obj .. => "map"
  | .broken => "nothing"

def mistyped (document : Document) (wanted : String) : Misfit :=
  match document with
  | .broken => .unreadable
  | other => .wrongType other.describe wanted

def asText : Document → Except Misfit String
  | .str content => .ok content
  | other => .error (other.mistyped "a string")

def asTextOrNull : Document → Except Misfit (Option String)
  | .null => .ok none
  | .str content => .ok (some content)
  | other => .error (other.mistyped "a string")

def asBool : Document → Except Misfit Bool
  | .bool flag => .ok flag
  | other => .error (other.mistyped "a boolean")

def asNat (bits : Nat) : Document → Except Misfit Nat
  | .int number =>
    if 0 ≤ number ∧ number < Nat.pow 2 bits then .ok number.toNat
    else .error (.wrongValue (Document.int number).describe s!"u{bits}")
  | other => .error (other.mistyped s!"u{bits}")

/-- How a record is written: the name of its type, its fields in declared order, those that must be present, and whether other names are refused. -/
structure RecordShape where
  type : String
  fields : List String
  required : List String
  strict : Bool

def RecordShape.incomplete (shape : RecordShape) (listed : Bool) (name : String) : Misfit :=
  if listed then
    .unfit "" (s!"invalid length {shape.fields.idxOf name}, expected struct {shape.type} with " ++
      s!"{shape.fields.length} elements")
  else .missingField name

/-- Reads the members of an object into a record. A name that is unknown or repeated is refused before its value is looked at. -/
def readMembers {σ : Type} (shape : RecordShape) (read : String → Document → σ → Except Misfit σ)
    (closed : Bool) (seen : List String) (record : σ) :
    List (String × Document) → Except Misfit (σ × List String)
  | [] => if closed then .ok (record, seen) else .error .unreadable
  | (name, value) :: members =>
    if name ∉ shape.fields then
      if shape.strict then .error (.unknownField name shape.fields)
      else readMembers shape read closed seen record members
    else if name ∈ seen then .error (.duplicateField name)
    else
      match read name value record with
      | .error fault => .error (fault.within name)
      | .ok record => readMembers shape read closed (name :: seen) record members

def readItems {σ : Type} (read : String → Document → σ → Except Misfit σ)
    (closed : Bool) (total : Nat) (place : Nat) (seen : List String) (record : σ) :
    List String → List Document → Except Misfit (σ × List String)
  | _, [] => if closed then .ok (record, seen) else .error .unreadable
  | [], _ :: _ => .error (.surplus total)
  | name :: names, item :: items =>
    match read name item record with
    | .error fault => .error (fault.within s!"[{place}]")
    | .ok record => readItems read closed total (place + 1) (name :: seen) record names items

def requireFields {σ : Type} (shape : RecordShape) (listed : Bool) (found : σ × List String) :
    Except Misfit σ :=
  match shape.required.find? (· ∉ found.2) with
  | some name => .error (shape.incomplete listed name)
  | none => .ok found.1

def asRecord {σ : Type} (shape : RecordShape) (read : String → Document → σ → Except Misfit σ)
    (start : σ) : Document → Except Misfit σ
  | .obj members closed =>
    readMembers shape read closed [] start members >>= requireFields shape false
  | .arr items closed =>
    readItems read closed items.length 0 [] start shape.fields items >>= requireFields shape true
  | other => .error (other.mistyped ("struct " ++ shape.type))

end Document

end Registrar
