/-!
JSON values and documents. A document is a JSON text as far as it is well formed: an array or an
object whose text breaks off keeps the parts read before that point. Values are the documents that
do not break off.
-/

namespace Registrar

structure Decimal where
  negative : Bool
  digits : Nat
  exponent : Int
deriving DecidableEq, Repr

/-- A JSON value. Numbers without fraction and exponent that fit 64 bits are integers, all others are decimals. Members keep the order of the text. -/
inductive Json where
  | null
  | bool (flag : Bool)
  | int (number : Int)
  | real (number : Decimal)
  | str (content : String)
  | arr (items : List Json)
  | obj (members : List (String × Json))
deriving Inhabited

/-- A JSON text read up to the first character that no JSON text can have there. -/
inductive Document where
  | null
  | bool (flag : Bool)
  | int (number : Int)
  | real (number : Decimal)
  | str (content : String)
  | arr (items : List Document) (closed : Bool)
  | obj (members : List (String × Document)) (closed : Bool)
  | broken

mutual

def Json.document : Json → Document
  | .null => .null
  | .bool flag => .bool flag
  | .int number => .int number
  | .real number => .real number
  | .str content => .str content
  | .arr items => .arr (Json.documents items) true
  | .obj members => .obj (Json.memberDocuments members) true

def Json.documents : List Json → List Document
  | [] => []
  | item :: items => item.document :: Json.documents items

def Json.memberDocuments : List (String × Json) → List (String × Document)
  | [] => []
  | (name, value) :: members => (name, value.document) :: Json.memberDocuments members

end

mutual

def Document.json? : Document → Option Json
  | .null => some .null
  | .bool flag => some (.bool flag)
  | .int number => some (.int number)
  | .real number => some (.real number)
  | .str content => some (.str content)
  | .arr items closed => do
    let values ← Document.jsons? items
    if closed then some (.arr values) else none
  | .obj members closed => do
    let values ← Document.memberJsons? members
    if closed then some (.obj values) else none
  | .broken => none

def Document.jsons? : List Document → Option (List Json)
  | [] => some []
  | item :: items => do
    let value ← item.json?
    let values ← Document.jsons? items
    some (value :: values)

def Document.memberJsons? : List (String × Document) → Option (List (String × Json))
  | [] => some []
  | (name, item) :: members => do
    let value ← item.json?
    let values ← Document.memberJsons? members
    some ((name, value) :: values)

end

namespace Json

/-- The member of an object with this name, the last one if there are several. -/
def get? (value : Json) (name : String) : Option Json :=
  match value with
  | .obj members => members.reverse.lookup name
  | _ => none

end Json

end Registrar
