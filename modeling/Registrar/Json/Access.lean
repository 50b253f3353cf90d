import Registrar.Json.Basic

/-!
Reading the parts of a JSON value, and changing the texts in it.
-/

namespace Registrar.Json

def field (value : Json) (name : String) : Json :=
  (value.get? name).getD .null

def isNull : Json → Bool
  | .null => true
  | _ => false

def toText : Json → Except String String
  | .str content => .ok content
  | _ => .error "text expected"

def toTextOrNull : Json → Except String (Option String)
  | .null => .ok none
  | .str content => .ok (some content)
  | _ => .error "text or null expected"

def toNat : Json → Except String Nat
  | .int number => if number < 0 then .error "count expected" else .ok number.toNat
  | _ => .error "count expected"

def toNatOrNull : Json → Except String (Option Nat)
  | .null => .ok none
  | other => some <$> other.toNat

def toBool (default : Bool) : Json → Except String Bool
  | .null => .ok default
  | .bool flag => .ok flag
  | _ => .error "flag expected"

def toItems : Json → Except String (List Json)
  | .arr items => .ok items
  | .null => .ok []
  | _ => .error "list expected"

def toMembers : Json → Except String (List (String × Json))
  | .obj members => .ok members
  | .null => .ok []
  | _ => .error "object expected"

def toTexts (value : Json) : Except String (List String) := do
  (← value.toItems).mapM toText

def textOf (value : Json) (name : String) : Except String String :=
  (value.field name).toText

def ofNat (n : Nat) : Json :=
  .int n

def ofTexts (texts : List String) : Json :=
  .arr (texts.map .str)

def orNull {α : Type} (form : α → Json) : Option α → Json
  | none => .null
  | some value => form value

mutual

def mapTexts (change : String → String) : Json → Json
  | .str content => .str (change content)
  | .arr items => .arr (mapItems change items)
  | .obj members => .obj (mapMembers change members)
  | other => other

def mapItems (change : String → String) : List Json → List Json
  | [] => []
  | item :: items => item.mapTexts change :: mapItems change items

def mapMembers (change : String → String) : List (String × Json) → List (String × Json)
  | [] => []
  | (name, value) :: members => (name, value.mapTexts change) :: mapMembers change members

end

end Registrar.Json
