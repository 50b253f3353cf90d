import Registrar.Time.Instant

/-!
Typed values of sort fields: null, text and instants, with the total order that listings use.
-/

namespace Registrar

open Time

inductive Kind where
  | text
  | instant
deriving DecidableEq, Repr

def Kind.name : Kind → String
  | .text => "string"
  | .instant => "timestamp"

inductive Value where
  | null
  | text (content : String)
  | instant (moment : Instant)
deriving DecidableEq, Repr

namespace Value

def isNull : Value → Bool
  | .null => true
  | _ => false

def kind? : Value → Option Kind
  | .null => none
  | .text _ => some .text
  | .instant _ => some .instant

/-- Null comes before every value, texts compare by code point, instants by time, and any text comes before any instant. -/
def cmp : Value → Value → Ordering
  | .null, .null => .eq
  | .null, _ => .lt
  | .text _, .null => .gt
  | .text a, .text b => compare a b
  | .text _, .instant _ => .lt
  | .instant _, .null => .gt
  | .instant _, .text _ => .gt
  | .instant a, .instant b => a.cmp b

def raw? : Value → Option String
  | .null => none
  | .text content => some content
  | .instant moment => some moment.text

def display (value : Value) : String :=
  value.raw?.getD "null"

end Value

def Kind.parse (kind : Kind) (raw : String) : Except String Value :=
  match kind with
  | .text => .ok (.text raw)
  | .instant =>
    match Instant.read raw with
    | .ok moment => .ok (.instant moment)
    | .error fault => .error s!"expected an RFC 3339 timestamp, got '{raw}' ({fault.message})"

end Registrar
