import Registrar.Json.Decode

/-!
Pages of a listing and their JSON form.
-/

namespace Registrar

/-- The page size asked for, and whether rows remain beyond the page in the direction of travel. -/
structure PageInfo where
  limit : Nat
  hasMore : Bool
deriving DecidableEq, Repr

structure Page (α : Type) where
  items : List α
  info : PageInfo
deriving DecidableEq, Repr

namespace Page

def empty {α : Type} (limit : Nat) : Page α :=
  ⟨[], ⟨limit, false⟩⟩

def first? {α : Type} (page : Page α) : Option α :=
  page.items.head?

def last? {α : Type} (page : Page α) : Option α :=
  page.items.getLast?

def map {α β : Type} (f : α → β) (page : Page α) : Page β :=
  ⟨page.items.map f, page.info⟩

def readInfo (name : String) (document : Document) (info : PageInfo) : Except Misfit PageInfo := do
  if name = "limit" then return { info with limit := ← document.asNat 64 }
  else return { info with hasMore := ← document.asBool }

def decodeInfo (document : Document) : Except Misfit PageInfo :=
  document.asRecord ⟨"PageInfo", ["limit", "hasMore"], ["limit", "hasMore"], false⟩ readInfo ⟨0, false⟩

def readItems : Document → Except Misfit (List Json)
  | .arr items closed =>
    match (Document.arr items closed).json? with
    | some (.arr values) => .ok values
    | _ => .error .unreadable
  | other => .error (other.mistyped "a sequence")

def readField (name : String) (document : Document) (page : Page Json) :
    Except Misfit (Page Json) := do
  if name = "items" then return { page with items := ← readItems document }
  else return { page with info := ← decodeInfo document }

def decode (document : Document) : Except Misfit (Page Json) :=
  document.asRecord ⟨"Page", ["items", "pageInfo"], ["items", "pageInfo"], false⟩ readField (empty 0)

def infoJson (info : PageInfo) : Json :=
  .obj [("limit", .int info.limit), ("hasMore", .bool info.hasMore)]

def json (page : Page Json) : Json :=
  .obj [("items", .arr page.items), ("pageInfo", infoJson page.info)]

end Page

end Registrar
