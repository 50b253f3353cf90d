import Registrar.Json.Decode
import Registrar.Registry.Service
import Registrar.Time.Span

/-!
The settings of the record registry: page sizes and the deadline of a listing.
-/

namespace Registrar.Settings

open Time

def readSpan : Document → Except Misfit Span
  | .str text =>
    match Span.parse? text with
    | some span => .ok span
    | none => .error (.wrongValue (Document.str text).describe "a duration")
  | other => .error (other.mistyped "a duration")

def readSpanOrNull : Document → Except Misfit (Option Span)
  | .null => .ok none
  | other => some <$> readSpan other

def spanJson (span : Option Span) : Json :=
  span.elim .null fun span => .str span.text

/-- Page sizes, and how long a listing may take; without a deadline it may take forever. -/
structure ModuleSettings where
  defaultPageSize : Nat
  maxPageSize : Nat
  queryTimeout : Option Span
deriving DecidableEq, Repr

namespace ModuleSettings

def standard : ModuleSettings :=
  ⟨25, 1000, some (.ofSeconds 5)⟩

def readField (name : String) (document : Document) (settings : ModuleSettings) :
    Except Misfit ModuleSettings := do
  if name = "default_page_size" then return { settings with defaultPageSize := ← document.asNat 64 }
  else if name = "max_page_size" then return { settings with maxPageSize := ← document.asNat 64 }
  else return { settings with queryTimeout := ← readSpanOrNull document }

def decode (document : Document) : Except Misfit ModuleSettings :=
  document.asRecord
    ⟨"AuthzDataConfig", ["default_page_size", "max_page_size", "query_timeout"], [], true⟩
    readField standard

def json (settings : ModuleSettings) : Json :=
  .obj [("default_page_size", .int settings.defaultPageSize),
    ("max_page_size", .int settings.maxPageSize),
    ("query_timeout", spanJson settings.queryTimeout)]

inductive PageSizeFault where
  | noRoom
  | outOfRange (max : Nat)
deriving DecidableEq, Repr

def PageSizeFault.message : PageSizeFault → String
  | .noRoom => "max_page_size must be at least 1"
  | .outOfRange max => s!"default_page_size must be between 1 and max_page_size ({max})"

def validate (settings : ModuleSettings) : Except PageSizeFault Unit :=
  if settings.maxPageSize = 0 then .error .noRoom
  else if settings.defaultPageSize = 0 ∨ settings.maxPageSize < settings.defaultPageSize then
    .error (.outOfRange settings.maxPageSize)
  else .ok ()

def limits (settings : ModuleSettings) : LimitPolicy :=
  ⟨settings.defaultPageSize, settings.maxPageSize⟩

def terms (settings : ModuleSettings) : Registry.ListingTerms :=
  ⟨settings.limits, settings.queryTimeout.map Span.nanoseconds⟩

def usableTerms (settings : ModuleSettings) : Except String Registry.ListingTerms :=
  match settings.validate with
  | .ok () => .ok settings.terms
  | .error fault => .error ("invalid authz_data configuration: " ++ fault.message)

end ModuleSettings

end Registrar.Settings
