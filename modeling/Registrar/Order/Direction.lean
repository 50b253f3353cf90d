import Registrar.Text.Search

/-!
The two orders of a listing and the two directions in which it is paged through.
-/

namespace Registrar

inductive SortOrder where
  | asc
  | desc
deriving DecidableEq, Repr

namespace SortOrder

def reverse : SortOrder → SortOrder
  | .asc => .desc
  | .desc => .asc

def name : SortOrder → String
  | .asc => "asc"
  | .desc => "desc"

def ofName? (raw : String) : Option SortOrder :=
  if raw = "asc" then some .asc else if raw = "desc" then some .desc else none

def parse (raw : String) : Except String SortOrder :=
  if Text.sameIgnoringAsciiCase raw "asc" then .ok .asc
  else if Text.sameIgnoringAsciiCase raw "desc" then .ok .desc
  else .error s!"expected 'asc' or 'desc', got '{raw}'"

@[simp]
theorem reverse_reverse (order : SortOrder) : order.reverse.reverse = order := by
  cases order <;> rfl

end SortOrder

/-- The side of the cursor a page lies on. -/
inductive Direction where
  | after
  | before
deriving DecidableEq, Repr

def Direction.marker : Direction → String
  | .after => "after"
  | .before => "before"

def Direction.ofMarker? (marker : String) : Option Direction :=
  if marker = "after" then some .after else if marker = "before" then some .before else none

end Registrar
