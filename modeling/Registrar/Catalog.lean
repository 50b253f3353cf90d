import Registrar.ListError
import Registrar.Order.Direction
import Registrar.Value

/-!
Catalogs of sortable fields. A catalog has one identifier field and any number of further fields;
its names are distinct, so a name stands for at most one field.
-/

namespace Registrar

structure FieldSpec where
  name : String
  kind : Kind
  nullable : Bool
deriving DecidableEq, Repr

namespace FieldSpec

def identifier (name : String) : FieldSpec :=
  ⟨name, .text, false⟩

def text (name : String) : FieldSpec :=
  ⟨name, .text, true⟩

def instant (name : String) : FieldSpec :=
  ⟨name, .instant, false⟩

end FieldSpec

inductive SortKey where
  | identifier (field : FieldSpec)
  | attribute (field : FieldSpec)
deriving DecidableEq, Repr

namespace SortKey

def field : SortKey → FieldSpec
  | .identifier field => field
  | .attribute field => field

def isIdentifier : SortKey → Bool
  | .identifier _ => true
  | .attribute _ => false

end SortKey

structure Catalog where
  identifier : FieldSpec
  attributes : List FieldSpec
  searched : List String
  order : SortOrder
  identifier_required : identifier.nullable = false
  names_nodup : (identifier.name :: attributes.map (·.name)).Nodup
  searched_nodup : searched.Nodup
deriving DecidableEq, Repr

namespace Catalog

def ofIdentifier (field : FieldSpec) : Catalog where
  identifier := { field with nullable := false }
  attributes := []
  searched := []
  order := .asc
  identifier_required := rfl
  names_nodup := by simp
  searched_nodup := by simp

def sortNames (catalog : Catalog) : List String :=
  catalog.identifier.name :: catalog.attributes.map (·.name)

/-- Declares a further field; a name that is taken is left with its first declaration. -/
def addField (catalog : Catalog) (field : FieldSpec) : Catalog :=
  if taken : field.name ∈ catalog.sortNames then catalog
  else
    { catalog with
      attributes := catalog.attributes ++ [field]
      names_nodup := by
        have fresh : field.name ∉ catalog.identifier.name :: catalog.attributes.map (·.name) := taken
        have distinct := catalog.names_nodup
        simp only [List.map_append, List.map_cons, List.map_nil]
        rw [← List.cons_append, List.nodup_append]
        refine ⟨distinct, by simp, ?_⟩
        intro name member other single
        simp only [List.mem_singleton] at single
        subst single
        exact fun same => fresh (same ▸ member) }

def addSearched (catalog : Catalog) (name : String) : Catalog :=
  if taken : name ∈ catalog.searched then catalog
  else
    { catalog with
      searched := catalog.searched ++ [name]
      searched_nodup := by
        rw [List.nodup_append]
        refine ⟨catalog.searched_nodup, by simp, ?_⟩
        intro other member single only
        simp only [List.mem_singleton] at only
        subst only
        exact fun same => taken (same ▸ member) }

/-- Sets the order of listings that ask for none. -/
def withOrder (catalog : Catalog) (order : SortOrder) : Catalog :=
  { catalog with order := order }

def defaultKey (catalog : Catalog) : SortKey :=
  .identifier catalog.identifier

def resolve (catalog : Catalog) (name : String) : Option SortKey :=
  if name = catalog.identifier.name then some (.identifier catalog.identifier)
  else (catalog.attributes.find? (·.name = name)).map .attribute

/-- Reads the raw text of a field's value. Empty text is null for an attribute and refused for the identifier. -/
def parseValue (catalog : Catalog) (raw name : String) : Except ListError Value :=
  match catalog.resolve name with
  | none => .error (.invalidSortValue name "field is not sortable")
  | some key =>
    if raw.isEmpty then
      if key.isIdentifier then .error (.invalidSortValue name "identifier must not be empty")
      else .ok .null
    else
      match key.field.kind.parse raw with
      | .ok value => .ok value
      | .error reason => .error (.invalidSortValue name reason)

end Catalog

end Registrar
