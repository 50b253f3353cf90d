import Registrar.Proofs.AcceptedRequests
import Registrar.Proofs.ReadBack

/-!
# Declared catalogs

A catalog is declared one name at a time, and any name may be declared again, the identifier's
included. What was declared first stays: the names of a catalog are the declared ones without their
repetitions, a name stands for the identifier or for the field that was declared first under it, and
whatever is read for a name is of the kind of that field.
-/

namespace Registrar

inductive Declaration where
  | field (field : FieldSpec)
  | searched (name : String)
  | order (order : SortOrder)
deriving DecidableEq, Repr

namespace Declaration

def field? : Declaration → Option FieldSpec
  | .field spec => some spec
  | _ => none

def searched? : Declaration → Option String
  | .searched name => some name
  | _ => none

def fields (declarations : List Declaration) : List FieldSpec :=
  declarations.filterMap field?

def searchedNames (declarations : List Declaration) : List String :=
  declarations.filterMap searched?

theorem fields_concat (declarations : List Declaration) (declaration : Declaration) :
    fields (declarations ++ [declaration]) = fields declarations ++ declaration.field?.toList := by
  unfold fields
  rw [List.filterMap_append]
  cases declaration <;> rfl

end Declaration

namespace Catalog

def declare (catalog : Catalog) : Declaration → Catalog
  | .field field => catalog.addField field
  | .searched name => catalog.addSearched name
  | .order order => catalog.withOrder order

def declared (identifier : FieldSpec) (declarations : List Declaration) : Catalog :=
  declarations.foldl declare (ofIdentifier identifier)

theorem declared_concat (identifier : FieldSpec) (declarations : List Declaration)
    (declaration : Declaration) :
    declared identifier (declarations ++ [declaration])
      = (declared identifier declarations).declare declaration :=
  List.foldl_concat ..

/-! ### What a declaration changes -/

section Steps

variable (catalog : Catalog)

theorem attributes_addField (field : FieldSpec) :
    (catalog.addField field).attributes
      = if field.name ∈ catalog.sortNames then catalog.attributes
        else catalog.attributes ++ [field] := by
  unfold addField
  split <;> rfl

@[simp]
theorem identifier_addField (field : FieldSpec) :
    (catalog.addField field).identifier = catalog.identifier := by
  unfold addField
  split <;> rfl

@[simp]
theorem searched_addField (field : FieldSpec) :
    (catalog.addField field).searched = catalog.searched := by
  unfold addField
  split <;> rfl

theorem sortNames_addField (field : FieldSpec) :
    (catalog.addField field).sortNames
      = if field.name ∈ catalog.sortNames then catalog.sortNames
        else catalog.sortNames ++ [field.name] := by
  have hnames : (catalog.addField field).sortNames
      = catalog.identifier.name :: (catalog.addField field).attributes.map (·.name) := by
    rw [sortNames, identifier_addField]
  rw [hnames, attributes_addField]
  split
  · rfl
  · rw [List.map_append]
    rfl

theorem searched_addSearched (name : String) :
    (catalog.addSearched name).searched
      = if name ∈ catalog.searched then catalog.searched else catalog.searched ++ [name] := by
  unfold addSearched
  split <;> rfl

@[simp]
theorem identifier_addSearched (name : String) :
    (catalog.addSearched name).identifier = catalog.identifier := by
  unfold addSearched
  split <;> rfl

@[simp]
theorem attributes_addSearched (name : String) :
    (catalog.addSearched name).attributes = catalog.attributes := by
  unfold addSearched
  split <;> rfl

theorem sortNames_addSearched (name : String) :
    (catalog.addSearched name).sortNames = catalog.sortNames := by
  unfold sortNames
  rw [identifier_addSearched, attributes_addSearched]

end Steps

/-! ### What all declarations leave -/

/-- A repetition at the end of a list is dropped, and any other item is kept. -/
theorem eraseDups_concat {α : Type} [BEq α] [LawfulBEq α] (items : List α) (item : α) :
    (items ++ [item]).eraseDups
      = if item ∈ items then items.eraseDups else items.eraseDups ++ [item] := by
  have hrest : [item].removeAll items = if item ∈ items then [] else [item] := by
    by_cases hmem : item ∈ items <;> simp [List.removeAll, hmem]
  rw [List.eraseDups_append, hrest]
  split
  · exact List.append_nil _
  · rfl

section Declared

variable (identifier : FieldSpec) (declarations : List Declaration)

theorem identifier_declared :
    (declared identifier declarations).identifier = { identifier with nullable := false } := by
  induction declarations using List.reverseRecOn with
  | nil => rfl
  | append_singleton declarations declaration ih =>
      rw [declared_concat, ← ih]
      cases declaration with
      | field field => exact identifier_addField _ field
      | searched name => exact identifier_addSearched _ name
      | order order => rfl

/-- Names of a catalog that each declaration leaves as they are or adds one to, if that is new. -/
theorem names_declared {names : Catalog → List String} {name? : Declaration → Option String}
    (first : List String) (hfirst : names (ofIdentifier identifier) = first.eraseDups)
    (hstep : ∀ catalog declaration, names (catalog.declare declaration)
      = (name? declaration).elim (names catalog) fun name =>
        if name ∈ names catalog then names catalog else names catalog ++ [name]) :
    names (declared identifier declarations)
      = (first ++ declarations.filterMap name?).eraseDups := by
  induction declarations using List.reverseRecOn with
  | nil => rwa [List.filterMap_nil, List.append_nil]
  | append_singleton declarations declaration ih =>
      rw [declared_concat, hstep, ih, List.filterMap_append, ← List.append_assoc]
      cases hname : name? declaration with
      | none => simp [hname]
      | some name =>
          simp only [Option.elim_some, List.mem_eraseDups, List.filterMap_cons, hname,
            List.filterMap_nil]
          exact (eraseDups_concat _ name).symm

theorem sortNames_declared :
    (declared identifier declarations).sortNames
      = (identifier.name :: (Declaration.fields declarations).map (·.name)).eraseDups := by
  have hstep : ∀ (catalog : Catalog) (declaration : Declaration),
      (catalog.declare declaration).sortNames
        = (declaration.field?.map (·.name)).elim catalog.sortNames fun name =>
          if name ∈ catalog.sortNames then catalog.sortNames else catalog.sortNames ++ [name] := by
    intro catalog declaration
    cases declaration with
    | field field => exact catalog.sortNames_addField field
    | searched name => exact catalog.sortNames_addSearched name
    | order order => rfl
  have hnames := names_declared identifier declarations [identifier.name] rfl hstep
  rw [hnames, Declaration.fields, List.map_filterMap]
  rfl

theorem searched_declared :
    (declared identifier declarations).searched
      = (Declaration.searchedNames declarations).eraseDups := by
  apply names_declared identifier declarations []
  · rfl
  · intro catalog declaration
    cases declaration with
    | field field => exact catalog.searched_addField field
    | searched name => exact catalog.searched_addSearched name
    | order order => rfl

/-- A later declaration of a name changes nothing, so that the first one is found. -/
theorem find?_attributes_declared {name : String} (hname : name ≠ identifier.name) :
    (declared identifier declarations).attributes.find? (·.name = name)
      = (Declaration.fields declarations).find? (·.name = name) := by
  induction declarations using List.reverseRecOn with
  | nil => rfl
  | append_singleton declarations declaration ih =>
      rw [declared_concat, Declaration.fields_concat, List.find?_append, ← ih]
      cases declaration with
      | field field =>
          rw [declare, attributes_addField]
          -- A field is dropped if its name is taken. For the name that is looked for, that means it
          -- has been found already: the name of the identifier is excluded.
          by_cases htaken : field.name ∈ (declared identifier declarations).sortNames
          · rw [if_pos htaken]
            by_cases hsame : field.name = name
            · subst hsame
              rw [Option.or_of_isSome]
              rw [sortNames, List.mem_cons, identifier_declared] at htaken
              obtain ⟨other, hother, hsame⟩ := List.mem_map.mp (htaken.resolve_left hname)
              exact List.find?_isSome.mpr ⟨other, hother, decide_eq_true hsame⟩
            · simp [Declaration.field?, hsame]
          · rw [if_neg htaken, List.find?_append]
            rfl
      | searched name =>
          rw [declare, attributes_addSearched]
          exact (Option.or_none ..).symm
      | order order => exact (Option.or_none ..).symm

/-- A name stands for the identifier, or for the field first declared under it. -/
theorem resolve_declared (name : String) :
    (declared identifier declarations).resolve name
      = if name = identifier.name then some (.identifier { identifier with nullable := false })
        else ((Declaration.fields declarations).find? (·.name = name)).map .attribute := by
  unfold resolve
  rw [identifier_declared]
  split
  · rfl
  · next hname => rw [find?_attributes_declared identifier declarations hname]

end Declared

/-! ### What is read for a name -/

theorem isSome_resolve_iff (catalog : Catalog) (name : String) :
    (catalog.resolve name).isSome = true ↔ name ∈ catalog.sortNames := by
  unfold resolve sortNames
  rw [List.mem_cons, List.mem_map]
  split
  · next hname => exact iff_of_true rfl (Or.inl hname)
  · next hname =>
      rw [Option.isSome_map, List.find?_isSome, or_iff_right hname]
      simp only [decide_eq_true_eq]

/-- Reading a raw text for a name fails for its value, or gives a value of the kind of the field that the name stands for, and null for empty text if that is no identifier. -/
structure ReadsTyped (catalog : Catalog) (raw name : String) : Prop where
  refused : ∀ fault, catalog.parseValue raw name = .error fault →
    ∃ reason, fault = .invalidSortValue name reason
  typed : ∀ value, catalog.parseValue raw name = .ok value →
    ∃ key, catalog.resolve name = some key ∧
      match key with
      | .identifier field => value.kind? = some field.kind
      | .attribute field =>
        (value = .null ↔ raw = "") ∧ (value = .null ∨ value.kind? = some field.kind)
  read_iff : (∃ value, catalog.parseValue raw name = .ok value)
    ↔ ∃ key, catalog.resolve name = some key
      ∧ if raw = "" then key.isIdentifier = false else ∃ value, key.field.kind.parse raw = .ok value

/-- Empty text is null for every field but the identifier, for which it is refused. -/
theorem parseValue_empty {catalog : Catalog} {name : String} {key : SortKey}
    (hresolve : catalog.resolve name = some key) {value : Value} :
    catalog.parseValue "" name = .ok value ↔ key.isIdentifier = false ∧ value = .null := by
  have hempty : "".isEmpty = true := rfl
  unfold parseValue
  rw [hresolve]
  dsimp only
  rw [if_pos hempty]
  cases key.isIdentifier with
  | true => simp
  | false => simp [eq_comm]

theorem resolve_of_parseValue {catalog : Catalog} {raw name : String} {value : Value}
    (hparse : catalog.parseValue raw name = .ok value) :
    ∃ key, catalog.resolve name = some key := by
  unfold parseValue at hparse
  cases hresolve : catalog.resolve name with
  | none =>
      rw [hresolve] at hparse
      contradiction
  | some key => exact ⟨key, rfl⟩

/-- What is read has the declared kind, or is a null for an attribute. -/
theorem readsTyped (catalog : Catalog) (raw name : String) : catalog.ReadsTyped raw name where
  refused fault hparse := fault_of_parseValue hparse
  typed value hparse := by
    obtain ⟨key, hresolve⟩ := resolve_of_parseValue hparse
    refine ⟨key, hresolve, ?_⟩
    by_cases hraw : raw = ""
    · subst hraw
      obtain ⟨hattribute, hnull⟩ := (parseValue_empty hresolve).mp hparse
      rcases key with field | field
      · contradiction
      · exact ⟨iff_of_true hnull rfl, Or.inl hnull⟩
    · have hempty : raw.isEmpty = false := String.isEmpty_eq_false_iff.mpr hraw
      have hread := (parseValue_of_nonempty hresolve hempty).mp hparse
      have hkind := (Kind.kind_of_parse hread).1
      rcases key with field | field
      · exact hkind
      · exact ⟨iff_of_false (Value.ne_null_of_kind hkind) hraw, Or.inr hkind⟩
  read_iff := by
    by_cases hraw : raw = ""
    · subst hraw
      constructor
      · rintro ⟨value, hparse⟩
        obtain ⟨key, hresolve⟩ := resolve_of_parseValue hparse
        rw [parseValue_empty hresolve] at hparse
        exact ⟨key, hresolve, hparse.1⟩
      · rintro ⟨key, hresolve, hattribute⟩
        exact ⟨.null, (parseValue_empty hresolve).mpr ⟨hattribute, rfl⟩⟩
    · have hempty : raw.isEmpty = false := String.isEmpty_eq_false_iff.mpr hraw
      simp only [if_neg hraw]
      constructor
      · rintro ⟨value, hparse⟩
        obtain ⟨key, hresolve⟩ := resolve_of_parseValue hparse
        rw [parseValue_of_nonempty hresolve hempty] at hparse
        exact ⟨key, hresolve, value, hparse⟩
      · rintro ⟨key, hresolve, value, hread⟩
        exact ⟨value, (parseValue_of_nonempty hresolve hempty).mpr hread⟩

/-- **Declared catalogs.** Whatever is declared, and however often, a catalog lists the identifier and then each other declared name once, in the order in which they were declared first. The listed names are those that stand for something: that of the identifier for the identifier, which is never null, and any other one for the field first declared under it. No searched field is repeated, and values are read as the fields were declared. -/
theorem declared_unambiguous (identifier : FieldSpec) (declarations : List Declaration) :
    (declared identifier declarations).sortNames
        = (identifier.name :: (Declaration.fields declarations).map (·.name)).eraseDups
      ∧ (declared identifier declarations).sortNames.Nodup
      ∧ (∀ name, ((declared identifier declarations).resolve name).isSome = true
        ↔ name ∈ (declared identifier declarations).sortNames)
      ∧ (∀ name, (declared identifier declarations).resolve name
        = if name = identifier.name then some (.identifier { identifier with nullable := false })
          else ((Declaration.fields declarations).find? (·.name = name)).map .attribute)
      ∧ (declared identifier declarations).searched
        = (Declaration.searchedNames declarations).eraseDups
      ∧ (declared identifier declarations).searched.Nodup
      ∧ ∀ raw name, (declared identifier declarations).ReadsTyped raw name :=
  ⟨sortNames_declared identifier declarations, names_nodup _, isSome_resolve_iff _,
    resolve_declared identifier declarations, searched_declared identifier declarations,
    searched_nodup _, readsTyped _⟩

/-- The name of the identifier and a name that is declared again keep what they stood for. -/
example :
    let catalog := declared (.identifier "id")
      [.field (.instant "created"), .field (.text "id"), .field (.text "created"),
        .searched "name", .searched "name"]
    catalog.sortNames = ["id", "created"]
      ∧ catalog.resolve "id" = some (.identifier (.identifier "id"))
      ∧ catalog.resolve "created" = some (.attribute (.instant "created"))
      ∧ catalog.searched = ["name"] := by
  decide

end Catalog

end Registrar
