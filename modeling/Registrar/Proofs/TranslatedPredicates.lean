import Registrar.Proofs.ConditionTruth

/-!
# Translated predicates

A predicate is translated test by test. The first test in reading order that has no condition is
blamed; where every test has one, the condition selects the rows that the predicate holds of.
-/

namespace Registrar

open Sql

/-! ### The test to blame -/

/-- A test of a field without a column is at fault, and so is a comparison of any other field with null. -/
inductive FieldTest.Offends (fields : FieldMap) : String × FieldTest → BuildError → Prop
  | unmapped {field : String} {test : FieldTest} (hfield : fields.get? field = none) :
      Offends fields (field, test) (.unknownField field)
  | null {field : String} {column : MappedColumn} {comparison : Comparison}
      (hfield : fields.get? field = some column) :
      Offends fields (field, .compare comparison .null) (.nullComparison field)

section Blame

variable {fields : FieldMap} {tests : List (String × FieldTest)} {fault : BuildError}

/-- A missing column is reported before a comparison with null. -/
theorem FieldTest.fault?_eq_some_iff {test : String × FieldTest} :
    test.2.fault? fields test.1 = some fault ↔ FieldTest.Offends fields test fault := by
  obtain ⟨field, test⟩ := test
  constructor
  · intro hfault
    unfold FieldTest.fault? at hfault
    split at hfault
    · next hfield =>
        obtain rfl := Option.some_inj.mp hfault
        exact .unmapped hfield
    · next column hfield hnull =>
        obtain rfl := Option.some_inj.mp hfault
        obtain rfl : test = _ := hnull
        exact .null hfield
    · contradiction
  · rintro (hfield | hfield)
    · simp only [FieldTest.fault?, hfield]
    · simp only [FieldTest.fault?, hfield]

theorem FieldTest.exists_offends_iff {test : String × FieldTest} :
    (∃ fault, FieldTest.Offends fields test fault)
      ↔ fields.get? test.1 = none ∨ ∃ comparison, test.2 = .compare comparison .null := by
  obtain ⟨field, test⟩ := test
  constructor
  · rintro ⟨_, hfield | hfield⟩
    · exact Or.inl hfield
    · exact Or.inr ⟨_, rfl⟩
  · rintro (hfield | ⟨comparison, rfl⟩)
    · exact ⟨_, .unmapped hfield⟩
    · cases hfield : fields.get? field with
      | none => exact ⟨_, .unmapped hfield⟩
      | some column => exact ⟨_, .null hfield⟩

/-- The reported fault is that of a test before which none is at fault. -/
theorem firstFault?_eq_some_iff :
    firstFault? fields tests = some fault
      ↔ ∃ before test after, tests = before ++ test :: after
        ∧ (∀ earlier ∈ before, ¬∃ other, FieldTest.Offends fields earlier other)
        ∧ FieldTest.Offends fields test fault := by
  unfold firstFault?
  rw [List.findSome?_eq_some_iff]
  simp only [FieldTest.fault?_eq_some_iff, Option.eq_none_iff_forall_ne_some, ne_eq, not_exists]
  constructor
  · rintro ⟨before, test, after, htests, hfault, hbefore⟩
    exact ⟨before, test, after, htests, hbefore, hfault⟩
  · rintro ⟨before, test, after, htests, hbefore, hfault⟩
    exact ⟨before, test, after, htests, hfault, hbefore⟩

theorem exists_firstFault?_iff :
    (∃ fault, firstFault? fields tests = some fault)
      ↔ ∃ test ∈ tests, ∃ fault, FieldTest.Offends fields test fault := by
  unfold firstFault?
  rw [← Option.isSome_iff_exists, List.findSome?_isSome_iff]
  simp only [Option.isSome_iff_exists, FieldTest.fault?_eq_some_iff]

theorem faultOf?_eq_some_iff {α : Type} {outcome : Except BuildError α} :
    faultOf? outcome = some fault ↔ outcome = .error fault := by
  cases outcome <;> simp [faultOf?]

end Blame

/-! ### Typed rows -/

/-- A comparison takes a value of the kind that its field is declared with, and a term is looked for in texts only. -/
def FieldTest.Kinded (kinds : String → Kind) : String × FieldTest → Prop
  | (field, .compare _ value) => value.kind? = some (kinds field)
  | (field, .contains _) => kinds field = .text
  | (_, .isNull) => True
  | (_, .isNotNull) => True

def Typed {ρ : Type} [Row ρ] (kinds : String → Kind) (row : ρ) : Prop :=
  ∀ field, Row.value row field = .null ∨ (Row.value row field).kind? = some (kinds field)

theorem FieldTest.Kinded.suits {ρ : Type} [Row ρ] {kinds : String → Kind} {row : ρ}
    {test : String × FieldTest} (hkinded : FieldTest.Kinded kinds test) (htyped : Typed kinds row) :
    test.2.Suits (Row.value row test.1) := by
  obtain ⟨field, test⟩ := test
  cases test with
  | compare comparison value => exact (htyped field).imp_right fun hkind => hkind.trans hkinded.symm
  | contains term =>
      exact (htyped field).imp_right fun hkind => hkind.trans (congrArg some hkinded)
  | isNull => trivial
  | isNotNull => trivial

/-- **Translation.** A predicate has no condition exactly if one of its tests names a field without a column or compares with null, and the first such test in reading order is blamed. Otherwise the condition is true of the cells of a typed row exactly if the predicate holds of the row, whatever fields are null in it. -/
theorem ofPredicate_translates (fields : FieldMap) (predicate : Predicate) :
    ((∃ fault, Condition.ofPredicate fields predicate = .error fault)
      ↔ ∃ test ∈ predicate.tests, fields.get? test.1 = none
        ∨ ∃ comparison, test.2 = .compare comparison .null)
    ∧ (∀ fault, Condition.ofPredicate fields predicate = .error fault
      ↔ ∃ before test after, predicate.tests = before ++ test :: after
        ∧ (∀ earlier ∈ before, ¬∃ other, FieldTest.Offends fields earlier other)
        ∧ FieldTest.Offends fields test fault)
    ∧ ∀ condition, Condition.ofPredicate fields predicate = .ok condition →
      ∀ (nullsLow : Bool) (kinds : String → Kind),
        (∀ test ∈ predicate.tests, FieldTest.Kinded kinds test) →
        ∀ (ρ : Type) [Row ρ] (row : ρ) (cell : String → Value), Typed kinds row →
          (∀ field, Shows fields cell row field) →
          (condition.truth (Semantics.standard nullsLow) cell = some true
            ↔ predicate.matches row = true) := by
  have hfault : ∀ fault, Condition.ofPredicate fields predicate = .error fault
      ↔ firstFault? fields predicate.tests = some fault := by
    intro fault
    rw [← faultOf?_ofPredicate, faultOf?_eq_some_iff]
  refine ⟨?_, fun fault => (hfault fault).trans firstFault?_eq_some_iff, ?_⟩
  · simp only [hfault, exists_firstFault?_iff, FieldTest.exists_offends_iff]
  · intro condition hcondition nullsLow kinds hkinded ρ _ row cell htyped hshows
    exact truth_ofPredicate nullsLow hcondition fun test htest =>
      ⟨hshows test.1, (hkinded test htest).suits htyped⟩

def personFields : FieldMap :=
  (FieldMap.empty.insert "name" "person_name" false).insert "seen" "seen_at" true

def personCell (row : FieldRow) (column : String) : Value :=
  Row.value row (if column = "person_name" then "name" else "seen")

def personKind (field : String) : Kind :=
  if field = "seen" then .instant else .text

theorem personFields_get? {field : String} {column : MappedColumn}
    (hcolumn : personFields.get? field = some column) :
    field = "name" ∧ column.column = "person_name" ∨ field = "seen" ∧ column.column = "seen_at" := by
  simp only [personFields, FieldMap.insert, FieldMap.empty, FieldMap.get?, List.lookup_cons,
    List.lookup_nil] at hcolumn
  split at hcolumn
  · next hseen =>
      obtain rfl := Option.some_inj.mp hcolumn
      exact Or.inr ⟨eq_of_beq hseen, rfl⟩
  · split at hcolumn
    · next hname =>
        obtain rfl := Option.some_inj.mp hcolumn
        exact Or.inl ⟨eq_of_beq hname, rfl⟩
    · contradiction

theorem shows_personCell (row : FieldRow) (field : String) :
    Shows personFields (personCell row) row field := by
  intro column hcolumn
  obtain ⟨rfl, hname⟩ | ⟨rfl, hname⟩ := personFields_get? hcolumn
  · rw [hname]; rfl
  · rw [hname]; rfl

def unseen : FieldRow :=
  ⟨[("name", .text "Joanna")]⟩

theorem typed_unseen : Typed personKind unseen := by
  intro field
  by_cases hfield : field = "name"
  · subst hfield
    exact Or.inr rfl
  · refine Or.inl ?_
    have hother : (field == "name") = false := beq_false_of_ne hfield
    simp only [Row.value, FieldRow.value, unseen, List.lookup_cons, hother]
    rfl

/-- Of a person who was never seen the comparison is unknown, the empty choice is false, and the other part holds. -/
def seenOrNamed : Predicate :=
  .any [.compare "seen" .gt (.instant ⟨0, 0⟩), .any [],
    .all [.isNull "seen", .all [], .any [.contains "name" "ANN"]]]

/-- The person is found although the comparison is unknown. Of two faulty tests the first is blamed, and of two faults of one test the missing column. -/
theorem seenOrNamed_translates :
    Condition.truth (Semantics.standard true) (personCell unseen)
        (.compare "seen_at" .gt (.instant ⟨0, 0⟩)) = none
    ∧ (∃ condition, Condition.ofPredicate personFields seenOrNamed = .ok condition
      ∧ condition.truth (Semantics.standard true) (personCell unseen) = some true)
    ∧ Condition.ofPredicate personFields
        (.all [.any [], .any [seenOrNamed, .compare "city" .eq .null], .compare "name" .eq .null])
      = .error (.unknownField "city") := by
  obtain ⟨hfaulty, -, htruth⟩ := ofPredicate_translates personFields seenOrNamed
  refine ⟨rfl, ?_, ?_⟩
  · refine ⟨_, rfl, (htruth _ rfl true personKind ?_ FieldRow unseen _ typed_unseen
      (shows_personCell unseen)).mpr ?_⟩
    · simp [seenOrNamed, Predicate.tests, Predicate.testsOf, FieldTest.Kinded, Value.kind?,
        personKind]
    · decide +kernel
  · refine ((ofPredicate_translates personFields _).2.1 _).mpr
      ⟨seenOrNamed.tests, _, _, rfl, ?_, .unmapped (by decide)⟩
    intro earlier hearlier hoffends
    obtain ⟨fault, hfault⟩ :=
      hfaulty.mpr ⟨earlier, hearlier, FieldTest.exists_offends_iff.mp hoffends⟩
    contradiction

end Registrar
