import Registrar.Proofs.Boundary
import Registrar.Proofs.LikePattern
import Registrar.Sql.Meaning

/-!
# The truth of a condition

A predicate knows two truth values and its condition three. As nothing is ever negated, the
condition is true exactly where the predicate holds, although it may be unknown where the predicate
does not.
-/

namespace Registrar

open Sql

inductive FieldTest where
  | compare (comparison : Comparison) (value : Value)
  | isNull
  | isNotNull
  | contains (term : String)

namespace Predicate

mutual

def tests : Predicate → List (String × FieldTest)
  | .any parts => testsOf parts
  | .all parts => testsOf parts
  | .compare field comparison value => [(field, .compare comparison value)]
  | .isNull field => [(field, .isNull)]
  | .isNotNull field => [(field, .isNotNull)]
  | .contains field term => [(field, .contains term)]

def testsOf : List Predicate → List (String × FieldTest)
  | [] => []
  | part :: parts => part.tests ++ testsOf parts

end

theorem testsOf_eq_flatMap (parts : List Predicate) : testsOf parts = parts.flatMap tests := by
  induction parts with
  | nil => rfl
  | cons part parts ih => rw [testsOf, List.flatMap_cons, ih]

theorem tests_and (first second : Predicate) :
    (first.and second).tests = first.tests ++ second.tests := by
  cases first <;> cases second <;> simp [Predicate.and, tests, testsOf, testsOf_eq_flatMap]

end Predicate

/-! ### Which predicates have a condition -/

section Faults

def FieldTest.fault? (fields : FieldMap) (field : String) (test : FieldTest) : Option BuildError :=
  match fields.get? field, test with
  | none, _ => some (.unknownField field)
  | some _, .compare _ .null => some (.nullComparison field)
  | some _, _ => none

def firstFault? (fields : FieldMap) (tests : List (String × FieldTest)) : Option BuildError :=
  tests.findSome? fun test => test.2.fault? fields test.1

def faultOf? {α : Type} : Except BuildError α → Option BuildError
  | .ok _ => none
  | .error fault => some fault

theorem exists_of_faultOf?_eq_none {α : Type} {outcome : Except BuildError α}
    (hfault : faultOf? outcome = none) : ∃ result, outcome = .ok result := by
  cases outcome with
  | ok result => exact ⟨result, rfl⟩
  | error fault => simp [faultOf?] at hfault

variable {fields : FieldMap}

theorem firstFault?_append (tests others : List (String × FieldTest)) :
    firstFault? fields (tests ++ others)
      = (firstFault? fields tests).or (firstFault? fields others) :=
  List.findSome?_append

theorem firstFault?_singleton (field : String) (test : FieldTest) :
    firstFault? fields [(field, test)] = test.fault? fields field := by
  simp [firstFault?]

mutual

/-- A predicate has no condition exactly if one of its tests has none, and the first such test is to blame. -/
theorem faultOf?_ofPredicate (fields : FieldMap) (predicate : Predicate) :
    faultOf? (Condition.ofPredicate fields predicate) = firstFault? fields predicate.tests := by
  cases predicate with
  | any parts =>
      have hparts := faultOf?_ofPredicates fields parts
      rw [Predicate.tests, ← hparts, Condition.ofPredicate]
      cases Condition.ofPredicates fields parts <;> rfl
  | all parts =>
      have hparts := faultOf?_ofPredicates fields parts
      rw [Predicate.tests, ← hparts, Condition.ofPredicate]
      cases Condition.ofPredicates fields parts <;> rfl
  | compare field comparison value =>
      rw [Predicate.tests, firstFault?_singleton, Condition.ofPredicate]
      unfold FieldMap.resolve FieldTest.fault?
      cases fields.get? field <;> cases value <;> rfl
  | isNull field =>
      rw [Predicate.tests, firstFault?_singleton, Condition.ofPredicate]
      unfold FieldMap.resolve FieldTest.fault?
      cases fields.get? field <;> rfl
  | isNotNull field =>
      rw [Predicate.tests, firstFault?_singleton, Condition.ofPredicate]
      unfold FieldMap.resolve FieldTest.fault?
      cases fields.get? field <;> rfl
  | contains field term =>
      rw [Predicate.tests, firstFault?_singleton, Condition.ofPredicate]
      unfold FieldMap.resolve FieldTest.fault?
      cases fields.get? field <;> rfl

theorem faultOf?_ofPredicates (fields : FieldMap) (parts : List Predicate) :
    faultOf? (Condition.ofPredicates fields parts)
      = firstFault? fields (Predicate.testsOf parts) := by
  cases parts with
  | nil => rfl
  | cons part parts =>
      have hpart := faultOf?_ofPredicate fields part
      have hparts := faultOf?_ofPredicates fields parts
      rw [Predicate.testsOf, firstFault?_append, ← hpart, ← hparts, Condition.ofPredicates]
      cases Condition.ofPredicate fields part with
      | error fault => rfl
      | ok first => cases Condition.ofPredicates fields parts <;> rfl

end

end Faults

/-! ### Where a condition is true -/

namespace Sql

/-- Databases that fold texts as the engine does, take `LIKE` by the letter, and compare values of one kind in the engine's order. Counts occur in no condition. -/
def Semantics.standard (nullsLow : Bool) : Semantics where
  lower := Text.lowercase
  like pattern text := Like.matches (· == ·) pattern.toList text.toList
  bound
    | .text content => .text content
    | .instant moment => .instant moment
    | .count number => .text (toString number)
  nullsLow := nullsLow

namespace Truth

theorem or_eq_true (a b : Truth) : a.or b = some true ↔ a = some true ∨ b = some true := by
  rcases a with _ | _ | _ <;> rcases b with _ | _ | _ <;> simp [Truth.or]

theorem and_eq_true (a b : Truth) : a.and b = some true ↔ a = some true ∧ b = some true := by
  rcases a with _ | _ | _ <;> rcases b with _ | _ | _ <;> simp [Truth.and]

theorem or_false (a : Truth) : a.or (some false) = a := by
  rcases a with _ | _ | _ <;> rfl

theorem and_true (a : Truth) : a.and (some true) = a := by
  rcases a with _ | _ | _ <;> rfl

end Truth

/-- A junction of one part is true where that part is, so leaving it out changes nothing. -/
theorem Condition.collapse_truth (semantics : Semantics) (cell : String → Value)
    (condition : Condition) :
    condition.collapse.truth semantics cell = condition.truth semantics cell := by
  unfold collapse
  split
  · rw [Condition.truth, anyTruth, anyTruth, Truth.or_false]
  · rw [Condition.truth, allTruth, allTruth, Truth.and_true]
  · rfl

theorem compareTruth_eq_true {comparison : Comparison} {actual value : Value}
    (hkind : actual = .null ∨ actual.kind? = value.kind?) :
    compareTruth comparison actual value = some true
      ↔ Predicate.comparesTo comparison actual value = true := by
  unfold compareTruth Predicate.comparesTo
  rcases hkind with rfl | hkind
  · simp [Value.isNull]
  · cases actual.isNull <;> cases value.isNull <;> simp [hkind]

/-- The pattern of a term is found in lower-cased text exactly where the engine finds the term. -/
theorem likeTruth_eq_true {term : String} {nullsLow : Bool} {actual : Value}
    (hkind : actual = .null ∨ actual.kind? = some .text) :
    likeTruth (Semantics.standard nullsLow)
        (String.ofList (Like.containing (Text.lowerChars term.toList))) actual = some true
      ↔ Predicate.containsTerm term actual = true := by
  cases actual with
  | null => simp [likeTruth, Predicate.containsTerm]
  | instant moment => simp [Value.kind?] at hkind
  | text content =>
      have hmatch := Like.matches_containing id (Text.lowerChars term.toList)
        (Text.lowercase content).toList
      rw [List.map_id, List.map_id, ← Text.occurs_iff] at hmatch
      have hterm : (Text.lowercase term).toList = Text.lowerChars term.toList :=
        String.toList_ofList
      have hlike : ∀ pattern, (Semantics.standard nullsLow).like (String.ofList pattern)
          (Text.lowercase content)
          = Like.matches (Like.sameUpTo id) pattern (Text.lowercase content).toList :=
        fun pattern => congrArg (Like.matches (Like.sameUpTo id) · _) String.toList_ofList
      rw [Predicate.containsTerm, Text.contains, hterm, ← hmatch, likeTruth, Option.some_inj,
        ← hlike]
      rfl

end Sql

/-- A test for equality, order or containment meets a value that it is made for, or none. -/
def FieldTest.Suits (actual : Value) : FieldTest → Prop
  | .compare _ value => actual = .null ∨ actual.kind? = value.kind?
  | .contains _ => actual = .null ∨ actual.kind? = some .text
  | .isNull => True
  | .isNotNull => True

section Truth

variable {ρ : Type} [Row ρ] {fields : FieldMap} {cell : String → Value} {row : ρ}

def Shows (fields : FieldMap) (cell : String → Value) (row : ρ) (field : String) : Prop :=
  ∀ column, fields.get? field = some column → cell column.column = Row.value row field

structure FieldTest.Readable (fields : FieldMap) (cell : String → Value) (row : ρ)
    (test : String × FieldTest) : Prop where
  shown : Shows fields cell row test.1
  suits : test.2.Suits (Row.value row test.1)

theorem resolve_eq_ok {field : String} {column : MappedColumn}
    (hresolve : fields.resolve field = .ok column) : fields.get? field = some column := by
  unfold FieldMap.resolve at hresolve
  split at hresolve
  · next found hfound => rw [hfound, Except.ok.inj hresolve]
  · contradiction

theorem bind_eq_ok {ε α β : Type} {outcome : Except ε α} {next : α → Except ε β}
    {result : β} (hbind : (outcome >>= next) = .ok result) :
    ∃ value, outcome = .ok value ∧ next value = .ok result := by
  cases outcome with
  | ok value => exact ⟨value, rfl, hbind⟩
  | error fault => contradiction

def FieldTest.predicate (field : String) : FieldTest → Predicate
  | .compare comparison value => .compare field comparison value
  | .isNull => .isNull field
  | .isNotNull => .isNotNull field
  | .contains term => .contains field term

/-- Where the test has a condition, the database finds it true of the row's cells exactly if the test holds of the row. -/
def FieldTest.Agrees (semantics : Semantics) (fields : FieldMap) (cell : String → Value) (row : ρ)
    (test : String × FieldTest) : Prop :=
  ∀ condition, Condition.ofPredicate fields (test.2.predicate test.1) = .ok condition →
    (condition.truth semantics cell = some true
      ↔ (test.2.predicate test.1).matches row = true)

section Junctions

variable {semantics : Semantics}

mutual

/-- A condition is true where its predicate holds if that can be said of each of its tests. -/
theorem truth_of_agrees {predicate : Predicate} {condition : Condition}
    (hcondition : Condition.ofPredicate fields predicate = .ok condition)
    (hagree : ∀ test ∈ predicate.tests, FieldTest.Agrees semantics fields cell row test) :
    condition.truth semantics cell = some true ↔ predicate.matches row = true := by
  cases predicate with
  | any parts =>
      obtain ⟨conditions, hconditions, ⟨⟩⟩ := bind_eq_ok hcondition
      exact (truths_of_agrees hconditions hagree).1
  | all parts =>
      obtain ⟨conditions, hconditions, ⟨⟩⟩ := bind_eq_ok hcondition
      exact (truths_of_agrees hconditions hagree).2
  | compare field comparison value =>
      exact hagree _ (List.mem_singleton_self _) condition hcondition
  | isNull field => exact hagree _ (List.mem_singleton_self _) condition hcondition
  | isNotNull field => exact hagree _ (List.mem_singleton_self _) condition hcondition
  | contains field term => exact hagree _ (List.mem_singleton_self _) condition hcondition

theorem truths_of_agrees {parts : List Predicate} {conditions : List Condition}
    (hconditions : Condition.ofPredicates fields parts = .ok conditions)
    (hagree : ∀ test ∈ Predicate.testsOf parts,
      FieldTest.Agrees semantics fields cell row test) :
    (anyTruth semantics cell conditions = some true ↔ Predicate.matchesAny row parts = true)
      ∧ (allTruth semantics cell conditions = some true
        ↔ Predicate.matchesAll row parts = true) := by
  cases parts with
  | nil =>
      obtain rfl := Except.ok.inj hconditions
      simp [anyTruth, allTruth, Predicate.matchesAny, Predicate.matchesAll]
  | cons part parts =>
      obtain ⟨first, hfirst, hcons⟩ := bind_eq_ok hconditions
      obtain ⟨rest, hrest, ⟨⟩⟩ := bind_eq_ok hcons
      have hpart := truth_of_agrees hfirst fun test htest =>
        hagree test (List.mem_append_left _ htest)
      have hparts := truths_of_agrees hrest fun test htest =>
        hagree test (List.mem_append_right _ htest)
      rw [anyTruth, allTruth, Predicate.matchesAny, Predicate.matchesAll, Truth.or_eq_true,
        Truth.and_eq_true, Condition.collapse_truth, hpart, hparts.1, hparts.2, Bool.or_eq_true,
        Bool.and_eq_true]
      exact ⟨Iff.rfl, Iff.rfl⟩

end

theorem ofPredicate_compare_eq_ok {field : String} {comparison : Comparison} {value : Value}
    {condition : Condition}
    (hcondition : Condition.ofPredicate fields (.compare field comparison value)
      = .ok condition) :
    ∃ column bound, fields.get? field = some column ∧ Bound.ofValue? value = some bound
      ∧ condition = .compare column.column comparison bound := by
  obtain ⟨column, hcolumn, hbound⟩ := bind_eq_ok hcondition
  cases value with
  | null => contradiction
  | text content => exact ⟨column, _, resolve_eq_ok hcolumn, rfl, (Except.ok.inj hbound).symm⟩
  | instant moment => exact ⟨column, _, resolve_eq_ok hcolumn, rfl, (Except.ok.inj hbound).symm⟩

end Junctions

variable (nullsLow : Bool)

theorem bound_standard {value : Value} {bound : Bound} (hbound : Bound.ofValue? value = some bound) :
    (Semantics.standard nullsLow).bound bound = value := by
  cases value with
  | null => contradiction
  | text content => obtain rfl := Option.some_inj.mp hbound; rfl
  | instant moment => obtain rfl := Option.some_inj.mp hbound; rfl

/-- The column holds what the row has, so a database that reads it literally agrees with the engine. -/
theorem FieldTest.Readable.agrees {test : String × FieldTest}
    (hread : FieldTest.Readable fields cell row test) :
    FieldTest.Agrees (Semantics.standard nullsLow) fields cell row test := by
  obtain ⟨field, test⟩ := test
  intro condition hcondition
  cases test with
  | compare comparison value =>
      obtain ⟨column, bound, hcolumn, hbound, rfl⟩ := ofPredicate_compare_eq_ok hcondition
      rw [FieldTest.predicate, Condition.truth, hread.shown column hcolumn,
        bound_standard nullsLow hbound, Predicate.matches]
      exact compareTruth_eq_true hread.suits
  | isNull =>
      obtain ⟨column, hcolumn, ⟨⟩⟩ := bind_eq_ok hcondition
      rw [FieldTest.predicate, Condition.truth, hread.shown column (resolve_eq_ok hcolumn),
        Predicate.matches, Option.some_inj]
  | isNotNull =>
      obtain ⟨column, hcolumn, ⟨⟩⟩ := bind_eq_ok hcondition
      rw [FieldTest.predicate, Condition.truth, hread.shown column (resolve_eq_ok hcolumn),
        Predicate.matches, Option.some_inj]
  | contains term =>
      obtain ⟨column, hcolumn, ⟨⟩⟩ := bind_eq_ok hcondition
      rw [FieldTest.predicate, Condition.truth, hread.shown column (resolve_eq_ok hcolumn),
        Predicate.matches]
      exact likeTruth_eq_true hread.suits

/-- **Truth.** On a row that its tests can read, a condition is true exactly where its predicate holds. -/
theorem truth_ofPredicate {predicate : Predicate} {condition : Condition}
    (hcondition : Condition.ofPredicate fields predicate = .ok condition)
    (hread : ∀ test ∈ predicate.tests, FieldTest.Readable fields cell row test) :
    condition.truth (Semantics.standard nullsLow) cell = some true
      ↔ predicate.matches row = true :=
  truth_of_agrees hcondition fun test htest => (hread test htest).agrees nullsLow

end Truth

end Registrar
