import Registrar.Proofs.ConditionTruth
import Registrar.Proofs.Lowering
import Registrar.Registry.Table
import Mathlib.Data.List.TakeWhile

/-!
# Searching on SQLite

The term of a search is lower-cased whole, but SQLite folds only the ASCII letters of the texts that
it is looked for in, and reads neither texts nor patterns beyond a zero character. So a search
misses records, and for a term with a zero character it may also return too many.
-/

namespace Registrar.Sql.Sqlite

/-! ### What a pattern finds -/

def ZeroFree (chars : List Char) : Prop :=
  ∀ c ∈ chars, c.toNat ≠ 0

instance (chars : List Char) : Decidable (ZeroFree chars) :=
  List.decidableBAll (fun c : Char => c.toNat ≠ 0) chars

def beforeZero (chars : List Char) : List Char :=
  chars.takeWhile fun c => c.toNat != 0

/-- A text as `LIKE` sees it: up to its first zero, and with ASCII letters in lower case. -/
def folded (text : List Char) : List Char :=
  (beforeZero text).map Text.asciiLower

/-- What a search of SQLite for a lower-cased term finds: texts that contain it as `LIKE` sees them or, as the pattern is broken off at a zero of the term, texts that end in the part before it. -/
def Finds (term text : List Char) : Prop :=
  ZeroFree term ∧ term <:+: folded text ∨ ¬ ZeroFree term ∧ beforeZero term <:+ folded text

instance (term text : List Char) : Decidable (Finds term text) :=
  inferInstanceAs (Decidable (_ ∨ _))

theorem finds_of_zeroFree {term text : List Char} (hfree : ZeroFree term) :
    Finds term text ↔ term <:+: folded text := by
  simp only [Finds, hfree, true_and, not_true_eq_false, false_and, or_false]

theorem finds_of_not_zeroFree {term text : List Char} (hzero : ¬ ZeroFree term) :
    Finds term text ↔ beforeZero term <:+ folded text := by
  simp only [Finds, hzero, false_and, not_false_eq_true, true_and, false_or]

theorem beforeZero_map_asciiLower (text : List Char) :
    beforeZero (text.map Text.asciiLower) = folded text := by
  have hsame : (fun c : Char => c.toNat != 0) ∘ Text.asciiLower = fun c => c.toNat != 0 := by
    funext c
    rw [Bool.eq_iff_iff, Function.comp_apply, bne_iff_ne, bne_iff_ne, ne_eq, ne_eq,
      Text.asciiLower_toNat_eq_zero]
  unfold folded beforeZero
  rw [List.takeWhile_map, hsame]

theorem folded_map_asciiLower (text : List Char) :
    (folded text).map Text.asciiLower = folded text := by
  unfold folded
  rw [List.map_map]
  exact List.map_congr_left fun c _ => Text.asciiLower_asciiLower c

theorem beforeZero_cons_of_ne {c : Char} (hc : c.toNat ≠ 0) (chars : List Char) :
    beforeZero (c :: chars) = c :: beforeZero chars :=
  List.takeWhile_cons_of_pos (bne_iff_ne.mpr hc)

theorem beforeZero_cons_of_eq {c : Char} (hc : c.toNat = 0) (chars : List Char) :
    beforeZero (c :: chars) = [] :=
  List.takeWhile_cons_of_neg (by simp [hc])

/-- Escaping brings in no zeros, so a pattern is broken off where its term is. -/
theorem beforeZero_escape_append (term rest : List Char) :
    beforeZero (Like.escape term ++ rest)
      = if ZeroFree term then Like.escape term ++ beforeZero rest
        else Like.escape (beforeZero term) := by
  induction term with
  | nil => exact (if_pos fun c hc => absurd hc List.not_mem_nil).symm
  | cons c term ih =>
      rw [Like.escape_cons, List.append_assoc]
      by_cases hzero : c.toNat = 0
      · have hplain : Like.isSpecial c = false := by
          by_contra hspecial
          rw [Bool.not_eq_false, Like.isSpecial, Bool.or_eq_true, Bool.or_eq_true, beq_iff_eq,
            beq_iff_eq, beq_iff_eq] at hspecial
          rcases hspecial with (rfl | rfl) | rfl <;> exact absurd hzero (by decide)
        have hbroken : ¬ ZeroFree (c :: term) := fun hfree => hfree c List.mem_cons_self hzero
        rw [if_neg hbroken, hplain, if_neg Bool.false_ne_true, List.singleton_append,
          beforeZero_cons_of_eq hzero, beforeZero_cons_of_eq hzero]
        rfl
      · have hlead : beforeZero ((if Like.isSpecial c then ['\\', c] else [c])
              ++ (Like.escape term ++ rest))
            = (if Like.isSpecial c then ['\\', c] else [c])
              ++ beforeZero (Like.escape term ++ rest) := by
          split
          · exact (beforeZero_cons_of_ne (by decide) _).trans
              (congrArg _ (beforeZero_cons_of_ne hzero _))
          · exact beforeZero_cons_of_ne hzero _
        have hfree : ZeroFree (c :: term) ↔ ZeroFree term :=
          List.forall_mem_cons.trans (and_iff_right hzero)
        rw [hlead, ih, beforeZero_cons_of_ne hzero, Like.escape_cons]
        by_cases hterm : ZeroFree term
        · rw [if_pos hterm, if_pos (hfree.mpr hterm), List.append_assoc]
        · rw [if_neg hterm, if_neg (mt hfree.mp hterm)]

theorem settled_beforeZero {term : List Char} (hterm : ∀ c ∈ term, Text.Settled c.toNat) :
    (beforeZero term).map Text.asciiLower = beforeZero term :=
  Text.map_asciiLower_of_settled fun c hc =>
    hterm c ((List.takeWhile_prefix _).subset hc)

/-- Against the lower-cased column, the pattern of a term finds what SQLite finds. -/
theorem like_containing_iff {term : List Char} (hterm : ∀ c ∈ term, Text.Settled c.toNat)
    (content : String) :
    semantics.like (String.ofList (Like.containing term)) (semantics.lower content) = true
      ↔ Finds term content.toList := by
  have htext : untilZero (semantics.lower content) = folded content.toList := by
    rw [untilZero, semantics, String.toList_ofList]
    exact beforeZero_map_asciiLower _
  have hpattern : untilZero (String.ofList (Like.containing term))
      = if ZeroFree term then Like.containing term
        else '%' :: Like.escape (beforeZero term) := by
    rw [untilZero, String.toList_ofList, Like.containing, List.cons_append]
    refine (beforeZero_cons_of_ne (by decide) _).trans ?_
    rw [beforeZero_escape_append]
    split <;> rfl
  change isLike _ _ = true ↔ _
  rw [isLike, htext, hpattern]
  by_cases hfree : ZeroFree term
  · rw [if_pos hfree, finds_of_zeroFree hfree]
    refine (Like.matches_containing Text.asciiLower term _).trans ?_
    rw [Text.map_asciiLower_of_settled hterm, folded_map_asciiLower]
  · rw [if_neg hfree, finds_of_not_zeroFree hfree]
    refine (Like.matches_run_escape Text.asciiLower (beforeZero term) _).trans ?_
    rw [settled_beforeZero hterm, folded_map_asciiLower]

/-- What SQLite finds for a term without zeros, the engine finds too. -/
theorem Finds.infix_lowerChars {term text : List Char} (hfinds : Finds term text)
    (hfree : ZeroFree term) (hterm : ∀ c ∈ term, Text.Settled c.toNat) :
    term <:+: Text.lowerChars text := by
  rw [finds_of_zeroFree hfree] at hfinds
  have hfolded : folded text <:+: text.map Text.asciiLower :=
    ((List.takeWhile_prefix _).map _).isInfix
  exact Text.infix_lowerAfter hterm [] (hfinds.trans hfolded)

end Registrar.Sql.Sqlite

namespace Registrar

open Sql Sqlite

/-! ### What the search of records finds -/

section Records

variable {kind : ResourceKind}

def Record.searchedTexts (record : Record kind) : List String :=
  record.id :: record.label.toList

def Record.sqliteCell (record : Record kind) (column : String) : Value :=
  stored (record.cell column)

def searchPattern (term : String) : String :=
  String.ofList (Like.containing (Text.lowerChars term.toList))

theorem search_eq (kind : ResourceKind) {term : String} (hterm : term ≠ "") :
    kind.catalog.search term
      = some (.any [.contains kind.idField term, .contains kind.labelField term]) := by
  have hempty : term.isEmpty = false := by simpa using hterm
  have hsearched : kind.catalog.searched = [kind.idField, kind.labelField] := by
    cases kind <;> rfl
  unfold Catalog.search
  rw [hempty, hsearched]
  rfl

theorem ofPredicate_search (kind : ResourceKind) (term : String) :
    Condition.ofPredicate kind.fields
        (.any [.contains kind.idField term, .contains kind.labelField term])
      = .ok (.any [.like kind.idColumn (searchPattern term),
        .like kind.labelColumn (searchPattern term)]) := by
  cases kind <;> rfl

theorem Record.sqliteCell_idColumn (record : Record kind) :
    record.sqliteCell kind.idColumn = .text record.id := by
  unfold sqliteCell cell
  rw [if_pos rfl]
  rfl

theorem Record.sqliteCell_labelColumn (record : Record kind) :
    record.sqliteCell kind.labelColumn = record.label.elim .null .text := by
  have hcolumn : kind.labelColumn ≠ kind.idColumn := by cases kind <;> decide
  unfold sqliteCell cell
  rw [if_neg hcolumn, if_pos rfl]
  cases record.label <;> rfl

theorem Record.value_idField (record : Record kind) :
    Row.value record kind.idField = .text record.id :=
  if_pos rfl

theorem Record.value_labelField (record : Record kind) :
    Row.value record kind.labelField = record.label.elim .null .text := by
  have hfield : kind.labelField ≠ kind.idField := by cases kind <;> decide
  exact (if_neg hfield).trans (if_pos rfl)

theorem exists_searchedText {p : String → Prop} {record : Record kind} :
    (∃ text ∈ record.searchedTexts, p text) ↔ p record.id ∨ ∃ label ∈ record.label, p label := by
  simp [Record.searchedTexts]

theorem likeTruth_searchPattern (term : String) (label : Option String) :
    likeTruth semantics (searchPattern term) (label.elim .null .text) = some true
      ↔ ∃ text ∈ label, Finds (Text.lowerChars term.toList) text.toList := by
  cases label with
  | none => simp [likeTruth]
  | some text =>
      have hsettled : ∀ c ∈ Text.lowerChars term.toList, Text.Settled c.toNat :=
        fun c hc => Text.settled_of_mem_lowerAfter hc
      have hsome : (∃ content ∈ some text, Finds (Text.lowerChars term.toList) content.toList)
          ↔ Finds (Text.lowerChars term.toList) text.toList := by
        simp only [Option.mem_some_iff, exists_eq_left']
      rw [hsome, ← like_containing_iff hsettled, Option.elim_some, likeTruth, Option.some_inj,
        searchPattern]

theorem containsTerm_iff (term : String) (label : Option String) :
    Predicate.containsTerm term (label.elim .null .text) = true
      ↔ ∃ text ∈ label, Text.lowerChars term.toList <:+: Text.lowerChars text.toList := by
  cases label with
  | none => simp [Predicate.containsTerm]
  | some text => simp [Predicate.containsTerm, Text.contains, Text.lowercase, Text.occurs_iff]

/-- SQLite keeps a record if it finds the term in one of its searched texts. -/
theorem truth_search_iff (term : String) (record : Record kind) :
    (Condition.any [.like kind.idColumn (searchPattern term),
        .like kind.labelColumn (searchPattern term)]).truth semantics record.sqliteCell = some true
      ↔ ∃ text ∈ record.searchedTexts, Finds (Text.lowerChars term.toList) text.toList := by
  have hid := likeTruth_searchPattern term (some record.id)
  have hlabel := likeTruth_searchPattern term record.label
  rw [exists_searchedText, ← hlabel, Condition.truth, anyTruth, anyTruth, anyTruth,
    Truth.or_false, Truth.or_eq_true, Condition.truth, Condition.truth,
    record.sqliteCell_idColumn, record.sqliteCell_labelColumn]
  refine or_congr_left (hid.trans ?_)
  simp

/-- The engine keeps a record if one of its searched texts, lower-cased, contains the lower-cased term. -/
theorem matches_search_iff (term : String) (record : Record kind) :
    (Predicate.any [.contains kind.idField term,
        .contains kind.labelField term]).matches record = true
      ↔ ∃ text ∈ record.searchedTexts,
        Text.lowerChars term.toList <:+: Text.lowerChars text.toList := by
  have hid := containsTerm_iff term (some record.id)
  have hlabel := containsTerm_iff term record.label
  rw [exists_searchedText, ← hlabel, Predicate.matches, Predicate.matchesAny_eq_any,
    List.any_cons, List.any_cons, List.any_nil, Bool.or_false, Bool.or_eq_true, Predicate.matches,
    Predicate.matches, record.value_idField, record.value_labelField]
  refine or_congr_left (hid.trans ?_)
  simp

theorem filter_eq_filter_iff {α : Type} {p q : α → Bool} {items : List α} :
    items.filter p = items.filter q ↔ ∀ item ∈ items, p item = true ↔ q item = true := by
  constructor
  · intro hsame item hitem
    have hmem : item ∈ items.filter p ↔ item ∈ items.filter q := by rw [hsame]
    rw [List.mem_filter, List.mem_filter, and_iff_right hitem, and_iff_right hitem] at hmem
    exact hmem
  · exact fun hagree => List.filter_congr fun item hitem => Bool.eq_iff_iff.mpr (hagree item hitem)

/-- **Search on SQLite.** The search condition selects the records that the engine's search means exactly if SQLite finds the term in some text of every record that has a text containing it in lower case, and in none of any other. For a term without zeros the latter is always so. -/
theorem sqlite_search_eq_iff (kind : ResourceKind) {term : String} (hterm : term ≠ "") :
    ∃ predicate condition, kind.catalog.search term = some predicate
      ∧ Condition.ofPredicate kind.fields predicate = .ok condition
      ∧ ∀ records : List (Record kind),
        (records.filter (fun record => condition.truth semantics record.sqliteCell == some true)
            = records.filter (predicate.matches ·)
          ↔ ∀ record ∈ records,
            (∃ text ∈ record.searchedTexts, Finds (Text.lowerChars term.toList) text.toList)
              ↔ ∃ text ∈ record.searchedTexts,
                Text.lowerChars term.toList <:+: Text.lowerChars text.toList)
        ∧ (ZeroFree (Text.lowerChars term.toList) → ∀ text,
          Finds (Text.lowerChars term.toList) text →
            Text.lowerChars term.toList <:+: Text.lowerChars text) := by
  refine ⟨_, _, search_eq kind hterm, ofPredicate_search kind term, fun records => ⟨?_, ?_⟩⟩
  · rw [filter_eq_filter_iff]
    refine forall₂_congr fun record hrecord => ?_
    rw [beq_iff_eq, truth_search_iff, matches_search_iff]
  · exact fun hfree text hfinds =>
      hfinds.infix_lowerChars hfree fun c hc => Text.settled_of_mem_lowerAfter hc

/-- Among texts of ASCII characters without zeros, SQLite finds what is asked for. -/
theorem sqlite_search_eq_of_ascii {records : List (Record kind)} {term : String}
    (hterm : ZeroFree (Text.lowerChars term.toList))
    (htexts : ∀ record ∈ records, ∀ text ∈ record.searchedTexts,
      (∀ c ∈ text.toList, c.toNat < 0x80) ∧ ZeroFree text.toList) :
    records.filter (fun record =>
          (Condition.any [.like kind.idColumn (searchPattern term),
            .like kind.labelColumn (searchPattern term)]).truth semantics record.sqliteCell
              == some true)
      = records.filter ((Predicate.any [.contains kind.idField term,
          .contains kind.labelField term]).matches ·) := by
  rw [filter_eq_filter_iff]
  intro record hrecord
  rw [beq_iff_eq, truth_search_iff, matches_search_iff]
  refine exists_congr fun text => and_congr_right fun htext => ?_
  obtain ⟨hascii, hfree⟩ := htexts record hrecord text htext
  have hwhole : beforeZero text.toList = text.toList :=
    List.takeWhile_eq_self_iff.mpr fun c hc => bne_iff_ne.mpr (hfree c hc)
  have hlowered : Text.lowerChars text.toList = folded text.toList := by
    rw [folded, hwhole]
    exact Text.lowerAfter_of_ascii hascii []
  rw [finds_of_zeroFree hterm, hlowered]

end Records

/-- A role whose name begins with a capital that ASCII does not have. -/
def ecole : Record .role :=
  .create .role "r1" ⟨none, some "École", none⟩ ⟨0, 0⟩

/-- The role is not found by its own name. -/
theorem ecole_missed :
    "École" ≠ "" ∧ ∃ predicate condition,
      ResourceKind.role.catalog.search "École" = some predicate
        ∧ Condition.ofPredicate ResourceKind.role.fields predicate = .ok condition
        ∧ [ecole].filter (fun record => condition.truth semantics record.sqliteCell == some true)
          ≠ [ecole].filter (predicate.matches ·) := by
  have hterm : "École" ≠ "" := by decide
  obtain ⟨predicate, condition, hsearch, hcondition, hexact⟩ := sqlite_search_eq_iff .role hterm
  refine ⟨hterm, predicate, condition, hsearch, hcondition, fun hsame => ?_⟩
  have hfound : ∃ text ∈ ecole.searchedTexts,
      Finds (Text.lowerChars "École".toList) text.toList :=
    ((hexact [ecole]).1.mp hsame ecole List.mem_cons_self).mpr
      ⟨"École", by decide, List.infix_refl _⟩
  obtain ⟨text, htext, hfinds⟩ := hfound
  have hmissed : ¬ Finds (Text.lowerChars "École".toList) "r1".toList
      ∧ ¬ Finds (Text.lowerChars "École".toList) "École".toList := by decide +kernel
  rcases List.mem_pair.mp htext with rfl | rfl
  · exact hmissed.1 hfinds
  · exact hmissed.2 hfinds

end Registrar
