import Registrar.Proofs.Lowering
import Registrar.Registry.Table

/-!
# Searching for words that end in sigma

Both the text and the term of a search are lower-cased whole. All characters are lower-cased on their
own but the capital sigma, which becomes `ς` at the end of a word and `σ` elsewhere. A part that is
cut out of a text may lose the letters around a sigma, so that lower-casing the part alone turns the
sigma into the other form. Then the part is missed where it stands.
-/

namespace Registrar.Text

/-! ### Characters where they stand -/

/-- The lower case of characters where they stand, between `before` (nearest first) and `rest`. -/
def lowerBetween (before chars rest : List Char) : List Char :=
  match chars with
  | [] => []
  | c :: chars => lowerAt before c (chars ++ rest) ++ lowerBetween (c :: before) chars rest

theorem lowerBetween_nil_right (before chars : List Char) :
    lowerBetween before chars [] = lowerAfter before chars := by
  induction chars generalizing before with
  | nil => rfl
  | cons c chars ih => rw [lowerBetween, lowerAfter, List.append_nil, ih]

theorem lowerBetween_append (before chars more rest : List Char) :
    lowerBetween before (chars ++ more) rest
      = lowerBetween before chars (more ++ rest)
        ++ lowerBetween (chars.reverse ++ before) more rest := by
  induction chars generalizing before with
  | nil => rfl
  | cons c chars ih =>
      rw [List.cons_append, lowerBetween, lowerBetween, ih, List.append_assoc chars,
        List.reverse_cons, List.append_assoc chars.reverse, List.singleton_append,
        List.append_assoc]

/-- The lower case of a text, cut at the edges of a part. -/
theorem lowerChars_append_append (before part rest : List Char) :
    lowerChars (before ++ part ++ rest)
      = lowerBetween [] before (part ++ rest) ++ lowerBetween before.reverse part rest
        ++ lowerBetween (part.reverse ++ before.reverse) rest [] := by
  calc lowerChars (before ++ part ++ rest)
      = lowerBetween [] (before ++ (part ++ rest)) [] := by
        rw [lowerChars, ← lowerBetween_nil_right, List.append_assoc]
    _ = lowerBetween [] before (part ++ rest) ++ lowerBetween before.reverse (part ++ rest) [] := by
        rw [lowerBetween_append, List.append_nil, List.append_nil]
    _ = _ := by
        rw [lowerBetween_append, List.append_nil, List.append_assoc]

/-! ### The same characters in two places -/

section Places

variable (before before' : List Char) (c : Char) (chars rest rest' : List Char)

/-- Of all characters only the capital sigma is lowered by its surroundings. -/
theorem lowerAt_eq_iff :
    lowerAt before c rest = lowerAt before' c rest'
      ↔ (c = 'Σ' → endsWord before rest = endsWord before' rest') := by
  unfold lowerAt
  by_cases hsigma : c = 'Σ'
  · rw [if_pos hsigma, if_pos hsigma, forall_prop_of_true hsigma]
    cases endsWord before rest <;> cases endsWord before' rest' <;> decide
  · rw [if_neg hsigma, if_neg hsigma]
    exact iff_of_true rfl fun hc => absurd hc hsigma

def plainSigma (c : Char) : Char :=
  if c = 'ς' then 'σ' else c

theorem lowerAt_map_plainSigma :
    (lowerAt before c rest).map plainSigma = (lowerAt before' c rest').map plainSigma := by
  unfold lowerAt
  by_cases hsigma : c = 'Σ'
  · rw [if_pos hsigma, if_pos hsigma]
    cases endsWord before rest <;> cases endsWord before' rest' <;> decide
  · rw [if_neg hsigma, if_neg hsigma]

/-- Only the form of a small sigma depends on the place. -/
theorem lowerBetween_map_plainSigma :
    (lowerBetween before chars rest).map plainSigma
      = (lowerBetween before' chars rest').map plainSigma := by
  induction chars generalizing before before' with
  | nil => rfl
  | cons c chars ih =>
      rw [lowerBetween, lowerBetween, List.map_append, List.map_append,
        lowerAt_map_plainSigma before before', ih]

theorem length_lowerAt :
    (lowerAt before c rest).length = (lowerAt before' c rest').length := by
  rw [← List.length_map plainSigma, lowerAt_map_plainSigma before before' c rest rest',
    List.length_map]

/-- The surroundings of a part show in its lower case only if they change where a word of its own ends. -/
theorem lowerBetween_eq_iff :
    lowerBetween before chars rest = lowerBetween before' chars rest'
      ↔ ∀ lead trail, chars = lead ++ 'Σ' :: trail →
        endsWord (lead.reverse ++ before) (trail ++ rest)
          = endsWord (lead.reverse ++ before') (trail ++ rest') := by
  induction chars generalizing before before' with
  | nil => exact iff_of_true rfl fun lead trail hsplit => by simp at hsplit
  | cons c chars ih =>
      have hlength := length_lowerAt before before' c (chars ++ rest) (chars ++ rest')
      have hsplit : lowerBetween before (c :: chars) rest = lowerBetween before' (c :: chars) rest'
          ↔ lowerAt before c (chars ++ rest) = lowerAt before' c (chars ++ rest')
            ∧ lowerBetween (c :: before) chars rest = lowerBetween (c :: before') chars rest' :=
        ⟨fun hsame => List.append_inj hsame hlength, fun hsame => congrArg₂ _ hsame.1 hsame.2⟩
      rw [hsplit, lowerAt_eq_iff, ih]
      constructor
      · rintro ⟨hfirst, hothers⟩ lead trail hcut
        rcases List.cons_eq_append_iff.mp hcut with ⟨rfl, hhead⟩ | ⟨lead, rfl, hrest⟩
        · obtain ⟨rfl, rfl⟩ := List.cons.inj hhead
          exact hfirst rfl
        · simpa using hothers lead trail hrest
      · intro hall
        refine ⟨?_, fun lead trail hcut => ?_⟩
        · rintro rfl
          exact hall [] chars rfl
        · simpa using hall (c :: lead) trail (congrArg _ hcut)

end Places

/-! ### Words -/

theorem startsCased_cons (c : Char) (chars : List Char) :
    startsCased (c :: chars) = if isCaseIgnorable c then startsCased chars else isCased c := by
  unfold startsCased
  rw [List.dropWhile_cons]
  cases isCaseIgnorable c <;> rfl

theorem startsCased_append (chars rest : List Char) :
    startsCased (chars ++ rest)
      = if chars.all isCaseIgnorable then startsCased rest else startsCased chars := by
  induction chars with
  | nil => rfl
  | cons c chars ih =>
      rw [List.cons_append, startsCased_cons, startsCased_cons, ih, List.all_cons]
      cases isCaseIgnorable c <;> rfl

theorem startsCased_of_all {chars : List Char} (hchars : chars.all isCaseIgnorable = true) :
    startsCased chars = false := by
  rw [← List.append_nil chars, startsCased_append, if_pos hchars]
  rfl

/-- What is added around a character changes whether it ends its word if it ended it and a letter now follows, or if nothing but the added letters makes it the end of one. -/
theorem endsWord_append_ne_iff (lead before trail rest : List Char) :
    endsWord (lead ++ before) (trail ++ rest) ≠ endsWord lead trail
      ↔ startsCased lead = true ∧ trail.all isCaseIgnorable = true ∧ startsCased rest = true
        ∨ lead.all isCaseIgnorable = true ∧ startsCased before = true
          ∧ startsCased (trail ++ rest) = false := by
  unfold endsWord
  rw [startsCased_append lead, startsCased_append trail]
  cases hlead : lead.all isCaseIgnorable <;> cases htrail : trail.all isCaseIgnorable
  · simp
  · rw [startsCased_of_all htrail]
    simp
  · rw [startsCased_of_all hlead]
    simp
  · rw [startsCased_of_all hlead, startsCased_of_all htrail]
    simp

/-- A capital sigma of a part is lower-cased otherwise where the part stands, between `before` (nearest first) and `rest`, than in the part alone: it is the last letter of a word in the part but not in the text, or it is one in the text only by the letters before the part. -/
def TurnsSigma (before part rest : List Char) : Prop :=
  ∃ lead trail, part = lead ++ 'Σ' :: trail
    ∧ (startsCased lead.reverse = true ∧ trail.all isCaseIgnorable = true
        ∧ startsCased rest = true
      ∨ lead.all isCaseIgnorable = true ∧ startsCased before = true
        ∧ startsCased (trail ++ rest) = false)

/-- A part is lowered where it stands as it is on its own unless one of its capital sigmas turns. -/
theorem lowerBetween_eq_lowerChars_iff (before part rest : List Char) :
    lowerBetween before part rest = lowerChars part ↔ ¬ TurnsSigma before part rest := by
  rw [lowerChars, ← lowerBetween_nil_right, lowerBetween_eq_iff]
  unfold TurnsSigma
  push Not
  refine forall₃_congr fun lead trail _ => ?_
  rw [List.append_nil, List.append_nil, ← not_iff_not, ← ne_eq, endsWord_append_ne_iff,
    List.all_reverse]
  tauto

end Registrar.Text

namespace Registrar

open Text

theorem matches_search_of_contains {ρ : Type} [Row ρ] {row : ρ} {catalog : Catalog}
    {field term : String} (hfield : field ∈ catalog.searched)
    (hcontains : (Predicate.contains field term).matches row = true) :
    (catalog.search term).isSome = !term.isEmpty
      ∧ (catalog.search term).all (·.matches row) = true := by
  have hsearched : catalog.searched.isEmpty = false :=
    List.isEmpty_eq_false_iff.mpr (List.ne_nil_of_mem hfield)
  unfold Catalog.search
  rw [hsearched, Bool.or_false]
  cases term.isEmpty with
  | true => exact ⟨rfl, rfl⟩
  | false =>
      refine ⟨rfl, ?_⟩
      change Predicate.matchesAny row _ = true
      rw [Predicate.matchesAny_eq_any, List.any_map, List.any_eq_true]
      exact ⟨field, hfield, hcontains⟩

/-- **Search and final sigma.** Where a part of a text stands, the lower-cased text shows the lower case of the part but for the forms of its sigmas. It shows that very text, and searching for it finds the row, unless the letters around the part turn one of its capital sigmas. -/
theorem search_occurring {ρ : Type} [Row ρ] {row : ρ} {field text term : String}
    {before part rest : List Char} (htext : Row.value row field = .text text)
    (hoccurs : text.toList = before ++ part ++ rest)
    (hterm : lowercase term = lowercase (String.ofList part)) :
    (lowercase text).toList = lowerBetween [] before (part ++ rest)
        ++ lowerBetween before.reverse part rest
        ++ lowerBetween (part.reverse ++ before.reverse) rest []
      ∧ (lowerBetween before.reverse part rest).map plainSigma
        = (lowercase term).toList.map plainSigma
      ∧ (lowerBetween before.reverse part rest = (lowercase term).toList
        ↔ ¬ TurnsSigma before.reverse part rest)
      ∧ (¬ TurnsSigma before.reverse part rest →
        (Predicate.contains field term).matches row = true
          ∧ ∀ catalog : Catalog, field ∈ catalog.searched →
            (catalog.search term).isSome = !term.isEmpty
              ∧ (catalog.search term).all (·.matches row) = true) := by
  have hlower : (lowercase text).toList = lowerChars (before ++ part ++ rest) := by
    rw [lowercase, String.toList_ofList, hoccurs]
  have hpart : (lowercase term).toList = lowerChars part := by
    rw [hterm, lowercase, String.toList_ofList, String.toList_ofList]
  rw [lowerChars_append_append] at hlower
  have hplace := lowerBetween_eq_lowerChars_iff before.reverse part rest
  refine ⟨hlower, ?_, ?_, fun hkept => ?_⟩
  · rw [hpart, lowerChars, ← lowerBetween_nil_right]
    exact lowerBetween_map_plainSigma _ _ _ _ _
  · rw [hpart, hplace]
  · have hfound : (Predicate.contains field term).matches row = true := by
      change Predicate.containsTerm term (Row.value row field) = true
      rw [htext]
      change Text.contains (lowercase text) (lowercase term) = true
      rw [Text.contains, occurs_iff, hlower, hpart, hplace.mpr hkept]
      exact ⟨_, _, rfl⟩
    exact ⟨hfound, fun catalog hfield => matches_search_of_contains hfield hfound⟩

def sigmaRole : Record .role :=
  .create .role "r1" ⟨none, some "ΑΣΑ", none⟩ ⟨1704067200, 0⟩

/-- The name is found by its last two letters and missed by its first two, which end in a final sigma on their own. -/
theorem sigmaRole_missed :
    Row.value sigmaRole "name" = .text "ΑΣΑ"
      ∧ "ΑΣΑ".toList = [] ++ ['Α', 'Σ'] ++ ['Α']
      ∧ TurnsSigma [] ['Α', 'Σ'] ['Α']
      ∧ lowerBetween [] ['Α', 'Σ'] ['Α'] ≠ (lowercase "ΑΣ").toList
      ∧ (Predicate.contains "name" "ΑΣ").matches sigmaRole = false
      ∧ "ΑΣΑ".toList = ['Α'] ++ ['Σ', 'Α'] ++ []
      ∧ lowercase "σα" = lowercase (String.ofList ['Σ', 'Α'])
      ∧ (ResourceKind.role.catalog.search "σα").isSome = true
      ∧ (ResourceKind.role.catalog.search "σα").all (·.matches sigmaRole) = true := by
  have hname : Row.value sigmaRole "name" = .text "ΑΣΑ" := by decide +kernel
  have hmissed : "ΑΣΑ".toList = [] ++ ['Α', 'Σ'] ++ ['Α'] := by decide +kernel
  have hfound : "ΑΣΑ".toList = ['Α'] ++ ['Σ', 'Α'] ++ [] := by decide +kernel
  have hterm : lowercase "σα" = lowercase (String.ofList ['Σ', 'Α']) := by decide +kernel
  have hturned : TurnsSigma [] ['Α', 'Σ'] ['Α'] :=
    ⟨['Α'], [], rfl, Or.inl (by decide +kernel)⟩
  have hpart : lowercase "ΑΣ" = lowercase (String.ofList ['Α', 'Σ']) := by decide +kernel
  obtain ⟨-, -, hplace, -⟩ := search_occurring hname hmissed hpart
  obtain ⟨-, -, hkept, hsearch⟩ := search_occurring hname hfound hterm
  obtain ⟨-, hcatalogs⟩ := hsearch (hkept.mp (by decide +kernel))
  obtain ⟨hsome, hall⟩ := hcatalogs ResourceKind.role.catalog (by decide)
  exact ⟨hname, hmissed, hturned, fun hsame => hplace.mp hsame hturned, by decide +kernel, hfound,
    hterm, hsome.trans (by decide), hall⟩

end Registrar
