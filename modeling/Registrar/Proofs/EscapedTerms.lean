import Registrar.Proofs.LikePattern

/-!
# Escaped terms

What a pattern stands for is told by a rule for each of its parts. Reading the pattern and trying
every run of characters decides these rules, whatever the pattern is. The pattern of a term, in
which the special characters of the term are escaped, stands by these rules for the texts that
contain the term character by character, and its reading never ends at an escape character.
-/

namespace Registrar.Sql.Like

variable {pattern text : List Char} {parts : List Token}

/-! ### The rules of a pattern -/

/-- The text is like the pattern. A character without a meaning of its own stands for itself, and so does any character behind the escape character. -/
inductive Resembles : (pattern text : List Char) → Prop where
  | empty : Resembles [] []
  | run {pattern text : List Char} (lead : List Char) (hrest : Resembles pattern text) :
      Resembles ('%' :: pattern) (lead ++ text)
  | one {pattern text : List Char} (c : Char) (hrest : Resembles pattern text) :
      Resembles ('_' :: pattern) (c :: text)
  | escaped {pattern text : List Char} (c : Char) (hrest : Resembles pattern text) :
      Resembles ('\\' :: c :: pattern) (c :: text)
  | plain {pattern text : List Char} {c : Char} (hrun : c ≠ '%') (hone : c ≠ '_')
      (hescape : c ≠ '\\') (hrest : Resembles pattern text) :
      Resembles (c :: pattern) (c :: text)

inductive Dangling : (pattern : List Char) → Prop where
  | last : Dangling ['\\']
  | escaped {pattern : List Char} (c : Char) (hrest : Dangling pattern) :
      Dangling ('\\' :: c :: pattern)
  | other {pattern : List Char} {c : Char} (hescape : c ≠ '\\') (hrest : Dangling pattern) :
      Dangling (c :: pattern)

theorem resembles_nil_iff : Resembles [] text ↔ text = [] := by
  constructor
  · rintro ⟨⟩
    rfl
  · rintro rfl
    exact .empty

theorem resembles_run_iff :
    Resembles ('%' :: pattern) text ↔ ∃ tail, tail <:+ text ∧ Resembles pattern tail := by
  constructor
  · intro hlike
    cases hlike with
    | run lead hrest => exact ⟨_, List.suffix_append .., hrest⟩
    | plain hrun => exact absurd rfl hrun
  · rintro ⟨tail, ⟨lead, rfl⟩, hrest⟩
    exact .run lead hrest

theorem resembles_one_iff :
    Resembles ('_' :: pattern) text ↔ ∃ c rest, text = c :: rest ∧ Resembles pattern rest := by
  constructor
  · intro hlike
    cases hlike with
    | one c hrest => exact ⟨c, _, rfl, hrest⟩
    | plain _ hone => exact absurd rfl hone
  · rintro ⟨c, rest, rfl, hrest⟩
    exact .one c hrest

theorem resembles_escaped_iff {c : Char} :
    Resembles ('\\' :: c :: pattern) text ↔ ∃ rest, text = c :: rest ∧ Resembles pattern rest := by
  constructor
  · intro hlike
    cases hlike with
    | escaped _ hrest => exact ⟨_, rfl, hrest⟩
    | plain _ _ hescape => exact absurd rfl hescape
  · rintro ⟨rest, rfl, hrest⟩
    exact .escaped c hrest

theorem resembles_plain_iff {c : Char} (hrun : c ≠ '%') (hone : c ≠ '_') (hescape : c ≠ '\\') :
    Resembles (c :: pattern) text ↔ ∃ rest, text = c :: rest ∧ Resembles pattern rest := by
  constructor
  · intro hlike
    cases hlike with
    | run => exact absurd rfl hrun
    | one => exact absurd rfl hone
    | escaped => exact absurd rfl hescape
    | plain _ _ _ hrest => exact ⟨_, rfl, hrest⟩
  · rintro ⟨rest, rfl, hrest⟩
    exact .plain hrun hone hescape hrest

/-- A pattern that ends in a lone escape character is like no text. -/
theorem Dangling.not_resembles (hdangling : Dangling pattern) : ¬Resembles pattern text := by
  induction hdangling generalizing text with
  | last =>
      intro hlike
      cases hlike with
      | plain _ _ hescape => exact hescape rfl
  | escaped c _ ih =>
      rw [resembles_escaped_iff]
      rintro ⟨rest, -, hrest⟩
      exact ih hrest
  | other hescape _ ih =>
      intro hlike
      cases hlike with
      | run lead hrest => exact ih hrest
      | one c hrest => exact ih hrest
      | escaped => exact hescape rfl
      | plain _ _ _ hrest => exact ih hrest

/-! ### Deciding the rules -/

theorem matchTokens_one {same : Char → Char → Bool} : matchTokens same (.one :: parts) text = true
    ↔ ∃ c rest, text = c :: rest ∧ matchTokens same parts rest = true := by
  cases text with
  | nil => simp [matchTokens]
  | cons c rest => simp [matchTokens]

theorem matchTokens_char {c : Char} : matchTokens (· == ·) (.char c :: parts) text = true
    ↔ ∃ rest, text = c :: rest ∧ matchTokens (· == ·) parts rest = true := by
  cases text with
  | nil => simp [matchTokens]
  | cons d rest =>
      rw [matchTokens, Bool.and_eq_true, beq_iff_eq]
      constructor
      · rintro ⟨rfl, hrest⟩
        exact ⟨rest, rfl, hrest⟩
      · rintro ⟨_, ⟨⟩, hrest⟩
        exact ⟨rfl, hrest⟩

/-- What is read by itself, whether anything follows it or not, is no escape character. -/
theorem ne_escape {c : Char} {rest : List Char}
    (hfollowed : ∀ d tail, c = '\\' → rest = d :: tail → False)
    (hlast : c = '\\' → rest = [] → False) : c ≠ '\\' := by
  rintro rfl
  cases rest with
  | nil => exact hlast rfl rfl
  | cons d tail => exact hfollowed d tail rfl rfl

/-- Nothing else than a lone escape character at its end spoils a pattern. -/
theorem tokens?_eq_none_iff : tokens? pattern = none ↔ Dangling pattern := by
  induction pattern using tokens?.induct with
  | case1 => exact iff_of_false (Option.some_ne_none _) nofun
  | case2 c rest ih =>
      rw [tokens?, Option.map_eq_none_iff, ih]
      constructor
      · exact .escaped c
      · intro hdangling
        cases hdangling with
        | escaped _ hrest => exact hrest
        | other hescape => exact absurd rfl hescape
  | case3 => exact iff_of_true rfl .last
  | case4 c rest hfollowed hlast ih =>
      have hescape : c ≠ '\\' := ne_escape hfollowed hlast
      rw [tokens?_cons_of_ne hescape, Option.map_eq_none_iff, ih]
      constructor
      · exact .other hescape
      · intro hdangling
        cases hdangling with
        | last => exact absurd rfl hescape
        | escaped => exact absurd rfl hescape
        | other _ hrest => exact hrest

/-- The parts of a pattern match the texts that are like it. -/
theorem matchTokens_iff_resembles (hparts : tokens? pattern = some parts) :
    matchTokens (· == ·) parts text = true ↔ Resembles pattern text := by
  induction pattern using tokens?.induct generalizing parts text with
  | case1 =>
      obtain rfl := Option.some_inj.mp hparts
      rw [matchTokens_nil, resembles_nil_iff]
  | case2 c rest ih =>
      obtain ⟨parts, hrest, rfl⟩ := Option.map_eq_some_iff.mp hparts
      rw [resembles_escaped_iff, matchTokens_char]
      exact exists_congr fun tail => and_congr_right fun _ => ih hrest
  | case3 => contradiction
  | case4 c rest hfollowed hlast ih =>
      have hescape : c ≠ '\\' := ne_escape hfollowed hlast
      rw [tokens?_cons_of_ne hescape] at hparts
      obtain ⟨parts, hrest, rfl⟩ := Option.map_eq_some_iff.mp hparts
      -- One case of the reader, but three rules: only the part it gives tells them apart.
      by_cases hrun : c = '%'
      · subst hrun
        rw [if_pos rfl, matchTokens_run, resembles_run_iff]
        exact exists_congr fun tail => and_congr_right fun _ => ih hrest
      · rw [if_neg hrun]
        by_cases hone : c = '_'
        · subst hone
          rw [if_pos rfl, matchTokens_one, resembles_one_iff]
          exact exists_congr fun d => exists_congr fun tail => and_congr_right fun _ => ih hrest
        · rw [if_neg hone, matchTokens_char, resembles_plain_iff hrun hone hescape]
          exact exists_congr fun tail => and_congr_right fun _ => ih hrest

/-- The matcher decides what it means to be like a pattern, spoilt patterns included. -/
theorem matches_iff_resembles : Like.matches (· == ·) pattern text = true ↔ Resembles pattern text := by
  unfold Like.matches
  cases hparts : tokens? pattern with
  | none => exact iff_of_false Bool.false_ne_true (tokens?_eq_none_iff.mp hparts).not_resembles
  | some parts => exact matchTokens_iff_resembles hparts

/-- **Escaped terms.** Whatever characters a term has, the texts that are like its pattern are those that contain the term, the matcher finds them, and the pattern does not end in an escape character left over. -/
theorem containing_exact (term text : List Char) :
    (Resembles (containing term) text ↔ term <:+: text)
      ∧ (Like.matches (· == ·) (containing term) text = true ↔ term <:+: text)
      ∧ ¬Dangling (containing term) := by
  have hmatches : Like.matches (· == ·) (containing term) text = true ↔ term <:+: text := by
    have hfolded := matches_containing id term text
    rwa [List.map_id, List.map_id] at hfolded
  have hread : tokens? (containing term) ≠ none := by
    rw [tokens?_containing]
    exact Option.some_ne_none _
  exact ⟨matches_iff_resembles.symm.trans hmatches, hmatches, mt tokens?_eq_none_iff.mpr hread⟩

example : Like.matches (· == ·) (containing ['5', '%', '\\']) ['1', '5', '%', '\\', '!'] = true := by
  decide

end Registrar.Sql.Like
