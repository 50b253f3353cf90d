import Registrar.Sql.Like
import Mathlib.Data.List.Infix

/-!
# Patterns of contained texts

A pattern made by escaping a term stands for the texts that contain the term, whatever characters
the term has. Characters are compared up to a fold, the identity for exact comparison.
-/

namespace Registrar.Sql.Like

def sameUpTo (fold : Char → Char) (a b : Char) : Bool :=
  fold a == fold b

variable {fold : Char → Char} {same : Char → Char → Bool} {parts : List Token}
  {chars text : List Char}

/-! ### Reading a pattern -/

theorem escape_cons (c : Char) (chars : List Char) :
    escape (c :: chars) = (if isSpecial c then ['\\', c] else [c]) ++ escape chars :=
  List.flatMap_cons

theorem tokens?_cons_of_ne {c : Char} (hescape : c ≠ '\\') (rest : List Char) :
    tokens? (c :: rest) = (tokens? rest).map
      ((if c = '%' then .run else if c = '_' then .one else .char c) :: ·) :=
  tokens?.eq_4 _ _ (fun _ _ h _ => hescape h) (fun h _ => hescape h)

/-- A special character is read with the escape character before it, any other by itself. -/
theorem tokens?_escape_append (chars rest : List Char) :
    tokens? (escape chars ++ rest) = (tokens? rest).map (chars.map Token.char ++ ·) := by
  induction chars with
  | nil => simp [escape]
  | cons c chars ih =>
      rw [escape_cons, List.append_assoc, List.map_cons]
      by_cases hspecial : isSpecial c = true
      · rw [if_pos hspecial]
        simp [tokens?, ih, Function.comp_def]
      · have hplain : c ≠ '%' ∧ c ≠ '_' ∧ c ≠ '\\' := by
          simpa [isSpecial, and_assoc] using hspecial
        rw [if_neg hspecial, List.singleton_append, tokens?_cons_of_ne hplain.2.2]
        simp [ih, hplain.1, hplain.2.1, Function.comp_def]

theorem tokens?_containing (chars : List Char) :
    tokens? (containing chars) = some (.run :: (chars.map Token.char ++ [.run])) := by
  have hrun : tokens? ['%'] = some [.run] := rfl
  unfold containing
  rw [List.cons_append, tokens?_cons_of_ne (by simp), tokens?_escape_append, hrun]
  simp

theorem tokens?_run_escape (chars : List Char) :
    tokens? ('%' :: escape chars) = some (.run :: chars.map Token.char) := by
  have hend : tokens? [] = some [] := rfl
  rw [tokens?_cons_of_ne (by simp), ← List.append_nil (escape chars), tokens?_escape_append, hend]
  simp

/-! ### Matching -/

/-- What is left of a list from some point on is an end of it. -/
theorem mem_tails {tail : List Char} : tail ∈ tails text ↔ tail <:+ text := by
  induction text with
  | nil => simp [tails]
  | cons c text ih => rw [tails, List.mem_cons, ih, List.suffix_cons_iff]

/-- A run may swallow any beginning of the text. -/
theorem matchTokens_run : matchTokens same (.run :: parts) text = true
    ↔ ∃ tail, tail <:+ text ∧ matchTokens same parts tail = true := by
  rw [matchTokens, List.any_eq_true]
  simp only [mem_tails]

theorem matchTokens_char_append : matchTokens (sameUpTo fold) (chars.map .char ++ parts) text = true
    ↔ ∃ lead tail, text = lead ++ tail ∧ lead.map fold = chars.map fold
      ∧ matchTokens (sameUpTo fold) parts tail = true := by
  induction chars generalizing text with
  | nil => simp
  | cons c chars ih =>
      cases text with
      | nil => simp [matchTokens]
      | cons d text =>
          simp only [List.map_cons, List.cons_append, matchTokens, Bool.and_eq_true, ih]
          constructor
          · rintro ⟨hsame, lead, tail, rfl, hlead, htail⟩
            have hfold : fold d = fold c := (beq_iff_eq.mp hsame).symm
            exact ⟨d :: lead, tail, rfl, by rw [List.map_cons, hfold, hlead], htail⟩
          · rintro ⟨lead, tail, hsplit, hlead, htail⟩
            obtain ⟨first, rest, rfl⟩ : ∃ first rest, lead = first :: rest :=
              List.exists_cons_of_ne_nil fun hnil => by simp [hnil] at hlead
            obtain ⟨rfl, rfl⟩ := List.cons.inj hsplit
            simp only [List.map_cons, List.cons.injEq] at hlead
            exact ⟨by simp [sameUpTo, hlead.1], rest, tail, rfl, hlead.2, htail⟩

theorem matchTokens_nil : matchTokens same [] text = true ↔ text = [] := by
  simp [matchTokens]

theorem matchTokens_run_nil : matchTokens same [.run] text = true :=
  matchTokens_run.mpr ⟨[], List.nil_suffix, rfl⟩

/-- **Containment.** The pattern of a term stands for exactly the texts that contain the term. -/
theorem matches_containing (fold : Char → Char) (chars text : List Char) :
    Like.matches (sameUpTo fold) (containing chars) text = true
      ↔ chars.map fold <:+: text.map fold := by
  unfold Like.matches
  simp only [tokens?_containing, matchTokens_run, matchTokens_char_append, matchTokens_run_nil,
    and_true]
  constructor
  · rintro ⟨_, ⟨front, rfl⟩, lead, tail, rfl, hlead⟩
    exact ⟨front.map fold, tail.map fold, by simp [hlead]⟩
  · rintro ⟨front, tail, hsplit⟩
    obtain ⟨leading, trailing, rfl, hleading, rfl⟩ := List.map_eq_append_iff.mp hsplit.symm
    obtain ⟨earlier, later, rfl, -, hlater⟩ := List.map_eq_append_iff.mp hleading
    exact ⟨later ++ trailing, ⟨earlier, by simp⟩, later, trailing, rfl, hlater⟩

/-- Behind a broken off pattern nothing may follow: it stands for the texts that end in the term. -/
theorem matches_run_escape (fold : Char → Char) (chars text : List Char) :
    Like.matches (sameUpTo fold) ('%' :: escape chars) text = true
      ↔ chars.map fold <:+ text.map fold := by
  have hparts : chars.map Token.char = chars.map Token.char ++ [] := (List.append_nil _).symm
  unfold Like.matches
  rw [tokens?_run_escape, hparts]
  simp only [matchTokens_run, matchTokens_char_append, matchTokens_nil]
  constructor
  · rintro ⟨_, ⟨front, rfl⟩, lead, _, rfl, hlead, rfl⟩
    exact ⟨front.map fold, by simp [hlead]⟩
  · rintro ⟨front, hsplit⟩
    obtain ⟨earlier, later, rfl, -, hlater⟩ := List.map_eq_append_iff.mp hsplit.symm
    exact ⟨later, ⟨earlier, rfl⟩, later, [], by simp, hlater, rfl⟩

end Registrar.Sql.Like
