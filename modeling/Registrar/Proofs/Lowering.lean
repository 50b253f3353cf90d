import Registrar.Text.Lowercase
import Registrar.Text.Search
import Mathlib.Data.List.Infix

/-!
# Lower case

Lower-casing leaves alone what it has produced, so that a lower-cased term can be looked for in a
text that is lower-cased whole. Folding the case of ASCII letters only does a part of that work:
what it makes look like the term, lower-casing does too.
-/

namespace Registrar.Text

/-! ### Settled characters -/

/-- Lower-casing takes the code to itself: no run of capitals holds it, and it is not the dotted capital `İ`. -/
def Settled (code : Nat) : Prop :=
  code ≠ 0x130 ∧ ∀ run ∈ caseRuns, run.holds code = false

theorem settled_iff (code : Nat) :
    Settled code ↔ (code != 0x130 && caseRuns.all (!·.holds code)) = true := by
  simp [Settled]

instance (code : Nat) : Decidable (Settled code) :=
  decidable_of_iff' _ (settled_iff code)

/-- The places where the capitals of a run go lie outside the other run, or between its members. -/
def CaseRun.avoids (run other : CaseRun) : Bool :=
  Nat.blt (run.last + run.offset).toNat other.first
    || Nat.blt other.last (run.first + run.offset).toNat
    || other.stride == 2 && (run.stride == 2 || run.first == run.last)
      && ((run.first : Int) + run.offset - other.first) % 2 == 1

theorem CaseRun.holds_eq_false_of_avoids {run other : CaseRun} (havoids : run.avoids other = true)
    {code target : Nat} (hcode : run.holds code = true)
    (htarget : (target : Int) = code + run.offset) : other.holds target = false := by
  unfold holds at hcode ⊢
  unfold avoids at havoids
  simp only [Bool.and_eq_true, Bool.or_eq_true, decide_eq_true_eq, beq_iff_eq, Nat.blt_eq]
    at hcode havoids
  obtain ⟨⟨hfirst, hlast⟩, hstep⟩ := hcode
  rw [Bool.and_eq_false_iff, Bool.and_eq_false_iff, decide_eq_false_iff_not,
    decide_eq_false_iff_not, beq_eq_false_iff_ne]
  rcases havoids with (hbelow | habove) | ⟨⟨hother, hrun⟩, hodd⟩
  · exact Or.inl (Or.inl (by omega))
  · exact Or.inl (Or.inr (by omega))
  · rw [hother]
    rcases hrun with hstride | hsingle
    · rw [hstride] at hstep
      omega
    · omega

/-- No capital goes to a place where a capital stands, `İ` being one. -/
theorem caseRuns_avoid :
    caseRuns.all (fun run => (⟨0x130, 0x130, 1, 0⟩ :: caseRuns).all run.avoids) = true := by
  decide +kernel

theorem settled_zero : Settled 0 := by
  decide +kernel

/-- What a capital is lowered to is not lowered any further. -/
theorem settled_target {run : CaseRun} (hrun : run ∈ caseRuns) {code target : Nat}
    (hcode : run.holds code = true) (htarget : (target : Int) = code + run.offset) :
    Settled target := by
  have havoid := List.all_eq_true.mp (List.all_eq_true.mp caseRuns_avoid run hrun)
  constructor
  · rintro rfl
    have hdotted := CaseRun.holds_eq_false_of_avoids (havoid _ List.mem_cons_self) hcode htarget
    simp [CaseRun.holds] at hdotted
  · intro other hother
    exact CaseRun.holds_eq_false_of_avoids (havoid other (List.mem_cons_of_mem _ hother)) hcode
      htarget

/-! ### What lower-casing produces -/

theorem toNat_ofNat (code : Nat) :
    (Char.ofNat code).toNat = if code.isValidChar then code else 0 := by
  by_cases hvalid : code.isValidChar
  · rw [if_pos hvalid, Char.ofNat, dif_pos hvalid]
    rfl
  · rw [if_neg hvalid, Char.ofNat, dif_neg hvalid]
    rfl

def asciiRun : CaseRun :=
  ⟨0x41, 0x5A, 1, 32⟩

theorem asciiRun_holds_iff {c : Char} :
    asciiRun.holds c.toNat = true ↔ ('A' ≤ c && c ≤ 'Z') = true := by
  unfold CaseRun.holds
  rw [Bool.and_eq_true, Bool.and_eq_true, Bool.and_eq_true, decide_eq_true_iff, decide_eq_true_iff,
    decide_eq_true_iff, decide_eq_true_iff, beq_iff_eq]
  exact and_iff_left (Nat.mod_one _)

theorem asciiRun_mem : asciiRun ∈ caseRuns := by
  decide

theorem caseRuns_ascii : ∀ run ∈ caseRuns, run = asciiRun ∨ 0x80 ≤ run.first := by
  decide +kernel

theorem lowerChar_eq_asciiLower {c : Char} (hc : c.toNat < 0x80) :
    lowerChar c = [asciiLower c] := by
  unfold lowerChar asciiLower
  rw [if_pos hc]
  split <;> rfl

theorem lowerChar_of_settled {c : Char} (hc : Settled c.toNat) : lowerChar c = [c] := by
  obtain ⟨hdotted, hruns⟩ := hc
  unfold lowerChar
  split
  · rw [if_neg]
    rw [← asciiRun_holds_iff, hruns asciiRun asciiRun_mem]
    exact Bool.false_ne_true
  · rw [if_neg (by simpa using hdotted), List.find?_eq_none.mpr]
    exact fun run hrun => by simp [hruns run hrun]

/-- The character that a capital of a run goes to is settled. Were its code out of range, it would be the zero character. -/
theorem settled_ofNat {run : CaseRun} (hrun : run ∈ caseRuns) {code : Nat}
    (hcode : run.holds code = true) :
    Settled (Char.ofNat (code + run.offset).toNat).toNat := by
  by_cases hneg : (code : Int) + run.offset < 0
  · rw [Int.toNat_of_nonpos (Int.le_of_lt hneg)]
    exact settled_zero
  · have htarget : ((code + run.offset).toNat : Int) = code + run.offset :=
      Int.toNat_of_nonneg (Int.not_lt.mp hneg)
    rw [toNat_ofNat]
    split
    · exact settled_target hrun hcode htarget
    · exact settled_zero

/-- Lowering is finished after one pass. -/
theorem settled_of_mem_lowerChar {c d : Char} (hd : d ∈ lowerChar c) : Settled d.toNat := by
  unfold lowerChar at hd
  split at hd
  · next hascii =>
      split at hd
      · next hcapital =>
          rw [List.mem_singleton.mp hd]
          exact settled_ofNat asciiRun_mem (asciiRun_holds_iff.mpr hcapital)
      · next hother =>
          rw [List.mem_singleton.mp hd]
          refine ⟨by omega, fun run hrun => ?_⟩
          rcases caseRuns_ascii run hrun with rfl | hlarge
          · rw [← asciiRun_holds_iff, Bool.not_eq_true] at hother
            exact hother
          · have hbelow : ¬ run.first ≤ c.toNat := by omega
            simp [CaseRun.holds, hbelow]
  · split at hd
    · have hparts : Settled 'i'.toNat ∧ Settled (Char.ofNat 0x307).toNat := by decide +kernel
      rcases List.mem_pair.mp hd with rfl | rfl
      · exact hparts.1
      · exact hparts.2
    · next hdotted =>
        split at hd
        · next run hfound =>
            rw [List.mem_singleton.mp hd]
            have hheld : run.holds c.toNat = true :=
              @List.find?_some _ (fun run : CaseRun => run.holds c.toNat) _ _ hfound
            exact settled_ofNat (List.mem_of_find?_eq_some hfound) hheld
        · next hnone =>
            rw [List.mem_singleton.mp hd]
            refine ⟨by simpa using hdotted, fun run hrun => ?_⟩
            simpa using List.find?_eq_none.mp hnone run hrun

theorem Settled.ne_sigma {c : Char} (hc : Settled c.toNat) : c ≠ 'Σ' := by
  rintro rfl
  exact absurd (hc.2 ⟨0x3A3, 0x3AB, 1, 32⟩ (by decide)) (by decide)

/-- The two small sigmas are settled, and so is all else that lower-casing produces. -/
theorem settled_of_mem_lowerAt {before rest : List Char} {c d : Char}
    (hd : d ∈ lowerAt before c rest) : Settled d.toNat := by
  unfold lowerAt at hd
  split at hd
  · have hsigma : Settled 'σ'.toNat ∧ Settled 'ς'.toNat := by decide +kernel
    split at hd
    · exact List.mem_singleton.mp hd ▸ hsigma.2
    · exact List.mem_singleton.mp hd ▸ hsigma.1
  · exact settled_of_mem_lowerChar hd

theorem settled_of_mem_lowerAfter {before chars : List Char} {d : Char}
    (hd : d ∈ lowerAfter before chars) : Settled d.toNat := by
  induction chars generalizing before with
  | nil => exact absurd hd List.not_mem_nil
  | cons c chars ih =>
      rw [lowerAfter, List.mem_append] at hd
      exact hd.elim settled_of_mem_lowerAt ih

theorem lowerAt_of_settled {c : Char} (hc : Settled c.toNat) (before rest : List Char) :
    lowerAt before c rest = [c] := by
  rw [lowerAt, if_neg hc.ne_sigma, lowerChar_of_settled hc]

theorem lowerAt_eq_asciiLower {c : Char} (hc : c.toNat < 0x80) (before rest : List Char) :
    lowerAt before c rest = [asciiLower c] := by
  have hsigma : c ≠ 'Σ' := by
    rintro rfl
    exact absurd hc (by decide)
  rw [lowerAt, if_neg hsigma, lowerChar_eq_asciiLower hc]

/-- On ASCII letters the two ways of lowering agree. -/
theorem lowerAfter_of_ascii {chars : List Char} (hchars : ∀ c ∈ chars, c.toNat < 0x80)
    (before : List Char) : lowerAfter before chars = chars.map asciiLower := by
  induction chars generalizing before with
  | nil => rfl
  | cons c chars ih =>
      rw [lowerAfter, lowerAt_eq_asciiLower (hchars c List.mem_cons_self),
        ih fun d hd => hchars d (List.mem_cons_of_mem _ hd)]
      rfl

/-! ### Folding ASCII letters only -/

theorem asciiLower_eq_or (c : Char) : c.toNat < 0x80 ∨ asciiLower c = c := by
  by_cases hascii : c.toNat < 0x80
  · exact Or.inl hascii
  · refine Or.inr (if_neg fun hcapital => hascii ?_)
    rw [← asciiRun_holds_iff] at hcapital
    simp only [CaseRun.holds, Bool.and_eq_true, decide_eq_true_iff] at hcapital
    have hlast : c.toNat ≤ 0x5A := hcapital.1.2
    omega

theorem asciiLower_toNat_eq_zero {c : Char} : (asciiLower c).toNat = 0 ↔ c.toNat = 0 := by
  unfold asciiLower
  split
  · next hcapital =>
      rw [← asciiRun_holds_iff] at hcapital
      simp only [CaseRun.holds, Bool.and_eq_true, decide_eq_true_iff] at hcapital
      have hfirst : 0x41 ≤ c.toNat := hcapital.1.1
      have hlast : c.toNat ≤ 0x5A := hcapital.1.2
      have hvalid : (c.toNat + 32).isValidChar := Or.inl (by omega)
      rw [toNat_ofNat, if_pos hvalid]
      omega
  · rfl

theorem asciiLower_of_settled {c : Char} (hc : Settled c.toNat) : asciiLower c = c := by
  refine if_neg fun hcapital => ?_
  rw [← asciiRun_holds_iff, hc.2 asciiRun asciiRun_mem] at hcapital
  exact Bool.false_ne_true hcapital

theorem asciiLower_asciiLower (c : Char) : asciiLower (asciiLower c) = asciiLower c := by
  rcases asciiLower_eq_or c with hascii | hfixed
  · refine asciiLower_of_settled (settled_of_mem_lowerChar (c := c) ?_)
    rw [lowerChar_eq_asciiLower hascii]
    exact List.mem_singleton_self _
  · rw [hfixed, hfixed]

theorem map_asciiLower_of_settled {chars : List Char} (hchars : ∀ c ∈ chars, Settled c.toNat) :
    chars.map asciiLower = chars := by
  have hsame : chars.map asciiLower = chars.map id :=
    List.map_congr_left fun c hc => asciiLower_of_settled (hchars c hc)
  rw [hsame, List.map_id]

theorem lowerAt_of_settled_asciiLower {c : Char} (hc : Settled (asciiLower c).toNat)
    (before rest : List Char) : lowerAt before c rest = [asciiLower c] := by
  rcases asciiLower_eq_or c with hascii | hfixed
  · exact lowerAt_eq_asciiLower hascii before rest
  · rw [hfixed] at hc ⊢
    exact lowerAt_of_settled hc before rest

section Infix

variable {needle text : List Char} (hneedle : ∀ c ∈ needle, Settled c.toNat)

include hneedle

/-- What is found at the front of the text in ASCII lower case is found there in full lower case too, if it is itself settled. -/
theorem prefix_lowerAfter (before : List Char) (hlead : needle <+: text.map asciiLower) :
    needle <+: lowerAfter before text := by
  induction needle generalizing before text with
  | nil => exact List.nil_prefix
  | cons c needle ih =>
      cases text with
      | nil => exact absurd hlead (by simp)
      | cons d text =>
          rw [List.map_cons, List.cons_prefix_cons] at hlead
          obtain ⟨rfl, hrest⟩ := hlead
          rw [lowerAfter, lowerAt_of_settled_asciiLower (hneedle _ List.mem_cons_self),
            List.singleton_append, List.cons_prefix_cons]
          exact ⟨rfl, ih (fun c hc => hneedle c (List.mem_cons_of_mem _ hc)) _ hrest⟩

/-- Settled text that folding brings out, lower-casing brings out too, whatever surrounds it. -/
theorem infix_lowerAfter (before : List Char) (hpart : needle <:+: text.map asciiLower) :
    needle <:+: lowerAfter before text := by
  induction text generalizing before with
  | nil => simpa [lowerAfter] using hpart
  | cons d text ih =>
      rw [List.map_cons, List.infix_cons_iff] at hpart
      rcases hpart with hlead | hpart
      · rw [← List.map_cons] at hlead
        exact (prefix_lowerAfter hneedle before hlead).isInfix
      · rw [lowerAfter]
        exact (ih _ hpart).trans (List.suffix_append _ _).isInfix

end Infix

end Registrar.Text
