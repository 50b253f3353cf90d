import Registrar.Proofs.PlaceOrder
import Mathlib.Data.List.Pairwise

/-!
# Sorted rows

Sorting is stable, so ties would show the order in which rows are stored. Rows that no tie joins
have one sorted arrangement only: it depends neither on how they are stored nor on whether they are
filtered before or after they are sorted.
-/

namespace Registrar

open Std

section Sorted

variable {ρ : Type} [Row ρ] {terms : List OrderTerm} {rows : List ρ}

def Untied (terms : List OrderTerm) (rows : List ρ) : Prop :=
  rows.Pairwise fun a b => compareRows terms a b ≠ .eq

def StrictlySorted (terms : List OrderTerm) (rows : List ρ) : Prop :=
  rows.Pairwise fun a b => compareRows terms a b = .lt

instance (terms : List OrderTerm) (rows : List ρ) : Decidable (StrictlySorted terms rows) :=
  inferInstanceAs (Decidable (rows.Pairwise fun a b => compareRows terms a b = .lt))

theorem sortRows_perm (terms : List OrderTerm) (rows : List ρ) : (sortRows terms rows).Perm rows :=
  List.mergeSort_perm rows _

@[simp]
theorem mem_sortRows {row : ρ} : row ∈ sortRows terms rows ↔ row ∈ rows :=
  (sortRows_perm terms rows).mem_iff

@[simp]
theorem length_sortRows : (sortRows terms rows).length = rows.length :=
  (sortRows_perm terms rows).length_eq

theorem sortRows_pairwise (terms : List OrderTerm) (rows : List ρ) :
    (sortRows terms rows).Pairwise fun a b => (compareRows terms a b).isLE := by
  have hle : (fun a b : ρ => compareRows terms a b != .gt)
      = fun a b => (compareRows terms a b).isLE := by
    funext a b
    exact Ordering.isLE_eq_not_beq_gt.symm
  unfold sortRows
  rw [hle]
  refine List.pairwise_mergeSort (fun a b c => TransCmp.isLE_trans) (fun a b => ?_) rows
  have hswap : compareRows terms b a = (compareRows terms a b).swap := OrientedCmp.eq_swap
  rw [hswap]
  cases compareRows terms a b <;> rfl

theorem Untied.perm {others : List ρ} (hrows : Untied terms rows) (hperm : rows.Perm others) :
    Untied terms others :=
  hperm.pairwise hrows fun hne heq => hne (OrientedCmp.eq_symm heq)

theorem Untied.filter (hrows : Untied terms rows) (p : ρ → Bool) : Untied terms (rows.filter p) :=
  List.Pairwise.filter p hrows

/-- Where no rows are tied, sorted means strictly sorted. -/
theorem Untied.strictlySorted_sortRows (hrows : Untied terms rows) :
    StrictlySorted terms (sortRows terms rows) := by
  have huntied : Untied terms (sortRows terms rows) := hrows.perm (sortRows_perm terms rows).symm
  refine ((sortRows_pairwise terms rows).and huntied).imp ?_
  rintro a b ⟨hle, hne⟩
  exact (Ordering.isLE_iff_eq_lt_or_eq_eq.mp hle).resolve_right hne

/-- A strictly sorted arrangement of the rows is the one that sorting gives. -/
theorem StrictlySorted.eq_sortRows {sorted : List ρ} (hsorted : StrictlySorted terms sorted)
    (hperm : sorted.Perm rows) : sorted = sortRows terms rows := by
  let Agree (a b : ρ) : Prop := (compareRows terms a b).isLE → (compareRows terms b a).isLE → a = b
  have hsymm : Symm Agree := ⟨fun a b h hba hab => (h hab hba).symm⟩
  have hagree : sorted.Pairwise Agree :=
    hsorted.imp fun hlt _ hba => absurd hba (OrientedCmp.not_isLE_of_lt hlt)
  have hantisymm : ∀ a ∈ sorted, ∀ b ∈ sorted, Agree a b := fun a ha b hb =>
    hagree.forall_of_forall (fun _ _ _ _ => rfl) ha hb
  have hle : sorted.Pairwise fun a b => (compareRows terms a b).isLE :=
    hsorted.imp Ordering.isLE_of_eq_lt
  have hsame : sorted.Perm (sortRows terms rows) := hperm.trans (sortRows_perm terms rows).symm
  refine List.Perm.eq_of_pairwise ?_ hle (sortRows_pairwise terms rows) hsame
  exact fun a b ha hb => hantisymm a ha b (hsame.mem_iff.mpr hb)

theorem Untied.sortRows_eq_of_perm {others : List ρ} (hrows : Untied terms rows)
    (hperm : rows.Perm others) : sortRows terms rows = sortRows terms others :=
  hrows.strictlySorted_sortRows.eq_sortRows ((sortRows_perm terms rows).trans hperm)

/-- Filtering may be done before or after the sorting. -/
theorem Untied.filter_sortRows (hrows : Untied terms rows) (p : ρ → Bool) :
    (sortRows terms rows).filter p = sortRows terms (rows.filter p) :=
  StrictlySorted.eq_sortRows (List.Pairwise.filter p hrows.strictlySorted_sortRows)
    ((sortRows_perm terms rows).filter p)

end Sorted

end Registrar
