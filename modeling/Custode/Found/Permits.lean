import Mathlib.Data.Finset.Card

/-!
# Permits that are conserved

A pool with a fixed number of permits: some are free, every other has an owner. `Conserved` says
that nothing is lost and nothing is invented, over any set of parties, finitely many of which own
one. Taking, giving back and handing over keep it.
-/

namespace Custode.Found

variable {ι : Type}

/-- Of the permits of a pool `free` are left, and each of the others has an owner of its own. -/
def Conserved (capacity free : Nat) (owns : ι → Bool) : Prop :=
  ∃ owners : Finset ι, (∀ i, i ∈ owners ↔ owns i = true) ∧ owners.card + free = capacity

namespace Conserved

variable {capacity free : Nat} {owns : ι → Bool} {i j : ι}

/-- At the start all permits are free. -/
lemma start (capacity : Nat) : Conserved capacity capacity fun _ : ι => false :=
  ⟨∅, by simp, by simp⟩

variable [DecidableEq ι]

/-- A free permit is taken by one who has none. -/
lemma take (h : Conserved capacity free owns) (hfree : 0 < free) (hnone : owns i = false) :
    Conserved capacity (free - 1) (Function.update owns i true) := by
  obtain ⟨owners, howners, hcard⟩ := h
  have hfresh : i ∉ owners := by
    rw [howners, hnone]
    exact Bool.false_ne_true
  refine ⟨insert i owners, ?_, ?_⟩
  · intro j
    by_cases hji : j = i
    · simp [hji]
    · simp [hji, howners]
  · rw [Finset.card_insert_of_notMem hfresh]
    omega

/-- A permit is given back by its owner. -/
lemma give (h : Conserved capacity free owns) (hown : owns i = true) :
    Conserved capacity (free + 1) (Function.update owns i false) := by
  obtain ⟨owners, howners, hcard⟩ := h
  have hmem : i ∈ owners := (howners i).mpr hown
  refine ⟨owners.erase i, ?_, ?_⟩
  · intro j
    by_cases hji : j = i
    · simp [hji]
    · simp [hji, howners]
  · have hpos := Finset.card_pos.mpr ⟨i, hmem⟩
    rw [Finset.card_erase_of_mem hmem]
    omega

/-- Handing over is giving back and taking again. -/
lemma move (h : Conserved capacity free owns) (hown : owns i = true) (hnone : owns j = false) :
    Conserved capacity free (Function.update (Function.update owns i false) j true) := by
  have hne : j ≠ i := by
    rintro rfl
    rw [hown] at hnone
    cases hnone
  apply (h.give hown).take (Nat.succ_pos free)
  rw [Function.update_of_ne hne]
  exact hnone

end Conserved

end Custode.Found
