import Mathlib.Tactic.Common

/-!
# Traces of a transition system

`Trace Step s₀ steps s` — the steps lead from `s₀` to `s`; each is recorded with the state before
it.

* `Trace.invariant` — the rule for a property that every step keeps.
* `Trace.guarded` — the rule for a property that only bad steps can break: when no step of a trace
  is bad, an invariant that the other steps keep holds in every state that the trace visits.
* `Trace.successor` — what comes after a step of the trace is visited too.
-/

namespace Custode.Found

variable {S T : Type}

/-- The steps, with the states before them, lead from one state to another. -/
inductive Trace (Step : S → T → S → Prop) (s₀ : S) : List (S × T) → S → Prop
  | nil : Trace Step s₀ [] s₀
  | snoc {steps : List (S × T)} {s s' : S} {t : T} (before : Trace Step s₀ steps s)
      (now : Step s t s') : Trace Step s₀ (steps ++ [(s, t)]) s'

/-- The states of a trace with these steps that ends in this state. -/
def visited (steps : List (S × T)) (s : S) : List S := steps.map Prod.fst ++ [s]

/-- One more step visits one more state. -/
lemma mem_visited_snoc {steps : List (S × T)} {s s' u : S} {t : T} :
    u ∈ visited (steps ++ [(s, t)]) s' ↔ u ∈ visited steps s ∨ u = s' := by
  simp [visited, or_assoc]

namespace Trace

variable {Step : S → T → S → Prop} {s₀ s : S} {steps : List (S × T)}

/-- An invariant that every step keeps. -/
theorem invariant (h : Trace Step s₀ steps s) (Inv : S → Prop) (hstart : Inv s₀)
    (hstep : ∀ s t s', Inv s → Step s t s' → Inv s') : Inv s := by
  induction h with
  | nil => exact hstart
  | snoc _ now ih => exact hstep _ _ _ ih now

/-- An invariant that every step keeps, unless it is bad. -/
theorem guarded (h : Trace Step s₀ steps s) (Inv : S → Prop) (Bad : S → T → Prop)
    (hstart : Inv s₀) (hstep : ∀ s t s', Inv s → Step s t s' → ¬ Bad s t → Inv s')
    (hgood : ∀ step ∈ steps, ¬ Bad step.1 step.2) : ∀ u ∈ visited steps s, Inv u := by
  induction h with
  | nil =>
      intro u hu
      rw [visited, List.map_nil, List.nil_append, List.mem_singleton] at hu
      rw [hu]
      exact hstart
  | @snoc steps s s' t before now ih =>
      have hbefore := ih fun step hmem => hgood step (List.mem_append_left _ hmem)
      intro u hu
      rcases mem_visited_snoc.mp hu with hu | rfl
      · exact hbefore u hu
      · apply hstep s t u (hbefore s (by simp [visited])) now
        exact hgood (s, t) (by simp)

/-- The state after each step is visited. -/
theorem successor (h : Trace Step s₀ steps s) :
    ∀ step ∈ steps, ∃ u ∈ visited steps s, Step step.1 step.2 u := by
  induction h with
  | nil => exact fun step hmem => absurd hmem List.not_mem_nil
  | @snoc steps s s' t before now ih =>
      intro step hmem
      rw [List.mem_append, List.mem_singleton] at hmem
      rcases hmem with hmem | rfl
      · obtain ⟨u, hu, hstep⟩ := ih step hmem
        exact ⟨u, mem_visited_snoc.mpr (.inl hu), hstep⟩
      · exact ⟨s', mem_visited_snoc.mpr (.inr rfl), now⟩

end Trace

end Custode.Found
