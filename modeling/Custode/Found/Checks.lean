import Mathlib.Data.List.Forall2
import Mathlib.Tactic.Common

/-!
# Checks in order

A validation is a list of conditions in the order they are checked, each with the error that is
reported when it is the first that fails. `FirstViolated` is that choice as a relation, and
`firstError` as a function; a function that makes the checks one after the other is compared with
`firstError` step by step (`firstError_cons`).

* `firstError_eq_none_iff` — nothing is reported exactly when every condition holds;
* `firstError_eq_some_iff` — otherwise the error of the first violated condition is.

Two facts about `Except` go with it: what a successful computation was made of, step by step
(`exists_of_bind_eq_ok`) and member by member (`mapM_eq_ok_iff`).
-/

namespace Custode.Found.Checks

variable {ε : Type}

/-! ## Successful computations -/

/-- A computation with two steps succeeds when both do. -/
lemma exists_of_bind_eq_ok {α β : Type} {first : Except ε α} {next : α → Except ε β} {b : β}
    (h : first >>= next = .ok b) : ∃ a, first = .ok a ∧ next a = .ok b := by
  cases first with
  | error error => cases h
  | ok a => exact ⟨a, rfl, h⟩

/-- A computation over a list succeeds when it does for every member. -/
lemma mapM_eq_ok_iff {α β : Type} {f : α → Except ε β} {l : List α} {l' : List β} :
    l.mapM f = .ok l' ↔ List.Forall₂ (fun a b => f a = .ok b) l l' := by
  induction l generalizing l' with
  | nil =>
      rw [List.mapM_nil, List.forall₂_nil_left_iff]
      exact ⟨fun h => (Except.ok.inj h).symm, fun h => h ▸ rfl⟩
  | cons a l ih =>
      rw [List.mapM_cons, List.forall₂_cons_left_iff]
      constructor
      · intro h
        obtain ⟨b, hb, h⟩ := exists_of_bind_eq_ok h
        obtain ⟨rest, hrest, h⟩ := exists_of_bind_eq_ok h
        exact ⟨b, rest, hb, ih.mp hrest, (Except.ok.inj h).symm⟩
      · rintro ⟨b, rest, hb, hrest, rfl⟩
        rw [hb, ih.mpr hrest]
        rfl

/-! ## The first violated condition -/

/-- `error` belongs to the first condition that does not hold. -/
def FirstViolated (checks : List (ε × Prop)) (error : ε) : Prop :=
  ∃ before condition after, checks = before ++ (error, condition) :: after ∧
    (∀ check ∈ before, check.2) ∧ ¬ condition

open Classical in
/-- The error of the first condition that does not hold. -/
noncomputable def firstError : List (ε × Prop) → Option ε
  | [] => none
  | (error, condition) :: checks => if condition then firstError checks else some error

/-- No check, no error. -/
@[simp] lemma firstError_nil : firstError ([] : List (ε × Prop)) = none := rfl

/-- A check that holds is passed over. -/
lemma firstError_of_holds {error : ε} {condition : Prop} (h : condition)
    (checks : List (ε × Prop)) : firstError ((error, condition) :: checks) = firstError checks :=
  if_pos h

/-- A check that fails first is the error. -/
lemma firstError_of_fails {error : ε} {condition : Prop} (h : ¬ condition)
    (checks : List (ε × Prop)) : firstError ((error, condition) :: checks) = some error :=
  if_neg h

/-- One check in front: a test that fails where its condition does, and the other checks where it
holds. -/
lemma firstError_cons {error : ε} {condition test : Prop} [Decidable test] {others : Option ε}
    {checks : List (ε × Prop)} (htest : test ↔ ¬ condition)
    (hothers : condition → others = firstError checks) :
    (if test then some error else others) = firstError ((error, condition) :: checks) := by
  by_cases h : condition
  · rw [if_neg (not_not_intro h ∘ htest.mp), firstError_of_holds h, hothers h]
  · rw [if_pos (htest.mpr h), firstError_of_fails h]

/-- There is no error when every check holds. -/
lemma firstError_eq_none_iff {checks : List (ε × Prop)} :
    firstError checks = none ↔ ∀ check ∈ checks, check.2 := by
  induction checks with
  | nil => simp
  | cons check checks ih =>
      obtain ⟨error, condition⟩ := check
      by_cases h : condition
      · rw [firstError_of_holds h, ih, List.forall_mem_cons]
        exact ⟨fun hrest => ⟨h, hrest⟩, fun hall => hall.2⟩
      · rw [firstError_of_fails h, List.forall_mem_cons]
        exact iff_of_false (Option.some_ne_none _) fun hall => h hall.1

/-- The first violated check, behind one that holds. -/
lemma firstViolated_cons_of_holds {error error' : ε} {condition : Prop} (h : condition)
    {checks : List (ε × Prop)} :
    FirstViolated ((error', condition) :: checks) error ↔ FirstViolated checks error := by
  constructor
  · rintro ⟨before, failing, after, hsplit, hbefore, hfails⟩
    cases before with
    | nil =>
        rw [List.nil_append, List.cons.injEq, Prod.mk.injEq] at hsplit
        exact absurd (hsplit.1.2 ▸ h) hfails
    | cons first before =>
        rw [List.cons_append, List.cons.injEq] at hsplit
        exact ⟨before, failing, after, hsplit.2, fun check hcheck =>
          hbefore check (List.mem_cons_of_mem _ hcheck), hfails⟩
  · rintro ⟨before, failing, after, rfl, hbefore, hfails⟩
    refine ⟨(error', condition) :: before, failing, after, rfl, ?_, hfails⟩
    intro check hcheck
    rcases List.mem_cons.mp hcheck with rfl | hcheck
    · exact h
    · exact hbefore check hcheck

/-- The first violated check is the first one when it fails. -/
lemma firstViolated_cons_of_fails {error error' : ε} {condition : Prop} (h : ¬ condition)
    {checks : List (ε × Prop)} :
    FirstViolated ((error', condition) :: checks) error ↔ error' = error := by
  constructor
  · rintro ⟨before, failing, after, hsplit, hbefore, hfails⟩
    cases before with
    | nil =>
        rw [List.nil_append, List.cons.injEq, Prod.mk.injEq] at hsplit
        exact hsplit.1.1
    | cons first before =>
        rw [List.cons_append, List.cons.injEq] at hsplit
        have hholds := hbefore first List.mem_cons_self
        rw [← hsplit.1] at hholds
        exact absurd hholds h
  · rintro rfl
    exact ⟨[], condition, checks, rfl, by simp, h⟩

/-- The first error is that of the first violated check. -/
lemma firstError_eq_some_iff {checks : List (ε × Prop)} {error : ε} :
    firstError checks = some error ↔ FirstViolated checks error := by
  induction checks with
  | nil =>
      refine iff_of_false (by simp) ?_
      rintro ⟨before, condition, after, hsplit, -⟩
      simp at hsplit
  | cons check checks ih =>
      obtain ⟨error', condition⟩ := check
      by_cases h : condition
      · rw [firstError_of_holds h, ih, firstViolated_cons_of_holds h]
      · rw [firstError_of_fails h, firstViolated_cons_of_fails h, Option.some.injEq]

end Custode.Found.Checks
