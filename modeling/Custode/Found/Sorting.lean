import Mathlib.Data.List.Duplicate
import Mathlib.Tactic.Common

/-!
# Sorting by a comparison, and neighbouring repeats

`sortBy cmp` sorts a list by a comparison. When the comparison is a lawful total order whose `eq`
is equality, the list has exactly one sorted permutation (`eq_of_perm`), so an unstable sort gives
the same result and the input's order does not matter (`sortBy_eq_of_perm`).

`firstRepeat` looks for a repeat among neighbours only. Over a sorted list that finds every one:
none is found exactly when the list is strictly increasing (`firstRepeat_eq_none_iff`), and this is
the same as having no duplicate (`nodup_iff_of_sorted`).
-/

namespace Custode.Found.Sorting

variable {α : Type} {cmp : α → α → Ordering} {l l' : List α}

/-- Sorts a list by a comparison (`slice::sort_unstable_by`). -/
def sortBy (cmp : α → α → Ordering) (l : List α) : List α :=
  l.mergeSort fun a b => (cmp a b).isLE

/-- The list is sorted by the comparison. -/
def Sorted (cmp : α → α → Ordering) (l : List α) : Prop :=
  l.Pairwise fun a b => (cmp a b).isLE = true

/-- The list is strictly increasing in the comparison. -/
def Increasing (cmp : α → α → Ordering) (l : List α) : Prop :=
  l.Pairwise fun a b => cmp a b = .lt

/-- Sorting permutes. -/
lemma sortBy_perm (cmp : α → α → Ordering) (l : List α) : (sortBy cmp l).Perm l :=
  List.mergeSort_perm l _

/-- Sorting sorts. -/
lemma sorted_sortBy [Std.TransCmp cmp] (l : List α) : Sorted cmp (sortBy cmp l) := by
  apply List.pairwise_mergeSort
  · intro a b c hab hbc
    exact Std.TransCmp.isLE_trans hab hbc
  · intro a b
    rw [Bool.or_eq_true]
    rcases hab : (cmp a b).isLE with _ | _
    · have hswap : cmp b a = (cmp a b).swap := Std.OrientedCmp.eq_swap
      rw [hswap]
      refine .inr ?_
      cases hcmp : cmp a b <;> simp_all
    · exact .inl rfl

/-- Two elements that are at most each other are equal. -/
lemma eq_of_isLE [Std.OrientedCmp cmp] [Std.LawfulEqCmp cmp] {a b : α}
    (hab : (cmp a b).isLE = true) (hba : (cmp b a).isLE = true) : a = b := by
  have hswap : cmp b a = (cmp a b).swap := Std.OrientedCmp.eq_swap
  rw [hswap] at hba
  cases hcmp : cmp a b with
  | lt => simp [hcmp] at hba
  | eq => exact Std.LawfulEqCmp.eq_of_compare hcmp
  | gt => simp [hcmp] at hab

/-- A list has one sorted permutation. -/
lemma eq_of_perm [Std.OrientedCmp cmp] [Std.LawfulEqCmp cmp] (h : l.Perm l')
    (hl : Sorted cmp l) (hl' : Sorted cmp l') : l = l' := by
  apply List.Perm.eq_of_pairwise _ hl hl' h
  intro a b _ _ hab hba
  exact eq_of_isLE hab hba

/-- The order of the input does not matter. -/
lemma sortBy_eq_of_perm [Std.TransCmp cmp] [Std.LawfulEqCmp cmp] (h : l.Perm l') :
    sortBy cmp l = sortBy cmp l' := by
  refine eq_of_perm ?_ (sorted_sortBy l) (sorted_sortBy l')
  exact (sortBy_perm cmp l).trans (h.trans (sortBy_perm cmp l').symm)

/-- An increasing list has no duplicates. -/
lemma nodup_of_increasing [Std.ReflCmp cmp] (h : Increasing cmp l) : l.Nodup := by
  apply h.imp
  rintro a b hab rfl
  have hself : cmp a a = .eq := Std.ReflCmp.compare_self
  rw [hself] at hab
  cases hab

/-! ## Neighbouring repeats -/

variable [DecidableEq α]

/-- The first element that equals the one in front of it. -/
def firstRepeat (l : List α) : Option α :=
  (l.zip (l.drop 1)).findSome? fun pair => if pair.1 = pair.2 then some pair.2 else none

/-- The first repeat, from the head of the list. -/
lemma firstRepeat_cons_cons (a b : α) (l : List α) :
    firstRepeat (a :: b :: l) = if a = b then some b else firstRepeat (b :: l) := by
  unfold firstRepeat
  rw [List.drop_one, List.tail_cons, List.zip_cons_cons, List.findSome?_cons]
  split_ifs with hab
  · rfl
  · rfl

/-- A neighbouring repeat is a duplicate. -/
lemma duplicate_of_firstRepeat {a : α} (h : firstRepeat l = some a) : List.Duplicate a l := by
  induction l with
  | nil => cases h
  | cons b l ih =>
      cases l with
      | nil => cases h
      | cons c l =>
          rw [firstRepeat_cons_cons] at h
          split_ifs at h with hbc
          · obtain rfl := Option.some.inj h
            rw [hbc]
            exact List.Mem.duplicate_cons_self List.mem_cons_self
          · exact (ih h).duplicate_cons b

/-- A sorted list without neighbouring repeats is strictly increasing. -/
lemma increasing_of_firstRepeat [Std.TransCmp cmp] [Std.LawfulEqCmp cmp] (hl : Sorted cmp l)
    (h : firstRepeat l = none) : Increasing cmp l := by
  induction l with
  | nil => exact List.Pairwise.nil
  | cons a l ih =>
      obtain ⟨ha, hrest⟩ := List.pairwise_cons.mp hl
      cases l with
      | nil => exact List.pairwise_singleton _ _
      | cons b l =>
          rw [firstRepeat_cons_cons] at h
          split_ifs at h with hab
          have hincreasing := ih hrest h
          have hlt : cmp a b = .lt := by
            have hle := ha b List.mem_cons_self
            cases hcmp : cmp a b with
            | lt => rfl
            | eq => exact absurd (Std.LawfulEqCmp.eq_of_compare hcmp) hab
            | gt => simp [hcmp] at hle
          refine List.pairwise_cons.mpr ⟨?_, hincreasing⟩
          intro c hc
          rcases List.mem_cons.mp hc with rfl | hc
          · exact hlt
          · exact Std.TransCmp.lt_trans hlt ((List.pairwise_cons.mp hincreasing).1 c hc)

/-- A sorted list without a repeat is increasing. -/
lemma firstRepeat_eq_none_iff [Std.TransCmp cmp] [Std.LawfulEqCmp cmp] (hl : Sorted cmp l) :
    firstRepeat l = none ↔ Increasing cmp l := by
  refine ⟨increasing_of_firstRepeat hl, fun h => ?_⟩
  cases hrepeat : firstRepeat l with
  | none => rfl
  | some a => exact absurd (nodup_of_increasing h) (duplicate_of_firstRepeat hrepeat).not_nodup

/-- A sorted list has no duplicates exactly when it is increasing. -/
lemma nodup_iff_of_sorted [Std.TransCmp cmp] [Std.LawfulEqCmp cmp] (hl : Sorted cmp l) :
    l.Nodup ↔ Increasing cmp l := by
  refine ⟨fun h => ?_, nodup_of_increasing⟩
  apply increasing_of_firstRepeat hl
  cases hrepeat : firstRepeat l with
  | none => rfl
  | some a => exact absurd h (duplicate_of_firstRepeat hrepeat).not_nodup

end Custode.Found.Sorting
