import Mathlib.Data.List.Infix
import Mathlib.Tactic.Common

/-!
# Segments of a list and dot-segment removal

A list split at a separator is its list of segments. Two facts about that list carry what a path
allowlist does (and `exists_mem_splitOnP` says that nothing but separators is lost):

* `splitOn_prefix_iff` — the segments of `p` are the first segments of `s` exactly when `s` is `p`
  or continues `p` behind a separator;
* `of_mem_splitOnP` — a segment is made of members of the list and has no separator in it.

`removeDotSegments` is the removal of `.` and `..` from a list of segments, for any two tests that
tell these apart. Without such segments it changes nothing (`removeDotSegments_of_plain`).
-/

namespace Custode.Found.Segments

variable {α : Type}

/-! ## Splitting -/

/-- Joining two lists of segments. -/
lemma intercalate_append (x : α) {a b : List (List α)} (ha : a ≠ []) (hb : b ≠ []) :
    [x].intercalate (a ++ b) = [x].intercalate a ++ x :: [x].intercalate b := by
  induction a with
  | nil => exact absurd rfl ha
  | cons s a ih =>
      cases a with
      | nil =>
          rw [List.singleton_append, List.intercalate_cons_of_ne_nil hb,
            List.intercalate_singleton, List.append_assoc, List.singleton_append]
      | cons t a =>
          rw [List.cons_append, List.intercalate_cons_of_ne_nil (by simp),
            ih (List.cons_ne_nil _ _), List.intercalate_cons_of_ne_nil (List.cons_ne_nil _ _)]
          simp only [List.append_assoc]

/-- The segments of `p` come first among those of `s` exactly when `s` is `p`, or `p` followed by
a separator and more. -/
lemma splitOn_prefix_iff [BEq α] [LawfulBEq α] (x : α) (p s : List α) :
    p.splitOn x <+: s.splitOn x ↔ s = p ∨ p ++ [x] <+: s := by
  constructor
  · rintro ⟨rest, hrest⟩
    have hs : [x].intercalate (p.splitOn x ++ rest) = s := by
      rw [hrest, List.intercalate_splitOn]
    by_cases hnil : rest = []
    · rw [hnil, List.append_nil, List.intercalate_splitOn] at hs
      exact .inl hs.symm
    · rw [intercalate_append x (List.splitOn_ne_nil x p) hnil, List.intercalate_splitOn] at hs
      refine .inr ⟨[x].intercalate rest, ?_⟩
      rw [← hs, List.append_assoc, List.singleton_append]
  · rintro (rfl | ⟨rest, rfl⟩)
    · exact List.prefix_rfl
    · rw [List.append_assoc, List.singleton_append, List.splitOn_append_cons_self]
      exact List.prefix_append _ _

/-- A segment is made of members of the list that are not separators. -/
lemma of_mem_splitOnP {p : α → Bool} {s segment : List α} (h : segment ∈ s.splitOnP p) :
    ∀ a ∈ segment, a ∈ s ∧ p a = false := by
  induction s generalizing segment with
  | nil =>
      rw [List.splitOnP_nil, List.mem_singleton] at h
      subst h
      simp
  | cons b s ih =>
      have hcons : ∀ {t}, t ∈ s.splitOnP p → ∀ a ∈ t, a ∈ b :: s ∧ p a = false :=
        fun ht a ha => ⟨List.mem_cons_of_mem _ (ih ht a ha).1, (ih ht a ha).2⟩
      rw [List.splitOnP_cons_eq_if_modifyHead] at h
      split at h
      · rw [List.mem_cons] at h
        rcases h with rfl | h
        · simp
        · exact hcons h
      · rename_i hb
        obtain ⟨head, tail, hsplit⟩ := List.exists_cons_of_ne_nil (List.splitOnP_ne_nil p s)
        rw [hsplit] at h hcons
        rw [List.modifyHead_cons, List.mem_cons] at h
        rcases h with rfl | h
        · intro a ha
          rw [List.mem_cons] at ha
          rcases ha with rfl | ha
          · exact ⟨List.mem_cons_self, Bool.not_eq_true _ ▸ hb⟩
          · exact hcons List.mem_cons_self a ha
        · exact hcons (List.mem_cons_of_mem _ h)

/-- Every member that is no separator belongs to a segment. -/
lemma exists_mem_splitOnP {p : α → Bool} {s : List α} {a : α} (h : a ∈ s) (ha : p a = false) :
    ∃ segment ∈ s.splitOnP p, a ∈ segment := by
  induction s with
  | nil => cases h
  | cons b s ih =>
      obtain ⟨head, tail, hsplit⟩ := List.exists_cons_of_ne_nil (List.splitOnP_ne_nil p s)
      rw [List.splitOnP_cons_eq_if_modifyHead, hsplit]
      rw [hsplit] at ih
      split_ifs with hb
      · have hmem : a ∈ s := by
          rcases List.mem_cons.mp h with rfl | hmem
          · rw [ha] at hb
            cases hb
          · exact hmem
        obtain ⟨segment, hsegment, hin⟩ := ih hmem
        exact ⟨segment, List.mem_cons_of_mem _ hsegment, hin⟩
      · rw [List.modifyHead_cons]
        rcases List.mem_cons.mp h with rfl | hmem
        · exact ⟨_, List.mem_cons_self, List.mem_cons_self⟩
        · obtain ⟨segment, hsegment, hin⟩ := ih hmem
          rcases List.mem_cons.mp hsegment with rfl | hsegment
          · exact ⟨_, List.mem_cons_self, List.mem_cons_of_mem _ hin⟩
          · exact ⟨segment, List.mem_cons_of_mem _ hsegment, hin⟩

/-- Separators that do not occur split nothing. -/
lemma splitOnP_congr {p q : α → Bool} {s : List α} (h : ∀ a ∈ s, p a = q a) :
    s.splitOnP p = s.splitOnP q := by
  induction s with
  | nil => rfl
  | cons a s ih =>
      rw [List.splitOnP_cons_eq_if_modifyHead, List.splitOnP_cons_eq_if_modifyHead,
        h a List.mem_cons_self, ih fun b hb => h b (List.mem_cons_of_mem _ hb)]

/-- Splitting an image is splitting the list. -/
lemma splitOnP_map {β : Type} (f : α → β) (p : β → Bool) (s : List α) :
    (s.map f).splitOnP p = (s.splitOnP fun a => p (f a)).map (List.map f) := by
  induction s with
  | nil => rfl
  | cons a s ih =>
      rw [List.map_cons, List.splitOnP_cons_eq_if_modifyHead, List.splitOnP_cons_eq_if_modifyHead,
        ih]
      split
      · rfl
      · obtain ⟨head, tail, hsplit⟩ :=
          List.exists_cons_of_ne_nil (List.splitOnP_ne_nil (fun a => p (f a)) s)
        rw [hsplit]
        rfl

/-! ## Dot segments -/

/-- Removes dot segments. A `single` one is dropped, a `double` one drops the segment kept before
it, and each of them leaves an `empty` segment when it is the last one. -/
def removeDotSegments (single double : α → Bool) (empty : α) (kept : List α) : List α → List α
  | [] => kept
  | [last] =>
      if double last then kept.dropLast ++ [empty]
      else if single last then kept ++ [empty]
      else kept ++ [last]
  | segment :: next :: rest =>
      removeDotSegments single double empty
        (if double segment then kept.dropLast
          else if single segment then kept
          else kept ++ [segment]) (next :: rest)

/-- Segments that are not dot segments stay as they are. -/
lemma removeDotSegments_of_plain {single double : α → Bool} {empty : α} {segments : List α}
    (h : ∀ segment ∈ segments, single segment = false ∧ double segment = false) (kept : List α) :
    removeDotSegments single double empty kept segments = kept ++ segments := by
  induction segments generalizing kept with
  | nil => rw [removeDotSegments, List.append_nil]
  | cons segment rest ih =>
      obtain ⟨hsingle, hdouble⟩ := h segment List.mem_cons_self
      cases rest with
      | nil => simp [removeDotSegments, hsingle, hdouble]
      | cons next rest =>
          rw [removeDotSegments, ih fun s hs => h s (List.mem_cons_of_mem _ hs)]
          simp [hsingle, hdouble]

end Custode.Found.Segments
