import Mathlib.Data.List.Nodup
import Mathlib.Tactic.Common

/-!
# Scanning for the first bad item

A scan goes through a list once. `check` gives every sound item a key, and the keys have to be
distinct, so the scan remembers the keys it has seen and stops at the first item that has no key or
one of these.

* `firstBad_eq_some_iff` — it stops at the first bad position, where `BadAt` says what is bad
  without a memory;
* `firstBad_eq_none_iff` — it comes to the end iff all items are sound and their keys distinct.
-/

namespace Custode.Found.Scan

variable {α κ : Type} (check : α → Option κ)

/-- The item at a position has no key, or the key of an earlier item. -/
def BadAt (items : List α) (n : Nat) : Prop :=
  ∃ item, items[n]? = some item ∧
    (check item = none ∨
      ∃ m < n, ∃ earlier, items[m]? = some earlier ∧ check earlier = check item)

/-- The position is bad and none in front of it is. -/
def FirstBadAt (items : List α) (n : Nat) : Prop :=
  BadAt check items n ∧ ∀ m < n, ¬ BadAt check items m

/-- All items are sound, with distinct keys. -/
def AllGood (items : List α) : Prop :=
  (∀ item ∈ items, (check item).isSome = true) ∧ (items.map check).Nodup

/-- The position where a scan stops, with the keys seen so far. -/
def firstBad [DecidableEq κ] : List κ → List α → Option Nat
  | _, [] => none
  | seen, item :: items =>
      match check item with
      | none => some 0
      | some key => if key ∈ seen then some 0 else (firstBad (key :: seen) items).map (· + 1)

variable {check} {seen : List κ} {item : α} {items : List α} {key : κ}

/-- A position is bad for a scan that has seen these keys. -/
def BadFrom (check : α → Option κ) (seen : List κ) (items : List α) (n : Nat) : Prop :=
  ∃ item, items[n]? = some item ∧ ∀ key, check item = some key →
    key ∈ seen ∨ ∃ m < n, ∃ earlier, items[m]? = some earlier ∧ check earlier = some key

/-- The first position is bad when its key was seen, or when it has none. -/
lemma badFrom_zero_iff :
    BadFrom check seen (item :: items) 0 ↔ ∀ key, check item = some key → key ∈ seen := by
  unfold BadFrom
  simp

/-- Behind a new key the scan has seen one key more. -/
lemma badFrom_succ_iff (hkey : check item = some key) {n : Nat} :
    BadFrom check seen (item :: items) (n + 1) ↔ BadFrom check (key :: seen) items n := by
  have hrepeated (key' : κ) :
      (∃ m < n + 1, ∃ earlier, (item :: items)[m]? = some earlier ∧ check earlier = some key') ↔
        key' = key ∨ ∃ m < n, ∃ earlier, items[m]? = some earlier ∧ check earlier = some key' := by
    constructor
    · rintro ⟨m, hm, earlier, hearlier, hsame⟩
      cases m with
      | zero =>
          obtain rfl := Option.some.inj hearlier
          rw [hkey] at hsame
          exact .inl (Option.some.inj hsame).symm
      | succ m => exact .inr ⟨m, Nat.lt_of_succ_lt_succ hm, earlier, hearlier, hsame⟩
    · rintro (rfl | ⟨m, hm, earlier, hearlier, hsame⟩)
      · exact ⟨0, Nat.succ_pos n, item, rfl, hkey⟩
      · exact ⟨m + 1, Nat.succ_lt_succ hm, earlier, hearlier, hsame⟩
  unfold BadFrom
  simp only [List.getElem?_cons_succ, hrepeated, List.mem_cons]
  refine exists_congr fun last => and_congr_right fun _ => forall_congr' fun key' => ?_
  exact imp_congr_right fun _ => by rw [or_assoc, or_left_comm]

/-- For a fresh scan a position is bad as `BadAt` says. -/
lemma badFrom_nil_iff {n : Nat} : BadFrom check [] items n ↔ BadAt check items n := by
  unfold BadFrom BadAt
  refine exists_congr fun item => and_congr_right fun _ => ?_
  rcases hkey : check item with _ | key
  · simp
  · simp

/-- No position is bad iff all items are sound, with distinct keys. -/
lemma allGood_iff : AllGood check items ↔ ∀ n, ¬ BadAt check items n := by
  have hmap (n : Nat) : (items.map check)[n]? = items[n]?.map check := List.getElem?_map
  unfold AllGood
  rw [List.nodup_iff_getElem?_ne_getElem?, List.length_map]
  constructor
  · rintro ⟨hsound, hdistinct⟩ n ⟨item, hitem, hnone | ⟨m, hm, earlier, hearlier, hsame⟩⟩
    · have hkey := hsound item (List.mem_of_getElem? hitem)
      rw [hnone] at hkey
      cases hkey
    · apply hdistinct m n hm (List.getElem?_eq_some_iff.mp hitem).1
      rw [hmap, hmap, hitem, hearlier, Option.map_some, Option.map_some, hsame]
  · intro h
    constructor
    · intro item hmem
      obtain ⟨n, hitem⟩ := List.getElem?_of_mem hmem
      rw [Option.isSome_iff_ne_none]
      exact fun hnone => h n ⟨item, hitem, .inl hnone⟩
    · intro m n hm hn hsame
      have hlast : items[n]? = some items[n] := List.getElem?_eq_getElem hn
      have hearlier : items[m]? = some items[m] := List.getElem?_eq_getElem (Nat.lt_trans hm hn)
      rw [hmap, hmap, hlast, hearlier, Option.map_some, Option.map_some,
        Option.some_inj] at hsame
      exact h n ⟨_, hlast, .inr ⟨m, hm, _, hearlier, hsame⟩⟩

variable [DecidableEq κ]

variable (check) in
/-- The scan stops at the first position that is bad for it. -/
lemma firstBad_spec (seen : List κ) (items : List α) :
    (firstBad check seen items = none → ∀ n, ¬ BadFrom check seen items n) ∧
      ∀ n, firstBad check seen items = some n →
        BadFrom check seen items n ∧ ∀ m < n, ¬ BadFrom check seen items m := by
  induction items generalizing seen with
  | nil =>
      refine ⟨fun _ n => ?_, fun n h => ?_⟩
      · rintro ⟨item, hitem, -⟩
        cases hitem
      · cases h
  | cons item items ih =>
      by_cases hbad : BadFrom check seen (item :: items) 0
      · -- the scan stops here
        have hstop : firstBad check seen (item :: items) = some 0 := by
          rw [badFrom_zero_iff] at hbad
          unfold firstBad
          rcases hkey : check item with _ | key
          · rfl
          · exact if_pos (hbad key hkey)
        rw [hstop]
        refine ⟨fun h => ?_, fun n h => ?_⟩
        · cases h
        · obtain rfl := Option.some.inj h
          exact ⟨hbad, fun m hm => absurd hm (Nat.not_lt_zero m)⟩
      · obtain ⟨key, hkey, hfresh⟩ : ∃ key, check item = some key ∧ key ∉ seen := by
          rw [badFrom_zero_iff] at hbad
          push Not at hbad
          exact hbad
        have hnext : firstBad check seen (item :: items) =
            (firstBad check (key :: seen) items).map (· + 1) := by
          rw [firstBad, hkey]
          exact if_neg hfresh
        obtain ⟨hnone, hsome⟩ := ih (key :: seen)
        rw [hnext]
        constructor
        · intro h n
          cases n with
          | zero => exact hbad
          | succ n =>
              rw [badFrom_succ_iff hkey]
              exact hnone (Option.map_eq_none_iff.mp h) n
        · intro n h
          obtain ⟨n, hn, rfl⟩ := Option.map_eq_some_iff.mp h
          obtain ⟨hlast, hbefore⟩ := hsome n hn
          refine ⟨(badFrom_succ_iff hkey).mpr hlast, ?_⟩
          intro m hm
          cases m with
          | zero => exact hbad
          | succ m =>
              rw [badFrom_succ_iff hkey]
              exact hbefore m (Nat.lt_of_succ_lt_succ hm)

/-- A scan that has seen nothing stops at the first bad position. -/
lemma firstBad_eq_some_iff {n : Nat} :
    firstBad check [] items = some n ↔ FirstBadAt check items n := by
  obtain ⟨hnone, hsome⟩ := firstBad_spec check [] items
  simp only [badFrom_nil_iff] at hnone hsome
  refine ⟨hsome n, ?_⟩
  rintro ⟨hbad, hbefore⟩
  rcases hstop : firstBad check [] items with _ | m
  · exact absurd hbad (hnone hstop n)
  · obtain ⟨hbad', hbefore'⟩ := hsome m hstop
    rcases Nat.lt_trichotomy m n with hlt | rfl | hgt
    · exact absurd hbad' (hbefore m hlt)
    · rfl
    · exact absurd hbad (hbefore' n hgt)

/-- It comes to the end iff all items are sound, with distinct keys. -/
lemma firstBad_eq_none_iff : firstBad check [] items = none ↔ AllGood check items := by
  rw [allGood_iff]
  obtain ⟨hnone, hsome⟩ := firstBad_spec check [] items
  simp only [badFrom_nil_iff] at hnone hsome
  refine ⟨hnone, fun h => ?_⟩
  rcases hstop : firstBad check [] items with _ | n
  · rfl
  · exact absurd (hsome n hstop).1 (h n)

end Custode.Found.Scan
