import Mathlib.Data.List.Infix
import Mathlib.Logic.Function.Basic
import Mathlib.Tactic.Common

/-!
# A directory tree with unsynced entries

A location is the list of names from it up to a fixed base directory, innermost first, so the
directory that contains `name :: dir` is `dir`. A `Disk` says what stands at each location and which
entries their directory was synced for. Every entry stands in a directory (`Disk.parent`), so
whatever is above an entry is a directory (`Disk.above`).

* `create` adds an entry, unsynced; `sync` syncs the entries of one directory.
* `Crash` — unsynced entries may be lost, each with everything under it; what is left keeps its kind
  and its sync.
* `Durable` — the entry is there and synced.
-/

namespace Custode.Found

/-- What stands at a location. -/
inductive EntryKind where
  | directory
  | file
  deriving DecidableEq

/-- A directory tree, with the entries that are synced. -/
structure Disk (ν : Type) where
  /-- What stands at a location. -/
  entry : List ν → Option EntryKind
  /-- The entry was there when its directory was last synced. -/
  synced : List ν → Bool
  /-- The base directory is there. -/
  base : entry [] = some .directory
  /-- An entry stands in a directory. -/
  parent : ∀ name dir, entry (name :: dir) ≠ none → entry dir = some .directory

namespace Disk

variable {ν : Type}

/-- What is above an entry is a directory. -/
lemma above (disk : Disk ν) {p q : List ν} (hq : disk.entry q ≠ none) (h : p <:+ q) (hne : p ≠ q) :
    disk.entry p = some .directory := by
  induction q with
  | nil => exact absurd (List.suffix_nil.mp h) hne
  | cons name dir ih =>
      have hdir := disk.parent name dir hq
      rw [List.suffix_cons_iff] at h
      rcases h with rfl | h
      · exact absurd rfl hne
      · by_cases hp : p = dir
        · rw [hp]
          exact hdir
        · exact ih (by rw [hdir]; simp) h hp

/-- Nothing stands under a location where nothing is. -/
lemma below (disk : Disk ν) {p q : List ν} (hp : disk.entry p = none) (h : p <:+ q) :
    disk.entry q = none := by
  by_contra hq
  by_cases hpq : p = q
  · exact hq (hpq ▸ hp)
  · rw [disk.above hq h hpq] at hp
    cases hp

/-- The entry is there and synced. -/
def Durable (disk : Disk ν) (p : List ν) : Prop := disk.entry p ≠ none ∧ disk.synced p = true

section

variable [DecidableEq ν]

/-- A new entry in a directory. -/
def create (disk : Disk ν) (name : ν) (dir : List ν) (kind : EntryKind)
    (hdir : disk.entry dir = some .directory) (hnew : disk.entry (name :: dir) = none) :
    Disk ν where
  entry := Function.update disk.entry (name :: dir) (some kind)
  synced := Function.update disk.synced (name :: dir) false
  base := by rw [Function.update_of_ne (List.cons_ne_nil _ _).symm, disk.base]
  parent := by
    intro n d h
    have hkeep : ∀ p, disk.entry p = some .directory →
        Function.update disk.entry (name :: dir) (some kind) p = some .directory := by
      intro p hp
      rw [Function.update_of_ne, hp]
      rintro rfl
      rw [hnew] at hp
      cases hp
    by_cases heq : n :: d = name :: dir
    · obtain ⟨-, rfl⟩ := List.cons.inj heq
      exact hkeep _ hdir
    · rw [Function.update_of_ne heq] at h
      exact hkeep d (disk.parent n d h)

/-- The entries of a directory become synced. -/
def sync (disk : Disk ν) (dir : List ν) : Disk ν where
  entry := disk.entry
  synced := fun p => disk.synced p || (!p.isEmpty && decide (p.tail = dir) && (disk.entry p).isSome)
  base := disk.base
  parent := disk.parent

/-- A sync makes the entries of its directory durable. -/
lemma synced_sync (disk : Disk ν) {name : ν} {dir : List ν} (h : disk.entry (name :: dir) ≠ none) :
    (disk.sync dir).synced (name :: dir) = true := by
  simp [sync, Option.isSome_iff_ne_none.mpr h]

/-- A sync keeps durable what was durable. -/
lemma synced_sync_of_synced (disk : Disk ν) {p dir : List ν} (h : disk.synced p = true) :
    (disk.sync dir).synced p = true := by
  simp [sync, h]

end

/-- A crash of the machine loses some unsynced entries, with everything under them. -/
structure Crash (before after : Disk ν) : Prop where
  /-- Nothing appears or changes. -/
  kept : ∀ p kind, after.entry p = some kind → before.entry p = some kind
  /-- A synced entry is lost only with its directory. -/
  durable : ∀ name dir, before.Durable (name :: dir) → after.entry dir = some .directory →
    after.entry (name :: dir) = before.entry (name :: dir)
  /-- What is left and was synced is synced. -/
  synced : ∀ p, after.entry p ≠ none → before.synced p = true → after.synced p = true

end Disk

end Custode.Found
