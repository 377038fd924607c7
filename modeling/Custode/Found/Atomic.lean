import Custode.Found.Trace
import Mathlib.Data.List.Nodup
import Mathlib.Logic.Function.Basic

/-!
# An atomic cell and `fetch_update`

Any number of parties run `fetch_update f` on one atomic cell with relaxed ordering: a load, then
weak compare-exchanges until one succeeds or `f` refuses the value read. A relaxed load may be
stale, so it reads any value the cell has held; a weak compare-exchange may fail at any time, and
reads likewise; but a successful one replaces the current value. Every step is labelled with its
party and the value it read.

* `Inv` — the invariant of all interleavings (`inv_of_trace`): the cell went through the values of
  `f` one after the other (`Values`), and each update belongs to one party, which holds the value it
  replaced.
* `value_eq_of_trace` — once `f` refuses the current value, the cell keeps it for ever;
* `refused_of_current` — a party that reads such a value is done.
-/

namespace Custode.Found.Atomic

variable {ι V : Type}

/-- Where a `fetch_update` stands. -/
inductive Phase (V : Type) where
  /-- Before its load. -/
  | ready
  /-- Before a compare-exchange of `seen` for `next`. -/
  | retrying (seen next : V)
  /-- It replaced this value. -/
  | updated (previous : V)
  /-- It was refused at this value. -/
  | refused (seen : V)
  deriving DecidableEq

/-- The cell and its parties. The updates are the values that were replaced, oldest first, each
with the party that replaced it. -/
structure State (ι V : Type) where
  updates : List (ι × V)
  value : V
  phase : ι → Phase V

/-- A cell with this value, and no party has started. -/
def start (v : V) : State ι V := ⟨[], v, fun _ => .ready⟩

/-- The cell has had this value. -/
def State.Held (s : State ι V) (v : V) : Prop := v ∈ s.updates.map Prod.snd ∨ v = s.value

/-- What a party does with a value it has read. -/
def after (f : V → Option V) (v : V) : Phase V :=
  match f v with
  | some next => .retrying v next
  | none => .refused v

variable [DecidableEq ι]

/-- A party moves on, and the cell stays. -/
def State.enter (s : State ι V) (i : ι) (p : Phase V) : State ι V :=
  { s with phase := Function.update s.phase i p }

/-- A party replaces the current value. -/
def State.exchange (s : State ι V) (i : ι) (next : V) : State ι V :=
  ⟨s.updates ++ [(i, s.value)], next, Function.update s.phase i (.updated s.value)⟩

section

variable (s : State ι V) (i : ι) (p : Phase V) (next : V)

/-- Entering a phase updates nothing. -/
@[simp] lemma State.enter_updates : (s.enter i p).updates = s.updates := rfl

/-- Entering a phase keeps the value. -/
@[simp] lemma State.enter_value : (s.enter i p).value = s.value := rfl

/-- The thread is in the phase it entered. -/
@[simp] lemma State.enter_self : (s.enter i p).phase i = p := Function.update_self _ _ _

/-- The other threads stay where they are. -/
lemma State.enter_of_ne {j : ι} (h : j ≠ i) : (s.enter i p).phase j = s.phase j :=
  Function.update_of_ne h _ _

/-- An exchange adds the thread and the value it replaced. -/
@[simp] lemma State.exchange_updates :
    (s.exchange i next).updates = s.updates ++ [(i, s.value)] := rfl

/-- An exchange leaves the new value. -/
@[simp] lemma State.exchange_value : (s.exchange i next).value = next := rfl

/-- The thread has its update. -/
@[simp] lemma State.exchange_self : (s.exchange i next).phase i = .updated s.value :=
  Function.update_self _ _ _

/-- The other threads stay where they are. -/
lemma State.exchange_of_ne {j : ι} (h : j ≠ i) : (s.exchange i next).phase j = s.phase j :=
  Function.update_of_ne h _ _

end

/-- One step of one party, with the value it read. -/
inductive Step (f : V → Option V) : State ι V → ι × V → State ι V → Prop
  | load {s : State ι V} {i : ι} {v : V} (ready : s.phase i = .ready) (held : s.Held v) :
      Step f s (i, v) (s.enter i (after f v))
  | exchange {s : State ι V} {i : ι} {next : V} (retrying : s.phase i = .retrying s.value next) :
      Step f s (i, s.value) (s.exchange i next)
  | fail {s : State ι V} {i : ι} {seen next v : V} (retrying : s.phase i = .retrying seen next)
      (held : s.Held v) :
      Step f s (i, v) (s.enter i (after f v))

/-- The values before the current one, when `f` made each from the one before it. -/
inductive Values (f : V → Option V) (v₀ : V) : List V → V → Prop
  | nil : Values f v₀ [] v₀
  | snoc {earlier : List V} {v next : V} (before : Values f v₀ earlier v)
      (now : f v = some next) : Values f v₀ (earlier ++ [v]) next

/-- The invariant of all interleavings. -/
structure Inv (f : V → Option V) (v₀ : V) (s : State ι V) : Prop where
  values : Values f v₀ (s.updates.map Prod.snd) s.value
  once : (s.updates.map Prod.fst).Nodup
  updated : ∀ i previous, s.phase i = .updated previous ↔ (i, previous) ∈ s.updates
  retrying : ∀ i seen next, s.phase i = .retrying seen next → f seen = some next
  refused : ∀ i seen, s.phase i = .refused seen → f seen = none ∧ s.Held seen

variable {f : V → Option V} {v₀ : V} {s s' : State ι V}

omit [DecidableEq ι] in
/-- The invariant at the start. -/
lemma inv_start : Inv f v₀ (start v₀ : State ι V) :=
  ⟨.nil, List.nodup_nil, by simp [start], by simp [start], by simp [start]⟩

/-- Trying again is not having updated. -/
lemma after_ne_updated {v previous : V} : after f v ≠ .updated previous := by
  unfold after
  split <;> simp

/-- A thread that tries again has computed its next value. -/
lemma after_eq_retrying {v seen next : V} (h : after f v = .retrying seen next) :
    f seen = some next := by
  unfold after at h
  split at h
  · rename_i heq
    cases h
    exact heq
  · cases h

/-- A thread that is refused has read a value without a next one. -/
lemma after_eq_refused {v seen : V} (h : after f v = .refused seen) : f seen = none ∧ v = seen := by
  unfold after at h
  split at h
  · cases h
  · rename_i heq
    cases h
    exact ⟨heq, rfl⟩

/-- A party that reads a value, by its load or a failed exchange, keeps the invariant. -/
lemma Inv.read (hs : Inv f v₀ s) {i : ι} (hrunning : ∀ previous, s.phase i ≠ .updated previous)
    {v : V} (held : s.Held v) : Inv f v₀ (s.enter i (after f v)) := by
  refine ⟨hs.values, hs.once, ?_, ?_, ?_⟩
  · intro j previous
    rw [State.enter_updates, ← hs.updated]
    by_cases hj : j = i
    · subst hj
      rw [State.enter_self]
      exact iff_of_false after_ne_updated (hrunning previous)
    · rw [s.enter_of_ne _ _ hj]
  · intro j seen next hphase
    by_cases hj : j = i
    · subst hj
      rw [State.enter_self] at hphase
      exact after_eq_retrying hphase
    · rw [s.enter_of_ne _ _ hj] at hphase
      exact hs.retrying j seen next hphase
  · intro j seen hphase
    by_cases hj : j = i
    · subst hj
      rw [State.enter_self] at hphase
      obtain ⟨hrefuses, rfl⟩ := after_eq_refused hphase
      exact ⟨hrefuses, held⟩
    · rw [s.enter_of_ne _ _ hj] at hphase
      exact hs.refused j seen hphase

/-- A successful exchange keeps the invariant. -/
lemma Inv.exchange (hs : Inv f v₀ s) {i : ι} {next : V}
    (hretrying : s.phase i = .retrying s.value next) : Inv f v₀ (s.exchange i next) := by
  -- the party has not updated the cell before
  have hfresh : i ∉ s.updates.map Prod.fst := by
    intro hmem
    obtain ⟨⟨j, previous⟩, hupdate, rfl⟩ := List.mem_map.mp hmem
    rw [← hs.updated, hretrying] at hupdate
    cases hupdate
  refine ⟨?_, ?_, ?_, ?_, ?_⟩
  · rw [State.exchange_updates, List.map_append, List.map_singleton]
    exact hs.values.snoc (hs.retrying i _ _ hretrying)
  · rw [State.exchange_updates, List.map_append, List.map_singleton, List.nodup_append]
    refine ⟨hs.once, List.nodup_singleton _, ?_⟩
    intro j hj j' hj' heq
    rw [List.mem_singleton] at hj'
    have hji : j = i := heq.trans hj'
    exact hfresh (hji ▸ hj)
  · intro j previous
    rw [State.exchange_updates, List.mem_append, List.mem_singleton]
    by_cases hj : j = i
    · subst hj
      rw [State.exchange_self]
      constructor
      · intro hphase
        cases hphase
        exact .inr rfl
      · rintro (hmem | heq)
        · exact absurd (List.mem_map_of_mem (f := Prod.fst) hmem) hfresh
        · cases heq
          rfl
    · rw [s.exchange_of_ne _ _ hj, hs.updated]
      simp [hj]
  · intro j seen next' hphase
    by_cases hj : j = i
    · subst hj
      rw [State.exchange_self] at hphase
      cases hphase
    · rw [s.exchange_of_ne _ _ hj] at hphase
      exact hs.retrying j seen next' hphase
  · intro j seen hphase
    by_cases hj : j = i
    · subst hj
      rw [State.exchange_self] at hphase
      cases hphase
    · rw [s.exchange_of_ne _ _ hj] at hphase
      obtain ⟨hrefuses, hheld⟩ := hs.refused j seen hphase
      refine ⟨hrefuses, .inl ?_⟩
      rw [State.exchange_updates, List.map_append, List.mem_append]
      rcases hheld with hearlier | rfl
      · exact .inl hearlier
      · exact .inr (List.mem_singleton_self _)

/-- Every step keeps the invariant. -/
lemma Inv.step {t : ι × V} (hs : Inv f v₀ s) (h : Step f s t s') : Inv f v₀ s' := by
  cases h with
  | load ready held => exact hs.read (by simp [ready]) held
  | exchange retrying => exact hs.exchange retrying
  | fail retrying held => exact hs.read (by simp [retrying]) held

/-- The invariant holds in every interleaving. -/
theorem inv_of_trace {steps : List (State ι V × (ι × V))}
    (h : Trace (Step f) (start v₀) steps s) : Inv f v₀ s :=
  h.invariant (Inv f v₀) inv_start fun _ _ _ hs hstep => hs.step hstep

/-! ## A refused value -/

/-- Where `f` refuses the current value, no party replaces it. -/
lemma Inv.step_refused {t : ι × V} (hs : Inv f v₀ s) (hrefuses : f s.value = none)
    (h : Step f s t s') : s'.value = s.value ∧ s'.updates = s.updates := by
  cases h with
  | load ready held => exact ⟨rfl, rfl⟩
  | exchange retrying =>
      have hnext := hs.retrying _ _ _ retrying
      rw [hrefuses] at hnext
      cases hnext
  | fail retrying held => exact ⟨rfl, rfl⟩

/-- Once `f` refuses the current value, the cell keeps it for ever. -/
theorem value_eq_of_trace {steps : List (State ι V × (ι × V))} (hs : Inv f v₀ s)
    (hrefuses : f s.value = none) (h : Trace (Step f) s steps s') :
    Inv f v₀ s' ∧ s'.value = s.value ∧ s'.updates = s.updates := by
  refine h.invariant (fun u => Inv f v₀ u ∧ u.value = s.value ∧ u.updates = s.updates)
    ⟨hs, rfl, rfl⟩ ?_
  rintro u t u' ⟨hu, hvalue, hupdates⟩ hstep
  obtain ⟨hvalue', hupdates'⟩ := hu.step_refused (by rw [hvalue, hrefuses]) hstep
  exact ⟨hu.step hstep, hvalue'.trans hvalue, hupdates'.trans hupdates⟩

/-- A party that reads a refused current value is done. -/
theorem refused_of_current {i : ι} (hs : Inv f v₀ s) (hrefuses : f s.value = none)
    (h : Step f s (i, s.value) s') : s'.phase i = .refused s.value := by
  have hafter : after f s.value = .refused s.value := by
    unfold after
    rw [hrefuses]
  generalize ht : (i, s.value) = t at h
  cases h with
  | load ready held =>
      cases ht
      rw [← hafter]
      exact s.enter_self i _
  | exchange retrying =>
      have hnext := hs.retrying _ _ _ retrying
      rw [hrefuses] at hnext
      cases hnext
  | fail retrying held =>
      cases ht
      rw [← hafter]
      exact s.enter_self i _

/-- A party that has not finished can take a step that reads the current value. -/
lemma exists_step_current {i : ι}
    (hrunning : s.phase i = .ready ∨ ∃ seen next, s.phase i = .retrying seen next) :
    ∃ s', Step f s (i, s.value) s' := by
  rcases hrunning with hready | ⟨seen, next, hretrying⟩
  · exact ⟨_, .load hready (.inr rfl)⟩
  · exact ⟨_, .fail hretrying (.inr rfl)⟩

end Custode.Found.Atomic
