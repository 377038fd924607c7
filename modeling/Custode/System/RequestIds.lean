import Custode.Audit.RequestIds
import Custode.Found.Atomic
import Custode.Ports

/-!
# Request identities of concurrent calls

`SequentialRequestIds::next_request_id` over every interleaving of any number of calls: one
`fetch_update` of the counter, then the sequence number behind the value it replaced. A call is a
party of `Found.Atomic`, so its load may be stale and its exchanges may fail and be retried.

* `nextRequestId_sequences` — the numbers handed out are `1..n`, each to one call, where `n` is the
  counter; no call panics, and after exhaustion every call that reads the counter fails.
-/

namespace Custode

open Found Found.Atomic

namespace SequentialRequestIds

/-- The update of the counter. -/
def increment (current : Nat) : Option Nat := ResponseAccount.checkedAdd current 1

/-- The identity of a call that replaced this value.
Source: `adapters.rs` `SequentialRequestIds::next_request_id`, behind the `fetch_update` -/
def allocate (runToken : RunToken) (previous : Nat) : Option RequestId := do
  let next ← ResponseAccount.checkedAdd previous 1
  let sequence ← nonZeroU64 next
  return RequestId.fromParts runToken sequence

/-- What has become of a call. -/
inductive CallState where
  | running
  | returned (result : Except RequestIdError RequestId)
  | panicked
  deriving DecidableEq

/-- What has become of the call that stands here.
Source: `adapters.rs` `SequentialRequestIds::next_request_id` -/
def callState (runToken : RunToken) : Atomic.Phase Nat → CallState
  | .ready | .retrying _ _ => .running
  | .updated previous => (allocate runToken previous).elim .panicked fun id => .returned (.ok id)
  | .refused _ => .returned (.error .sequenceExhausted)

/-- A fresh source, before any call.
Source: `adapters.rs` `SequentialRequestIds::new` -/
def new {ι : Type} : State ι Nat := start 0

/-! ## The counter -/

/-- The counter goes up by one, below the maximum. -/
lemma increment_eq_some_iff {current next : Nat} :
    increment current = some next ↔ next = current + 1 ∧ current + 1 ≤ u64Max := by
  unfold increment ResponseAccount.checkedAdd
  split_ifs with h
  · simp [h, eq_comm]
  · simp [h]

/-- The counter is refused at the maximum. -/
lemma increment_eq_none_iff {current : Nat} : increment current = none ↔ u64Max ≤ current := by
  unfold increment ResponseAccount.checkedAdd
  by_cases h : current + 1 ≤ u64Max
  · rw [if_pos h]
    exact iff_of_false (Option.some_ne_none _) (by omega)
  · rw [if_neg h]
    exact iff_of_true rfl (by omega)

/-- The counter counts its updates. -/
lemma values_increment {earlier : List Nat} {value : Nat} (h : Values increment 0 earlier value) :
    earlier = List.range value ∧ value ≤ u64Max := by
  induction h with
  | nil => exact ⟨rfl, Nat.zero_le _⟩
  | snoc before now ih =>
      obtain ⟨rfl, hnext⟩ := increment_eq_some_iff.mp now
      rw [ih.1, List.range_succ]
      exact ⟨rfl, hnext⟩

/-- An identity is allocated below the maximum. -/
lemma allocate_of_lt (runToken : RunToken) {previous : Nat} (h : previous < u64Max) :
    allocate runToken previous =
      some (RequestId.fromParts runToken ⟨previous + 1, Nat.succ_pos _, h⟩) := by
  have hnext : previous + 1 ≤ u64Max := h
  unfold allocate ResponseAccount.checkedAdd
  rw [if_pos hnext, Option.bind_eq_bind, Option.bind_some,
    nonZeroU64_of_pos (Nat.succ_pos _) hnext]
  rfl

/-! ## All interleavings -/

variable {ι : Type} {s s' : State ι Nat}

/-- A value that was replaced is below the counter. -/
lemma lt_of_mem_updates (hs : Inv increment 0 s) {i : ι} {previous : Nat}
    (h : (i, previous) ∈ s.updates) : previous < s.value := by
  have hmem : previous ∈ s.updates.map Prod.snd := List.mem_map_of_mem (f := Prod.snd) h
  rw [(values_increment hs.values).1] at hmem
  exact List.mem_range.mp hmem

/-- The numbers handed out, in order, each with its call. -/
def handedOut (s : State ι Nat) : List (ι × Nat) :=
  s.updates.map fun update => (update.1, update.2 + 1)

/-- The callers that were handed a number are those that updated the counter. -/
lemma handedOut_calls (s : State ι Nat) :
    (handedOut s).map Prod.fst = s.updates.map Prod.fst := by
  unfold handedOut
  rw [List.map_map]
  rfl

/-- The numbers that were handed out are 1, 2, and so on. -/
lemma handedOut_numbers (hs : Inv increment 0 s) :
    (handedOut s).map Prod.snd = List.range' 1 s.value := by
  have hvalues := (values_increment hs.values).1
  have hsucc : (handedOut s).map Prod.snd = (s.updates.map Prod.snd).map fun k => 1 + k := by
    unfold handedOut
    rw [List.map_map, List.map_map]
    apply List.map_congr_left
    intro update _
    exact Nat.add_comm _ _
  rw [hsucc, hvalues, List.range'_eq_map_range]

/-- There are as many of them as the counter says. -/
lemma length_handedOut (hs : Inv increment 0 s) : (handedOut s).length = s.value := by
  rw [← List.length_map Prod.snd, handedOut_numbers hs, List.length_range']

/-- A call that replaced a value has its identity. -/
lemma callState_updated (runToken : RunToken) (hs : Inv increment 0 s) {i : ι} {previous : Nat}
    (h : s.phase i = .updated previous) :
    ∃ hlt : previous < u64Max, callState runToken (s.phase i) = .returned
      (.ok (RequestId.fromParts runToken ⟨previous + 1, Nat.succ_pos _, hlt⟩)) := by
  have hlt : previous < u64Max :=
    (lt_of_mem_updates hs ((hs.updated i previous).mp h)).trans_le (values_increment hs.values).2
  refine ⟨hlt, ?_⟩
  rw [h, callState, allocate_of_lt runToken hlt]
  rfl

/-- The calls that returned an identity are those that were handed its number. -/
lemma callState_eq_ok_iff (runToken : RunToken) (hs : Inv increment 0 s) (i : ι) (id : RequestId) :
    callState runToken (s.phase i) = .returned (.ok id) ↔
      ∃ sequence : NonZeroU64, (i, sequence.get) ∈ handedOut s ∧
        id = RequestId.fromParts runToken sequence := by
  unfold handedOut
  simp only [List.mem_map, Prod.mk.injEq, Prod.exists]
  constructor
  · intro h
    cases hphase : s.phase i with
    | ready => rw [hphase] at h; cases h
    | retrying seen next => rw [hphase] at h; cases h
    | refused seen => rw [hphase] at h; cases h
    | updated previous =>
        obtain ⟨hlt, hstate⟩ := callState_updated runToken hs hphase
        rw [hstate] at h
        cases h
        exact ⟨_, ⟨i, previous, (hs.updated i previous).mp hphase, rfl, rfl⟩, rfl⟩
  · rintro ⟨⟨get, hpos, hmax⟩, ⟨j, previous, hupdate, rfl, hget⟩, rfl⟩
    obtain rfl : previous + 1 = get := hget
    exact (callState_updated runToken hs ((hs.updated j previous).mpr hupdate)).2

/-- No call panics. -/
lemma callState_ne_panicked (runToken : RunToken) (hs : Inv increment 0 s) (i : ι) :
    callState runToken (s.phase i) ≠ .panicked := by
  cases hphase : s.phase i with
  | ready => simp [callState]
  | retrying seen next => simp [callState]
  | refused seen => simp [callState]
  | updated previous =>
      obtain ⟨hlt, hstate⟩ := callState_updated runToken hs hphase
      rw [← hphase, hstate]
      simp

/-- A call fails only when the counter is exhausted. -/
lemma value_of_error (runToken : RunToken) (hs : Inv increment 0 s) {i : ι} {error : RequestIdError}
    (h : callState runToken (s.phase i) = .returned (.error error)) : s.value = u64Max := by
  have hmax := (values_increment hs.values).2
  cases hphase : s.phase i with
  | ready => rw [hphase] at h; cases h
  | retrying seen next => rw [hphase] at h; cases h
  | updated previous =>
      obtain ⟨hlt, hstate⟩ := callState_updated runToken hs hphase
      rw [hstate] at h
      cases h
  | refused seen =>
      obtain ⟨hrefuses, hheld⟩ := hs.refused i seen hphase
      have hseen := increment_eq_none_iff.mp hrefuses
      rcases hheld with hmem | rfl
      · rw [(values_increment hs.values).1, List.mem_range] at hmem
        omega
      · omega

/-- With the counter exhausted, no running call returns an identity. -/
lemma callState_of_exhausted [DecidableEq ι] (runToken : RunToken) (hs : Inv increment 0 s)
    (hvalue : s.value = u64Max) {later : List (State ι Nat × (ι × Nat))}
    (h : Trace (Step increment) s later s') {i : ι}
    (hrunning : callState runToken (s.phase i) = .running) :
    callState runToken (s'.phase i) = .running ∨
      callState runToken (s'.phase i) = .returned (.error .sequenceExhausted) := by
  have hrefuses : increment s.value = none := increment_eq_none_iff.mpr hvalue.ge
  obtain ⟨hs', -, hupdates⟩ := value_eq_of_trace hs hrefuses h
  cases hphase : s'.phase i with
  | ready => exact .inl rfl
  | retrying seen next => exact .inl rfl
  | refused seen => exact .inr rfl
  | updated previous =>
      -- then it had replaced that value before the counter was exhausted
      have hupdate := (hs'.updated i previous).mp hphase
      rw [hupdates, ← hs.updated] at hupdate
      obtain ⟨hlt, hstate⟩ := callState_updated runToken hs hupdate
      rw [hstate] at hrunning
      cases hrunning

/-- Calls that finish one after the other take the counter to any number. -/
lemma exists_trace {n : Nat} (h : n ≤ u64Max) :
    ∃ steps, ∃ s : State Nat Nat, Trace (Step increment) new steps s ∧ s.value = n ∧
      ∀ i, n ≤ i → s.phase i = .ready := by
  induction n with
  | zero => exact ⟨[], new, .nil, rfl, fun _ _ => rfl⟩
  | succ n ih =>
      obtain ⟨steps, s, htrace, hvalue, hready⟩ := ih (by omega)
      have hafter : after increment s.value = .retrying s.value (n + 1) := by
        have hnext : increment s.value = some (n + 1) :=
          increment_eq_some_iff.mpr ⟨by rw [hvalue], by omega⟩
        unfold after
        rw [hnext]
      have hload := htrace.snoc (.load (hready n le_rfl) (.inr rfl))
      have hretrying : (s.enter n (after increment s.value)).phase n =
          .retrying s.value (n + 1) := by
        rw [State.enter_self, hafter]
      have hexchange := hload.snoc (.exchange hretrying)
      refine ⟨_, _, hexchange, rfl, ?_⟩
      intro i hi
      have hne : i ≠ n := by omega
      rw [State.exchange_of_ne _ _ _ hne, State.enter_of_ne _ _ _ hne]
      exact hready i (by omega)

/-- Request identities of concurrent calls. The numbers handed out are `1..n`, each to one call,
with `n` the counter, which never passes the largest `u64`; no call panics, and none fails before
exhaustion. From exhaustion on the counter stays as it is, no running call returns an identity, and
one that reads the counter fails. -/
theorem nextRequestId_sequences [DecidableEq ι] (runToken : RunToken)
    {steps : List (State ι Nat × (ι × Nat))} (h : Trace (Step increment) new steps s) :
    (handedOut s).map Prod.snd = List.range' 1 (handedOut s).length ∧
      ((handedOut s).map Prod.fst).Nodup ∧
      (∀ i id, callState runToken (s.phase i) = .returned (.ok id) ↔
        ∃ sequence : NonZeroU64, (i, sequence.get) ∈ handedOut s ∧
          id = RequestId.fromParts runToken sequence) ∧
      s.value = (handedOut s).length ∧ s.value ≤ u64Max ∧
      (∀ i, callState runToken (s.phase i) ≠ .panicked) ∧
      (∀ i error, callState runToken (s.phase i) = .returned (.error error) →
        s.value = u64Max) ∧
      ∀ later s', s.value = u64Max → Trace (Step increment) s later s' →
        s'.value = u64Max ∧
        (∀ i, callState runToken (s.phase i) = .running →
          callState runToken (s'.phase i) = .running ∨
            callState runToken (s'.phase i) = .returned (.error .sequenceExhausted)) ∧
        ∀ i, callState runToken (s'.phase i) = .running →
          (∃ s'', Step increment s' (i, s'.value) s'') ∧
          ∀ s'', Step increment s' (i, s'.value) s'' →
            callState runToken (s''.phase i) = .returned (.error .sequenceExhausted) := by
  have hs : Inv increment 0 s := inv_of_trace h
  refine ⟨?_, ?_, callState_eq_ok_iff runToken hs, (length_handedOut hs).symm,
    (values_increment hs.values).2, callState_ne_panicked runToken hs,
    fun i error => value_of_error runToken hs, ?_⟩
  · rw [length_handedOut hs, handedOut_numbers hs]
  · rw [handedOut_calls]
    exact hs.once
  · intro later s' hvalue hlater
    have hrefuses : increment s.value = none := increment_eq_none_iff.mpr hvalue.ge
    obtain ⟨hs', hvalue', -⟩ := value_eq_of_trace hs hrefuses hlater
    refine ⟨hvalue'.trans hvalue, fun i => callState_of_exhausted runToken hs hvalue hlater, ?_⟩
    intro i hrunning
    constructor
    · apply exists_step_current
      cases hphase : s'.phase i with
      | ready => exact .inl rfl
      | retrying seen next => exact .inr ⟨seen, next, rfl⟩
      | refused seen => rw [hphase] at hrunning; cases hrunning
      | updated previous =>
          obtain ⟨hlt, hstate⟩ := callState_updated runToken hs' hphase
          rw [hstate] at hrunning
          cases hrunning
    · intro s'' hstep
      rw [refused_of_current hs' (by rw [hvalue', hrefuses]) hstep]
      rfl

/-- Two calls read `0`, and the second loses the exchange and retries; and the counter can be
exhausted. -/
theorem nextRequestId_sequences_runs :
    (∃ steps, ∃ s : State Bool Nat, Trace (Step increment) new steps s ∧
      handedOut s = [(false, 1), (true, 2)] ∧
      (handedOut s).map Prod.snd = List.range' 1 (handedOut s).length ∧
      s.value = (handedOut s).length) ∧
    ∃ steps, ∃ s : State Nat Nat, Trace (Step increment) new steps s ∧ s.value = u64Max ∧
      ∀ later s', Trace (Step increment) s later s' → s'.value = u64Max := by
  constructor
  · have hfirst : Trace (Step increment) (new : State Bool Nat) _ _ :=
      Trace.nil.snoc (.load (i := false) (v := 0) rfl (.inr rfl))
    have hsecond := hfirst.snoc (.load (i := true) (v := 0) rfl (.inr rfl))
    have hwins := hsecond.snoc (.exchange (i := false) rfl)
    have hloses := hwins.snoc (.fail (i := true) (v := 1) rfl (.inr rfl))
    have hretries := hloses.snoc (.exchange (i := true) rfl)
    have h := nextRequestId_sequences ⟨List.replicate 16 0, rfl⟩ hretries
    exact ⟨_, _, hretries, rfl, h.1, h.2.2.2.1⟩
  · obtain ⟨steps, s, htrace, hvalue, -⟩ := exists_trace (n := u64Max) le_rfl
    have h := nextRequestId_sequences ⟨List.replicate 16 0, rfl⟩ htrace
    obtain ⟨-, -, -, -, -, -, -, hexhausted⟩ := h
    exact ⟨steps, s, htrace, hvalue, fun later s' hlater => (hexhausted later s' hvalue hlater).1⟩

end SequentialRequestIds

end Custode
