import Custode.Found.Program
import Mathlib.Logic.Function.Basic

/-!
# Parties that interleave over a shared state

A family of parties `ι`, each running its own program, takes turns: one step is one answered call
of one party (`Turn.call`), or the loss of a party that was waiting in a cancellable call
(`Turn.drop`). An `Arena` says what a call does to the shared state and which answers that state
admits (`exec`), which calls may be interrupted by a drop (`Cancellable`), and what the shared
state gets back from a dropped party (`release`).

* `Reach A progs s₀ c` — configuration `c` is reachable: any number of parties, any schedule, any
  admitted answers, any drops.
* `Reach.runs` — in a reachable configuration what a party has done is a run of its own program,
  so everything proved about single programs holds inside every interleaving.
* `Reach.invariant` — the rule for properties of the shared state: it is enough that the *monitor
  states* of the parties and the shared state keep an invariant under every call the monitor
  allows. The programs appear in it only through `Monitor.Safe`.
* `Reach.history_invariant` — the same rule with the parties' histories instead of monitor states.
* `Reach.raised` — the rule for a flag that is raised only for a cause.
-/

namespace Custode.Found

variable {ι Op S : Type} {Res : Op → Type} {α : ι → Type}

/-- What calls and drops do to a shared state. -/
structure Arena (ι : Type) {Op : Type} (Res : Op → Type) (S : Type) where
  /-- Party `i` makes a call with this answer in the first state and leaves the second. -/
  exec : ι → S → Event Res → S → Prop
  /-- A party waiting in this call can be dropped. -/
  Cancellable : ι → Op → Prop
  /-- The shared state after a party was dropped. -/
  release : ι → S → S

/-- A configuration: the shared state and, for each party, what it still has to do, what it has
done, and whether it was dropped. -/
structure Config (α : ι → Type) (Res : Op → Type) (S : Type) where
  /-- The shared state. -/
  shared : S
  /-- The rest of each party's program. -/
  rest : (i : ι) → Program Res (α i)
  /-- The events of each party, oldest first. -/
  history : ι → List (Event Res)
  /-- The parties that were dropped. -/
  dropped : ι → Bool

/-- What one step was. -/
inductive Turn (ι : Type) {Op : Type} (Res : Op → Type) where
  /-- A party's call was answered. -/
  | call (i : ι) (e : Event Res)
  /-- A party was dropped while it waited in a call. -/
  | drop (i : ι) (op : Op)

variable [DecidableEq ι]

namespace Config

/-- The configuration in which nothing has happened yet. -/
def start (progs : (i : ι) → Program Res (α i)) (s : S) : Config α Res S where
  shared := s
  rest := progs
  history := fun _ => []
  dropped := fun _ => false

/-- Party `i`'s call was answered. -/
def advance (c : Config α Res S) (i : ι) (e : Event Res) (p : Program Res (α i)) (s : S) :
    Config α Res S where
  shared := s
  rest := Function.update c.rest i p
  history := Function.update c.history i (c.history i ++ [e])
  dropped := c.dropped

/-- Party `i` was dropped. -/
def lose (c : Config α Res S) (i : ι) (s : S) : Config α Res S where
  shared := s
  rest := c.rest
  history := c.history
  dropped := Function.update c.dropped i true

/-- An answered call leaves the new shared state. -/
@[simp] lemma advance_shared (c : Config α Res S) (i : ι) (e : Event Res)
    (p : Program Res (α i)) (s : S) : (c.advance i e p s).shared = s := rfl

/-- An answered call drops nobody. -/
@[simp] lemma advance_dropped (c : Config α Res S) (i : ι) (e : Event Res)
    (p : Program Res (α i)) (s : S) : (c.advance i e p s).dropped = c.dropped := rfl

/-- A drop leaves what the dropped party gave back. -/
@[simp] lemma lose_shared (c : Config α Res S) (i : ι) (s : S) : (c.lose i s).shared = s := rfl

/-- A drop undoes nothing. -/
@[simp] lemma lose_history (c : Config α Res S) (i : ι) (s : S) :
    (c.lose i s).history = c.history := rfl

/-- A drop moves nobody. -/
@[simp] lemma lose_rest (c : Config α Res S) (i : ι) (s : S) : (c.lose i s).rest = c.rest := rfl

/-- A history holds an event after a call when it held it before, or it is that of the call. -/
lemma mem_history_advance {c : Config α Res S} {i j : ι} {e e' : Event Res}
    {p : Program Res (α i)} {s : S} :
    e' ∈ (c.advance i e p s).history j ↔ e' ∈ c.history j ∨ (j = i ∧ e' = e) := by
  by_cases hji : j = i
  · subst hji
    simp [advance]
  · simp [advance, hji]

/-- A call moves the monitor state of the calling party only. -/
lemma after_advance {σ : Type} (M : Monitor Res σ) (m₀ : ι → σ) (c : Config α Res S) (i : ι)
    (e : Event Res) (p : Program Res (α i)) (s : S) :
    (fun j => M.after (m₀ j) ((c.advance i e p s).history j)) =
      Function.update (fun j => M.after (m₀ j) (c.history j)) i
        (M.observe (M.after (m₀ i) (c.history i)) e) := by
  funext j
  by_cases hij : j = i
  · subst hij
    simp [advance]
  · simp [advance, Function.update_of_ne hij]

end Config

variable (A : Arena ι Res S)

/-- One step of one party. -/
inductive Step : Config α Res S → Turn ι Res → Config α Res S → Prop
  | call {c : Config α Res S} {i : ι} {op : Op} {k : Res op → Program Res (α i)} {r : Res op}
      {s : S} (live : c.dropped i = false) (head : c.rest i = .call op k)
      (answer : A.exec i c.shared ⟨op, r⟩ s) :
      Step c (.call i ⟨op, r⟩) (c.advance i ⟨op, r⟩ (k r) s)
  | drop {c : Config α Res S} {i : ι} {op : Op} {k : Res op → Program Res (α i)}
      (live : c.dropped i = false) (head : c.rest i = .call op k) (await : A.Cancellable i op) :
      Step c (.drop i op) (c.lose i (A.release i c.shared))

/-- The configurations reachable from `start progs s₀`, with the turns that led there. -/
inductive Reach (progs : (i : ι) → Program Res (α i)) (s₀ : S) :
    List (Turn ι Res) → Config α Res S → Prop
  | start : Reach progs s₀ [] (Config.start progs s₀)
  | step {turns : List (Turn ι Res)} {c c' : Config α Res S} {t : Turn ι Res}
      (before : Reach progs s₀ turns c) (now : Step A c t c') : Reach progs s₀ (turns ++ [t]) c'

/-- The party that calls `es` one after the other takes the shared state from the first to the
second. -/
inductive Arena.Execs (i : ι) : S → List (Event Res) → S → Prop
  | nil (s : S) : Execs i s [] s
  | cons {s s' s'' : S} {e : Event Res} {es : List (Event Res)} (now : A.exec i s e s')
      (after : Execs i s' es s'') : Execs i s (e :: es) s''

omit [DecidableEq ι] in
variable {A} in
/-- Two runs of one party, one after the other. -/
lemma Arena.Execs.append {i : ι} {s s' s'' : S} {es es' : List (Event Res)}
    (h : A.Execs i s es s') (h' : A.Execs i s' es' s'') : A.Execs i s (es ++ es') s'' := by
  induction h with
  | nil => exact h'
  | cons now _ ih => exact .cons now (ih h')

namespace Reach

variable {A} {progs : (i : ι) → Program Res (α i)} {s₀ : S} {turns : List (Turn ι Res)}
  {c : Config α Res S}

/-- In every interleaving, what a party has done is a run of its own program. -/
theorem runs (h : Reach A progs s₀ turns c) (i : ι) :
    (progs i).Runs (c.history i) (c.rest i) := by
  induction h with
  | start => exact .refl _
  | step _ now ih =>
      cases now with
      | @call j op k r s live head answer =>
          by_cases hij : i = j
          · subst hij
            rw [head] at ih
            simpa [Config.advance] using ih.snoc r
          · simpa [Config.advance, Function.update_of_ne hij] using ih
      | drop live head await => exact ih

/-- What a party has done decides where it stands. -/
theorem rest_of_runs (h : Reach A progs s₀ turns c) {i : ι} {q : Program Res (α i)}
    (hruns : (progs i).Runs (c.history i) q) : c.rest i = q :=
  (h.runs i).unique hruns

/-- What a party was answered in a turn is in its history. -/
lemma mem_history_of_turn (h : Reach A progs s₀ turns c) {i : ι} {e : Event Res}
    (hmem : .call i e ∈ turns) : e ∈ c.history i := by
  induction h with
  | start => cases hmem
  | step before now ih =>
      rw [List.mem_append, List.mem_singleton] at hmem
      cases now with
      | call live head answer =>
          rw [Config.mem_history_advance]
          rcases hmem with hmem | hturn
          · exact .inl (ih hmem)
          · cases hturn
            exact .inr ⟨rfl, rfl⟩
      | drop live head await =>
          rcases hmem with hmem | hturn
          · exact ih hmem
          · cases hturn

/-- A dropped party was dropped while it waited in a cancellable call, at which it still stands. -/
theorem dropped_at (h : Reach A progs s₀ turns c) {i : ι} (hdropped : c.dropped i = true) :
    ∃ op k, .drop i op ∈ turns ∧ c.rest i = .call op k ∧ A.Cancellable i op := by
  induction h with
  | start => cases hdropped
  | step before now ih =>
      cases now with
      | @call j op k r s live head answer =>
          have hne : i ≠ j := by
            rintro rfl
            rw [Config.advance_dropped, live] at hdropped
            cases hdropped
          obtain ⟨op', k', hmem, hrest, hcancellable⟩ := ih hdropped
          refine ⟨op', k', List.mem_append_left _ hmem, ?_, hcancellable⟩
          simpa [Config.advance, Function.update_of_ne hne] using hrest
      | @drop j op k live head await =>
          by_cases hij : i = j
          · subst hij
            exact ⟨op, k, by simp, head, await⟩
          · have hbefore : ∀ d : ι → Bool, Function.update d j true i = d i :=
              fun d => Function.update_of_ne hij _ _
            obtain ⟨op', k', hmem, hrest, hcancellable⟩ :=
              ih (by simpa [Config.lose, hbefore] using hdropped)
            exact ⟨op', k', List.mem_append_left _ hmem, hrest, hcancellable⟩

/-- A party that has not been dropped can take several turns in a row. -/
theorem call_run {i : ι} {es : List (Event Res)} {q : Program Res (α i)} {s : S}
    (h : Reach A progs s₀ turns c) (live : c.dropped i = false) (hruns : (c.rest i).Runs es q)
    (hexecs : A.Execs i c.shared es s) :
    ∃ c', Reach A progs s₀ (turns ++ es.map (.call i)) c' ∧ c'.shared = s ∧ c'.rest i = q ∧
      c'.history = Function.update c.history i (c.history i ++ es) ∧ c'.dropped = c.dropped := by
  induction es generalizing c turns with
  | nil =>
      generalize hrest : c.rest i = p at hruns
      cases hruns
      cases hexecs
      exact ⟨c, by simpa using h, rfl, hrest, by simp, rfl⟩
  | cons e es ih =>
      cases hexecs with
      | @cons _ s' _ _ _ now after =>
          generalize hrest : c.rest i = p at hruns
          cases hruns with
          | @step op k r tr q hruns =>
              have hstep := h.step (.call live hrest now)
              obtain ⟨c', hreach, hshared, hq, hhistory, hdropped⟩ :=
                ih hstep live (by simpa [Config.advance] using hruns) after
              refine ⟨c', by simpa using hreach, hshared, hq, ?_, hdropped⟩
              rw [hhistory]
              simp [Config.advance]

/-- **Invariants of the shared state.** If every program is safe for a monitor, each from a state of
its own, an invariant between the shared state, the parties' monitor states and the dropped parties
only has to be kept by the calls the monitor is ready for. -/
theorem invariant {σ : Type} {M : Monitor Res σ} {m₀ : ι → σ} {Q : (i : ι) → α i → σ → Prop}
    (hsafe : ∀ i, M.Safe (progs i) (Q i) (m₀ i)) {I : S → (ι → σ) → (ι → Bool) → Prop}
    (hstart : I s₀ m₀ fun _ => false)
    (hcall : ∀ s m d i op (r : Res op) s', I s m d → d i = false → M.Ready (m i) op →
      A.exec i s ⟨op, r⟩ s' → I s' (Function.update m i (M.observe (m i) ⟨op, r⟩)) d)
    (hdrop : ∀ s m d i op, I s m d → d i = false → M.Ready (m i) op → A.Cancellable i op →
      I (A.release i s) m (Function.update d i true))
    (h : Reach A progs s₀ turns c) :
    I c.shared (fun i => M.after (m₀ i) (c.history i)) c.dropped := by
  induction h with
  | start => exact hstart
  | step before now ih =>
      cases now with
      | @call i op k r s live head answer =>
          have hrun := before.runs i
          rw [head] at hrun
          rw [Config.after_advance]
          exact hcall _ _ _ i op r s ih live ((hsafe i).ready hrun) answer
      | @drop i op k live head await =>
          have hrun := before.runs i
          rw [head] at hrun
          exact hdrop _ _ _ i op ih live ((hsafe i).ready hrun) await

/-- The same between the shared state and what the parties have done. -/
theorem history_invariant {I : S → (ι → List (Event Res)) → Prop} (hstart : I s₀ fun _ => [])
    (hcall : ∀ s hist i e s', I s hist → A.exec i s e s' →
      I s' (Function.update hist i (hist i ++ [e])))
    (hdrop : ∀ s hist i, I s hist → I (A.release i s) hist)
    (h : Reach A progs s₀ turns c) : I c.shared c.history := by
  have hinv := invariant (M := Monitor.trace)
    (fun i => Monitor.safe_trace (progs i) []) hstart
    (fun s hist _ i op r s' hinv _ _ hexec => hcall s hist i ⟨op, r⟩ s' hinv hexec)
    (fun s hist _ i _ hinv _ _ _ => hdrop s hist i hinv) h
  simpa only [Monitor.after_trace, List.nil_append] using hinv

/-- **Flags.** When a flag is raised only by a party that was given a cause, and is seen only
where it is up, then a flag that is up, or was seen, has a cause. -/
theorem raised {Ready : List (Event Res) → Op → Prop} {Q : (i : ι) → α i → List (Event Res) → Prop}
    {U : S → Prop} {Sees Cause : Event Res → Prop}
    (hsafe : ∀ i, (Monitor.recorder Ready).Safe (progs i) (Q i) []) (hstart : ¬ U s₀)
    (hraise : ∀ i s op (r : Res op) s', A.exec i s ⟨op, r⟩ s' → U s' →
      U s ∨ ∀ tr, Ready tr op → ∃ e ∈ tr, Cause e)
    (hsees : ∀ i s e s', A.exec i s e s' → Sees e → U s) (hdrop : ∀ i s, U (A.release i s) → U s)
    (h : Reach A progs s₀ turns c) (hup : U c.shared ∨ ∃ i, ∃ e ∈ c.history i, Sees e) :
    ∃ i, ∃ e ∈ c.history i, Cause e := by
  have hinv := invariant (M := Monitor.recorder Ready) hsafe
    (I := fun s hist _ => U s ∨ (∃ i, ∃ e ∈ hist i, Sees e) → ∃ i, ∃ e ∈ hist i, Cause e)
    ?_ ?_ ?_ h
  · simp only [Monitor.after_recorder, List.nil_append] at hinv
    exact hinv hup
  · rintro (hup | ⟨i, e, hmem, -⟩)
    · exact absurd hup hstart
    · cases hmem
  · intro s hist d i op r s' hinv _ hready hexec
    change U s' ∨ (∃ j, ∃ e ∈ Function.update hist i (hist i ++ [⟨op, r⟩]) j, Sees e) → _
    intro hup
    -- an older cause is still there, as histories only grow
    have hgrows : ∀ j, hist j ⊆ Function.update hist i (hist i ++ [⟨op, r⟩]) j := by
      intro j e hmem
      by_cases hji : j = i
      · subst hji
        simp [hmem]
      · simpa [hji] using hmem
    have holder : (∃ j, ∃ e ∈ hist j, Cause e) →
        ∃ j, ∃ e ∈ Function.update hist i (hist i ++ [⟨op, r⟩]) j, Cause e :=
      fun ⟨j, e, hmem, hcause⟩ => ⟨j, e, hgrows j hmem, hcause⟩
    rcases hup with hup | ⟨j, e, hmem, hseen⟩
    · rcases hraise i s op r s' hexec hup with hup | hcause
      · exact holder (hinv (.inl hup))
      · exact holder ⟨i, hcause _ hready⟩
    · by_cases hji : j = i
      · subst hji
        rw [Function.update_self, List.mem_append, List.mem_singleton] at hmem
        rcases hmem with hmem | rfl
        · exact holder (hinv (.inr ⟨j, e, hmem, hseen⟩))
        · exact holder (hinv (.inl (hsees j s _ s' hexec hseen)))
      · rw [Function.update_of_ne hji] at hmem
        exact holder (hinv (.inr ⟨j, e, hmem, hseen⟩))
  · intro s hist d i op hinv _ _ _ hup
    exact hinv (hup.imp_left (hdrop i s))

end Reach

end Custode.Found
