import Mathlib.Tactic.Common

/-!
# Programs over a signature of calls, their runs, and monitors

An asynchronous function is a tree: it returns, or it makes a call and goes on with whatever the
call answers. `Program Res α` is that tree over a signature `Res : Op → Type` (the type of the
answer to each call); `do` notation writes it down line by line from the source.

* `Runs p tr q` — from `p`, the calls and answers `tr` lead to the rest `q`. Every prefix of an
  execution is a run, under every answer the environment may give; a completed execution is a run
  to `ret a`.
* `Monitor Res σ` — a state `σ` that observes the events of a run, with the condition `Ready s op`
  under which `op` may be called in monitor state `s`.
* `Makes C p` — every call of `p` is one of `C`.
* `Safe M p Q s` — started in monitor state `s`, every call of `p` is made in a ready state and
  every return satisfies `Q`. The rules are one per program former (`safe_ret`, `safe_perform`,
  `safe_bind`) and `Safe.mono`; soundness is `Safe.runs` with its two readings `Safe.returned`
  and `Safe.ready`.

The library is about no particular signature.
-/

namespace Custode.Found

/-- A program that makes calls of a signature and returns an `α`. -/
inductive Program {Op : Type} (Res : Op → Type) (α : Type) where
  /-- The program has returned. -/
  | ret (a : α)
  /-- The program calls `op` and goes on with the answer. -/
  | call (op : Op) (k : Res op → Program Res α)

/-- A call together with the answer it was given. -/
abbrev Event {Op : Type} (Res : Op → Type) := (op : Op) × Res op

namespace Program

variable {Op : Type} {Res : Op → Type} {α β : Type}

/-- Sequencing: continue at every return. -/
def bind : Program Res α → (α → Program Res β) → Program Res β
  | ret a, f => f a
  | call op k, f => call op fun r => bind (k r) f

instance : Monad (Program Res) where
  pure := ret
  bind := bind

/-- The program that makes one call and returns its answer. -/
def perform (op : Op) : Program Res (Res op) := call op ret

/-- A call in front of a sequence. -/
lemma call_bind (op : Op) (k : Res op → Program Res α) (f : α → Program Res β) :
    (call op k >>= f) = call op fun r => k r >>= f := rfl

/-! ## Runs -/

/-- From `p`, the events `tr` lead to the rest `q`. -/
inductive Runs : Program Res α → List (Event Res) → Program Res α → Prop
  | refl (p : Program Res α) : Runs p [] p
  | step {op : Op} {k : Res op → Program Res α} {r : Res op} {tr : List (Event Res)}
      {q : Program Res α} : Runs (k r) tr q → Runs (call op k) (⟨op, r⟩ :: tr) q

namespace Runs

variable {p q s : Program Res α} {tr tr' : List (Event Res)}

/-- Two runs, one after the other. -/
lemma trans (h : Runs p tr q) (h' : Runs q tr' s) : Runs p (tr ++ tr') s := by
  induction h with
  | refl => exact h'
  | step _ ih => exact .step (ih h')

/-- One more answered call. -/
lemma snoc {op : Op} {k : Res op → Program Res α} (h : Runs p tr (call op k)) (r : Res op) :
    Runs p (tr ++ [⟨op, r⟩]) (k r) :=
  h.trans (.step (.refl _))

/-- A returned program has no further event. -/
lemma of_ret {a : α} (h : Runs (ret a : Program Res α) tr q) : tr = [] ∧ q = ret a := by
  cases h
  exact ⟨rfl, rfl⟩

/-- The first event of a run answers the first call. -/
lemma of_call {op : Op} {k : Res op → Program Res α} (h : Runs (call op k) tr q) :
    (tr = [] ∧ q = call op k) ∨ ∃ r tr', tr = ⟨op, r⟩ :: tr' ∧ Runs (k r) tr' q := by
  cases h with
  | refl => exact .inl ⟨rfl, rfl⟩
  | step h => exact .inr ⟨_, _, rfl, h⟩

/-- Every event of a run was called where the events before it led. -/
lemma split {pre post : List (Event Res)} {e : Event Res} (h : Runs p (pre ++ e :: post) q) :
    ∃ k, Runs p pre (call e.1 k) ∧ Runs (k e.2) post q := by
  induction pre generalizing p with
  | nil =>
      cases h with
      | @step op k r tr q h => exact ⟨k, .refl _, h⟩
  | cons e' pre ih =>
      cases h with
      | step h =>
          obtain ⟨k, hpre, hpost⟩ := ih h
          exact ⟨k, .step hpre, hpost⟩

/-- The events of a run decide where it comes to. -/
lemma unique {q' : Program Res α} (h : Runs p tr q) (h' : Runs p tr q') : q = q' := by
  induction h with
  | refl p =>
      cases h'
      rfl
  | step _ ih =>
      cases h' with
      | step h' => exact ih h'

/-- A run of the first part is a run of the sequence. -/
lemma bind_left (h : Runs p tr q) (f : α → Program Res β) : Runs (p >>= f) tr (q >>= f) := by
  induction h with
  | refl => exact .refl _
  | step _ ih => exact .step ih

/-- A completed first part, then a run of the second. -/
lemma bind {a : α} {f : α → Program Res β} {q : Program Res β} (h : Runs p tr (ret a))
    (h' : Runs (f a) tr' q) : Runs (p >>= f) (tr ++ tr') q :=
  (h.bind_left f).trans h'

/-- A run of a sequence is a run of its first part, or has completed it. -/
lemma of_bind {p : Program Res α} {f : α → Program Res β} {q : Program Res β}
    (h : Runs (p >>= f) tr q) :
    (∃ p', Runs p tr p' ∧ q = p' >>= f) ∨
      ∃ a tr₁ tr₂, tr = tr₁ ++ tr₂ ∧ Runs p tr₁ (ret a) ∧ Runs (f a) tr₂ q := by
  induction p generalizing tr with
  | ret a => exact .inr ⟨a, [], tr, rfl, .refl _, h⟩
  | call op k ih =>
      rcases of_call h with ⟨rfl, rfl⟩ | ⟨r, tr, rfl, hrest⟩
      · exact .inl ⟨_, .refl _, rfl⟩
      · rcases ih r hrest with ⟨p', hruns, rfl⟩ | ⟨a, tr₁, tr₂, rfl, hruns, hafter⟩
        · exact .inl ⟨p', .step hruns, rfl⟩
        · exact .inr ⟨a, ⟨op, r⟩ :: tr₁, tr₂, rfl, .step hruns, hafter⟩

end Runs

/-- After the events `tr`, the event `e` completes a run of `p` that returns `a`. -/
def Finishes (p : Program Res α) (a : α) (tr : List (Event Res)) (e : Event Res) : Prop :=
  ∃ pre mid, tr = pre ++ mid ∧ p.Runs (mid ++ [e]) (.ret a)

/-! ## The calls of a program -/

/-- Every call of the program, after any answers, is one of `C`. -/
def Makes (C : Op → Prop) : Program Res α → Prop
  | ret _ => True
  | call op k => C op ∧ ∀ r, Makes C (k r)

section Makes

variable {C : Op → Prop}

/-- Returning makes no call. -/
@[simp] lemma makes_ret {a : α} : Makes C (ret a : Program Res α) := trivial

/-- Neither does `pure`. -/
@[simp] lemma makes_pure {a : α} : Makes C (pure a : Program Res α) := trivial

/-- One call makes that call. -/
@[simp] lemma makes_perform {op : Op} : Makes C (perform op : Program Res (Res op)) ↔ C op :=
  ⟨fun h => h.1, fun h => ⟨h, fun _ => trivial⟩⟩

/-- A sequence makes the calls of its parts. -/
lemma Makes.bind {p : Program Res α} {f : α → Program Res β} (h : Makes C p)
    (hf : ∀ a, Makes C (f a)) : Makes C (p >>= f) := by
  induction p with
  | ret a => exact hf a
  | call op k ih => exact ⟨h.1, fun r => ih r (h.2 r)⟩

/-- A weaker condition on the calls. -/
lemma Makes.mono {C' : Op → Prop} {p : Program Res α} (h : Makes C p)
    (hC : ∀ op, C op → C' op) : Makes C' p := by
  induction p with
  | ret a => trivial
  | call op k ih => exact ⟨hC op h.1, fun r => ih r (h.2 r)⟩

/-- Whatever a run has called is a call of the program. -/
lemma Makes.of_mem {p q : Program Res α} {tr : List (Event Res)} (h : Makes C p) (hr : Runs p tr q)
    {e : Event Res} (hmem : e ∈ tr) : C e.1 := by
  induction hr with
  | refl => cases hmem
  | step _ ih =>
      rcases List.mem_cons.mp hmem with rfl | hmem
      · exact h.1
      · exact ih (h.2 _) hmem

end Makes

/-- The call that the program stands at. -/
def next : Program Res α → Option Op
  | ret _ => none
  | call op _ => some op

end Program

/-! ## Monitors -/

/-- A state that follows the events of a run, and what may be called in which state. -/
structure Monitor {Op : Type} (Res : Op → Type) (σ : Type) where
  /-- The state after one more event. -/
  observe : σ → Event Res → σ
  /-- The condition for making a call. -/
  Ready : σ → Op → Prop

namespace Monitor

variable {Op : Type} {Res : Op → Type} {σ α β : Type} (M : Monitor Res σ)

/-- The state after a list of events. -/
def after (s : σ) (tr : List (Event Res)) : σ := tr.foldl M.observe s

/-- No event, no change. -/
@[simp] lemma after_nil (s : σ) : M.after s [] = s := rfl

/-- The state after a list of events, from its head. -/
@[simp] lemma after_cons (s : σ) (e : Event Res) (tr : List (Event Res)) :
    M.after s (e :: tr) = M.after (M.observe s e) tr := rfl

/-- The state after two lists of events. -/
@[simp] lemma after_append (s : σ) (tr tr' : List (Event Res)) :
    M.after s (tr ++ tr') = M.after (M.after s tr) tr' := List.foldl_append

/-- Every call of `p` is made in a ready state, and every return satisfies `Q`. -/
def Safe : Program Res α → (α → σ → Prop) → σ → Prop
  | .ret a, Q, s => Q a s
  | .call op k, Q, s => M.Ready s op ∧ ∀ r, Safe (k r) Q (M.observe s ⟨op, r⟩)

variable {M}

/-- A program that has returned is safe when its postcondition holds. -/
@[simp] lemma safe_ret {a : α} {Q : α → σ → Prop} {s : σ} :
    M.Safe (.ret a : Program Res α) Q s ↔ Q a s := Iff.rfl

/-- So is `pure`. -/
@[simp] lemma safe_pure {a : α} {Q : α → σ → Prop} {s : σ} :
    M.Safe (pure a : Program Res α) Q s ↔ Q a s := Iff.rfl

/-- A call is safe when it is ready and its continuation is safe for every answer. -/
lemma safe_call {op : Op} {k : Res op → Program Res α} {Q : α → σ → Prop} {s : σ} :
    M.Safe (.call op k) Q s ↔ M.Ready s op ∧ ∀ r, M.Safe (k r) Q (M.observe s ⟨op, r⟩) := Iff.rfl

/-- The single call of `perform` is safe when it is ready. -/
@[simp] lemma safe_perform {op : Op} {Q : Res op → σ → Prop} {s : σ} :
    M.Safe (Program.perform op) Q s ↔ M.Ready s op ∧ ∀ r, Q r (M.observe s ⟨op, r⟩) := Iff.rfl

/-- A sequence is safe when its first part is, with the second as its postcondition. -/
@[simp] lemma safe_bind {p : Program Res α} {f : α → Program Res β} {Q : β → σ → Prop} {s : σ} :
    M.Safe (p >>= f) Q s ↔ M.Safe p (fun a s' => M.Safe (f a) Q s') s := by
  induction p generalizing s with
  | ret a => exact Iff.rfl
  | call op k ih =>
      rw [Program.call_bind, safe_call, safe_call]
      exact and_congr_right fun _ => forall_congr' fun r => ih r

/-- A weaker postcondition. -/
lemma Safe.mono {p : Program Res α} {Q Q' : α → σ → Prop} {s : σ} (h : M.Safe p Q s)
    (hQ : ∀ a s', Q a s' → Q' a s') : M.Safe p Q' s := by
  induction p generalizing s with
  | ret a => exact hQ a s h
  | call op k ih => exact ⟨h.1, fun r => ih r (h.2 r)⟩

/-- The first part establishes what the second one starts from. -/
lemma Safe.bind {p : Program Res α} {f : α → Program Res β} {P : α → σ → Prop} {Q : β → σ → Prop}
    {s : σ} (h : M.Safe p P s) (hf : ∀ a s', P a s' → M.Safe (f a) Q s') : M.Safe (p >>= f) Q s :=
  safe_bind.mpr (h.mono hf)

/-- A program whose calls all leave the monitor where it is. -/
lemma safe_of_makes {C : Op → Prop} {p : Program Res α} {s : σ} (h : p.Makes C)
    (hready : ∀ op, C op → M.Ready s op)
    (hobserve : ∀ op (r : Res op), C op → M.observe s ⟨op, r⟩ = s) :
    M.Safe p (fun _ s' => s' = s) s := by
  induction p with
  | ret a => rfl
  | call op k ih =>
      refine ⟨hready op h.1, ?_⟩
      intro r
      rw [hobserve op r h.1]
      exact ih r (h.2 r)

/-- Safety is kept along a run. -/
theorem Safe.runs {p q : Program Res α} {Q : α → σ → Prop} {s : σ} {tr : List (Event Res)}
    (h : M.Safe p Q s) (hr : p.Runs tr q) : M.Safe q Q (M.after s tr) := by
  induction hr generalizing s with
  | refl => exact h
  | step _ ih => exact ih (h.2 _)

/-- A completed run satisfies the postcondition. -/
lemma Safe.returned {p : Program Res α} {Q : α → σ → Prop} {s : σ} {tr : List (Event Res)}
    {a : α} (h : M.Safe p Q s) (hr : p.Runs tr (.ret a)) : Q a (M.after s tr) :=
  h.runs hr

/-- A run that has come to a call finds the monitor ready for it. -/
lemma Safe.ready {p : Program Res α} {Q : α → σ → Prop} {s : σ} {tr : List (Event Res)}
    {op : Op} {k : Res op → Program Res α} (h : M.Safe p Q s) (hr : p.Runs tr (.call op k)) :
    M.Ready (M.after s tr) op :=
  (h.runs hr).1

/-- The monitor that remembers the events, with a condition on the calls after them. -/
def recorder (Ready : List (Event Res) → Op → Prop) : Monitor Res (List (Event Res)) :=
  ⟨fun tr e => tr ++ [e], Ready⟩

/-- The recorder remembers every event. -/
lemma after_recorder (Ready : List (Event Res) → Op → Prop) (tr tr' : List (Event Res)) :
    (recorder Ready).after tr tr' = tr ++ tr' := by
  induction tr' generalizing tr with
  | nil => simp
  | cons e tr' ih =>
      rw [after_cons, ih]
      simp [recorder]

/-- A program whose calls are all of `C` adds only such calls to what is remembered. -/
lemma safe_recorder_of_makes {C : Op → Prop} {Ready : List (Event Res) → Op → Prop}
    {p : Program Res α} {tr : List (Event Res)} (h : p.Makes C)
    (hready : ∀ added, (∀ e ∈ added, C e.1) → ∀ op, C op → Ready (tr ++ added) op) :
    (recorder Ready).Safe p (fun _ tr' => ∃ added, tr' = tr ++ added ∧ ∀ e ∈ added, C e.1) tr := by
  induction p generalizing tr with
  | ret a => exact ⟨[], (List.append_nil tr).symm, List.forall_mem_nil _⟩
  | call op k ih =>
      have hhere : Ready tr op := by simpa using hready [] (List.forall_mem_nil _) op h.1
      refine ⟨hhere, fun r => ?_⟩
      have hcons : ∀ added, (∀ e ∈ added, C e.1) → ∀ e ∈ (⟨op, r⟩ : Event Res) :: added, C e.1 :=
        fun added hadded => List.forall_mem_cons.mpr ⟨h.1, hadded⟩
      refine (ih r (h.2 r) ?_).mono ?_
      · intro added hadded op' hop'
        simpa [recorder] using hready (⟨op, r⟩ :: added) (hcons added hadded) op' hop'
      · rintro a tr' ⟨added, rfl, hadded⟩
        exact ⟨⟨op, r⟩ :: added, by simp [recorder], hcons added hadded⟩

/-- A call that a run has made was made where the events before it made the recorder ready. -/
lemma Safe.ready_of_mem {Ready : List (Event Res) → Op → Prop} {p q : Program Res α}
    {Q : α → List (Event Res) → Prop} {s tr : List (Event Res)} {e : Event Res}
    (h : (recorder Ready).Safe p Q s) (hr : p.Runs tr q) (hmem : e ∈ tr) :
    ∃ pre post, tr = pre ++ e :: post ∧ Ready (s ++ pre) e.1 := by
  obtain ⟨pre, post, rfl⟩ := List.append_of_mem hmem
  obtain ⟨k, hpre, -⟩ := hr.split
  have hready := h.ready hpre
  rw [after_recorder] at hready
  exact ⟨pre, post, rfl, hready⟩

/-- The monitor that remembers the events, and is ready for every call. -/
def trace : Monitor Res (List (Event Res)) := ⟨fun tr e => tr ++ [e], fun _ _ => True⟩

/-- So does the trace. -/
lemma after_trace (tr tr' : List (Event Res)) :
    (trace : Monitor Res _).after tr tr' = tr ++ tr' :=
  after_recorder (fun _ _ => True) tr tr'

/-- The trace asks nothing. -/
lemma safe_trace (p : Program Res α) (tr : List (Event Res)) :
    (trace : Monitor Res _).Safe p (fun _ _ => True) tr := by
  induction p generalizing tr with
  | ret a => trivial
  | call op k ih => exact ⟨trivial, fun r => ih r _⟩

/-- An invariant that every answered call keeps, made where the monitor is ready for it, holds after
every run. -/
theorem Safe.invariant {p q : Program Res α} {Q : α → σ → Prop} {s : σ} {tr : List (Event Res)}
    {I : σ → Prop} (h : M.Safe p Q s) (hstart : I s)
    (hstep : ∀ s op (r : Res op), I s → M.Ready s op → I (M.observe s ⟨op, r⟩))
    (hr : p.Runs tr q) : I (M.after s tr) := by
  induction hr generalizing s with
  | refl => exact hstart
  | @step op k r tr q _ ih => exact ih (h.2 r) (hstep s op r hstart h.1)

end Monitor

end Custode.Found
