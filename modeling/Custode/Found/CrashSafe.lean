import Custode.Found.Program

/-!
# Programs that may stop at any call

A program makes its calls against a state: `exec s ⟨op, r⟩ s'` says that the call `op` can be
answered `r` in state `s` and leave `s'`. The program may also stop for good before any of its
calls, because its process was killed or the machine went down.

* `Steps exec p s q t` — answered calls lead from `p` in state `s` to the rest `q` in state `t`.
* `Wp exec C p Q s` — from `s`, the condition `C` holds before each call and after the last one,
  and `Q` at the return: a weakest precondition with a crash condition. The rules are
  `wp_perform`, `wp_bind` and `Wp.mono`; soundness is `Wp.steps`.
* `Attempts exec crash p s t` — from `s`, any number of attempts at `p`, each stopped anywhere,
  with crashes that change the state in between, lead to `t`. `Attempts.invariant` is the rule for
  what holds between attempts.
* `Bounded p n` — whatever the calls answer, `p` returns within `n` of them.
-/

namespace Custode.Found.Program

variable {Op S : Type} {Res : Op → Type} {α β : Type} (exec : S → Event Res → S → Prop)

/-- Answered calls lead from a program in a state to the rest of it in another. -/
inductive Steps : Program Res α → S → Program Res α → S → Prop
  | refl (p : Program Res α) (s : S) : Steps p s p s
  | step {op : Op} {k : Res op → Program Res α} {r : Res op} {q : Program Res α} {s s' t : S}
      (now : exec s ⟨op, r⟩ s') (after : Steps (k r) s' q t) : Steps (.call op k) s q t

/-- `C` holds at every point of every run from the state, and `Q` when it returns. -/
def Wp (C : S → Prop) : Program Res α → (α → S → Prop) → S → Prop
  | .ret a, Q, s => C s ∧ Q a s
  | .call op k, Q, s => C s ∧ ∀ r s', exec s ⟨op, r⟩ s' → Wp C (k r) Q s'

variable {exec} {C : S → Prop}

/-- The condition holds before the program. -/
lemma Wp.now {p : Program Res α} {Q : α → S → Prop} {s : S} (h : Wp exec C p Q s) : C s := by
  cases p with
  | ret a => exact h.1
  | call op k => exact h.1

/-- One call: the condition holds before it and behind every answer. -/
lemma wp_perform {op : Op} {Q : Res op → S → Prop} {s : S} :
    Wp exec C (perform op) Q s ↔ C s ∧ ∀ r s', exec s ⟨op, r⟩ s' → C s' ∧ Q r s' := Iff.rfl

/-- Sequencing composes preconditions. -/
lemma wp_bind {p : Program Res α} {f : α → Program Res β} {Q : β → S → Prop} {s : S} :
    Wp exec C (p >>= f) Q s ↔ Wp exec C p (fun a s' => Wp exec C (f a) Q s') s := by
  induction p generalizing s with
  | ret a => exact ⟨fun h => ⟨h.now, h⟩, fun h => h.2⟩
  | call op k ih =>
      rw [call_bind]
      exact and_congr_right fun _ => forall_congr' fun r => forall_congr' fun s' =>
        imp_congr_right fun _ => ih r

/-- A weaker postcondition has a weaker precondition. -/
lemma Wp.mono {p : Program Res α} {Q Q' : α → S → Prop} {s : S} (h : Wp exec C p Q s)
    (hQ : ∀ a s', C s' → Q a s' → Q' a s') : Wp exec C p Q' s := by
  induction p generalizing s with
  | ret a => exact ⟨h.1, hQ a s h.1 h.2⟩
  | call op k ih => exact ⟨h.1, fun r s' now => ih r (h.2 r s' now)⟩

/-- What is required of a program holds of every rest of it. -/
theorem Wp.steps {p q : Program Res α} {Q : α → S → Prop} {s t : S} (h : Wp exec C p Q s)
    (hsteps : Steps exec p s q t) : Wp exec C q Q t := by
  induction hsteps with
  | refl => exact h
  | step now _ ih => exact ih (h.2 _ _ now)

/-- Every run returns within so many calls, whatever they answer. -/
def Bounded : Program Res α → ℕ → Prop
  | .ret _, _ => True
  | .call _ k, n => ∃ m, n = m + 1 ∧ ∀ r, Bounded (k r) m

/-- One call more takes one more answer. -/
lemma bounded_perform {op : Op} {f : Res op → Program Res α} {n : ℕ}
    (h : ∀ r, Bounded (f r) n) : Bounded (perform op >>= f) (n + 1) := ⟨n, rfl, h⟩

variable (exec) in
/-- Attempts at a program, each stopped anywhere, with crashes in between. -/
inductive Attempts (crash : S → S → Prop) (p : Program Res α) (s : S) : S → Prop
  | start : Attempts crash p s s
  | attempt {t u : S} {q : Program Res α} (before : Attempts crash p s t)
      (now : Steps exec p t q u) : Attempts crash p s u
  | crash {t u : S} (before : Attempts crash p s t) (now : crash t u) : Attempts crash p s u

/-- A condition that every attempt keeps at every point, and every crash, holds between attempts. -/
theorem Attempts.invariant {crash : S → S → Prop} {p : Program Res α} {s t : S}
    (hattempt : ∀ s, C s → Wp exec C p (fun _ _ => True) s) (hcrash : ∀ s t, C s → crash s t → C t)
    (hstart : C s) (h : Attempts exec crash p s t) : C t := by
  induction h with
  | start => exact hstart
  | attempt _ now ih => exact ((hattempt _ ih).steps now).now
  | crash _ now ih => exact hcrash _ _ ih now

end Custode.Found.Program
