import Custode.Gateway
import Mathlib.Logic.Function.Basic

/-!
# Waiting for an audit failure

`Gateway::wait_for_audit_failure` against `Gateway::close_forwarding`, for any number of each, one
call at a time. A `Notified` future is the number of `notify_waiters` calls made before it was
created; it is complete once there were more. A waiter or closer that takes no more steps stands
for one that was dropped.

* `no_lost_wakeup` — with the flag set and every `notify_waiters` call done, no waiter is parked on
  a future that was not notified, and a waiter returns only while the flag is set.

The invariant is that of every notification protocol of this kind: a waiter that saw the flag unset
and is not notified yet is owed a notification by a closer that stands between its store and its
`notify_waiters` (`WaiterAt.parked`).
-/

namespace Custode

open Found

/-! ## The two functions -/

/-- A call of a waiter. -/
inductive WaitCall where
  /-- `audit_failure.notified()` -/
  | notified
  /-- `audit_failed.load(SeqCst)` -/
  | loadAuditFailed
  /-- `notified.await` -/
  | awaitNotified (notified : Nat)

/-- The answer of a call. -/
abbrev WaitCall.Answer : WaitCall → Type
  | notified => Nat
  | loadAuditFailed => Bool
  | awaitNotified _ => Unit

/-- The loop body behind the creation of the future. `true` returns from the function, `false` goes
round the loop. -/
def checkThenWait (notified : Nat) : Program WaitCall.Answer Bool := do
  if ← Program.perform .loadAuditFailed then return true
  else
    Program.perform (WaitCall.awaitNotified notified)
    return false

/-- One round of the loop that waits until a required audit event fails.
Source: `gateway.rs` `Gateway::wait_for_audit_failure` -/
def waitForAuditFailure : Program WaitCall.Answer Bool := do
  let notified ← Program.perform .notified
  checkThenWait notified

/-- What waiters `W` and closers `C` share, and what each of them still has to do. -/
structure Waking (W C : Type) where
  /-- `Gateway::audit_failed` -/
  auditFailed : Bool
  /-- The `notify_waiters` calls made so far. -/
  notifications : Nat
  /-- The rest of each waiter's round. -/
  waiters : W → Program WaitCall.Answer Bool
  /-- The rest of each closer's `close_forwarding`. -/
  closers : C → Async Unit

namespace Waking

variable {W C : Type}

/-- Nobody has taken a step. -/
def start : Waking W C where
  auditFailed := false
  notifications := 0
  waiters := fun _ => waitForAuditFailure
  closers := fun _ => Gateway.closeForwarding

/-- The answer that a waiter's call gets, when it gets one. -/
def Answers (s : Waking W C) : Event WaitCall.Answer → Prop
  | ⟨.notified, notified⟩ => notified = s.notifications
  | ⟨.loadAuditFailed, failed⟩ => failed = s.auditFailed
  | ⟨.awaitNotified notified, _⟩ => notified < s.notifications

/-- What a closer's call does to the flag and to the notifications. The gate is left to the
environment. -/
def noted (s : Waking W C) : Call → Waking W C
  | .storeAuditFailed => { s with auditFailed := true }
  | .notifyWaiters => { s with notifications := s.notifications + 1 }
  | _ => s

/-- Noting a call moves no waiter. -/
lemma noted_waiters (s : Waking W C) (op : Call) : (s.noted op).waiters = s.waiters := by
  cases op <;> rfl

/-- Noting a call moves no closer. -/
lemma noted_closers (s : Waking W C) (op : Call) : (s.noted op).closers = s.closers := by
  cases op <;> rfl

/-- A waiter moved on. -/
def setWaiter [DecidableEq W] (s : Waking W C) (w : W) (rest : Program WaitCall.Answer Bool) :
    Waking W C :=
  { s with waiters := Function.update s.waiters w rest }

/-- A closer moved on. -/
def setCloser [DecidableEq C] (s : Waking W C) (c : C) (rest : Async Unit) : Waking W C :=
  { s with closers := Function.update s.closers c rest }

/-- One call of one waiter or closer; a round that ended with `false` starts again. -/
inductive Step [DecidableEq W] [DecidableEq C] : Waking W C → Waking W C → Prop
  | wait {s : Waking W C} {w : W} {op : WaitCall} {r : op.Answer}
      {k : op.Answer → Program WaitCall.Answer Bool} (head : s.waiters w = .call op k)
      (answer : s.Answers ⟨op, r⟩) :
      Step s (s.setWaiter w (k r))
  | again {s : Waking W C} {w : W} (head : s.waiters w = .ret false) :
      Step s (s.setWaiter w waitForAuditFailure)
  | close {s : Waking W C} {c : C} {op : Call} {r : op.Answer} {k : op.Answer → Async Unit}
      (head : s.closers c = .call op k) :
      Step s ((s.noted op).setCloser c (k r))

/-- The states that steps lead to. -/
inductive Reach [DecidableEq W] [DecidableEq C] : Waking W C → Prop
  | start : Reach start
  | step {s t : Waking W C} (before : Reach s) (now : Step s t) : Reach t

/-! ## The invariant -/

/-- The closer has stored the flag and not notified yet. -/
def Notifies (rest : Async Unit) : Prop := ∃ k, rest = .call .notifyWaiters k

/-- Where a waiter can stand. -/
inductive WaiterAt (s : Waking W C) : Program WaitCall.Answer Bool → Prop
  | entry : WaiterAt s waitForAuditFailure
  | check {notified : Nat} (created : notified ≤ s.notifications) :
      WaiterAt s (checkThenWait notified)
  | parked {notified : Nat} {k : Unit → Program WaitCall.Answer Bool}
      (again : ∀ r, k r = .ret false) (created : notified ≤ s.notifications)
      (owed : s.auditFailed = true → notified < s.notifications ∨ ∃ c, Notifies (s.closers c)) :
      WaiterAt s (.call (.awaitNotified notified) k)
  | again : WaiterAt s (.ret false)
  | returned (failed : s.auditFailed = true) : WaiterAt s (.ret true)

/-- Every waiter stands somewhere in its round, and every closer in `close_forwarding`. -/
structure Inv (s : Waking W C) : Prop where
  waiters : ∀ w, WaiterAt s (s.waiters w)
  closers : ∀ c, ∃ done, Gateway.closeForwarding.Runs done (s.closers c)

/-- The store of the flag is followed by the notification at once. -/
lemma notifies_of_store {done : List (Event Call.Answer)} {k : Unit → Async Unit}
    (h : Gateway.closeForwarding.Runs done (.call .storeAuditFailed k)) (r : Unit) :
    Notifies (k r) := by
  cases h with
  | refl => exact ⟨_, rfl⟩
  | step h =>
      cases h with
      | step h =>
          cases h with
          | step h =>
              cases h with
              | step h => cases h

/-- The invariant of a waiter is kept when flag, notifications and closers move on. -/
lemma WaiterAt.mono {s t : Waking W C} {p : Program WaitCall.Answer Bool} (h : WaiterAt s p)
    (hflag : s.auditFailed = true → t.auditFailed = true)
    (hcount : s.notifications ≤ t.notifications)
    (howed : ∀ n ≤ s.notifications,
      (s.auditFailed = true → n < s.notifications ∨ ∃ c, Notifies (s.closers c)) →
        t.auditFailed = true → n < t.notifications ∨ ∃ c, Notifies (t.closers c)) :
    WaiterAt t p := by
  cases h with
  | entry => exact .entry
  | check created => exact .check (created.trans hcount)
  | parked again created owed =>
      exact .parked again (created.trans hcount) (howed _ created owed)
  | again => exact .again
  | returned failed => exact .returned (hflag failed)

/-- A waiter that gets an answer moves along its round. -/
lemma WaiterAt.answered {s : Waking W C} {op : WaitCall} {r : op.Answer}
    {k : op.Answer → Program WaitCall.Answer Bool} (h : WaiterAt s (.call op k))
    (hanswer : s.Answers ⟨op, r⟩) : WaiterAt s (k r) := by
  generalize hp : Program.call op k = p at h
  cases h with
  | entry =>
      cases hp
      obtain rfl := hanswer
      exact .check le_rfl
  | check created =>
      cases hp
      cases r with
      | true => exact .returned hanswer.symm
      | false =>
          -- the flag is unset, so nothing is owed yet
          exact .parked (fun _ => rfl) created fun failed =>
            absurd (hanswer.trans failed) (by decide)
  | parked again created owed =>
      cases hp
      rw [again]
      exact .again
  | again => cases hp
  | returned failed => cases hp

/-- A waiter returns at a load of the flag that finds it set. -/
lemma WaiterAt.returns {s : Waking W C} {op : WaitCall} {r : op.Answer}
    {k : op.Answer → Program WaitCall.Answer Bool} (h : WaiterAt s (.call op k))
    (hanswer : s.Answers ⟨op, r⟩) (hreturn : k r = .ret true) : s.auditFailed = true := by
  have hat := h.answered hanswer
  rw [hreturn] at hat
  cases hat with
  | returned failed => exact failed

/-- The invariant at the start. -/
lemma Inv.start : Inv (start : Waking W C) :=
  ⟨fun _ => .entry, fun _ => ⟨[], .refl _⟩⟩

/-- A closer's call keeps the invariant: the store of the flag owes every parked waiter a
notification, and the notification pays it. -/
lemma Inv.close [DecidableEq C] {s : Waking W C} (h : Inv s) {c : C} {op : Call} {r : op.Answer}
    {k : op.Answer → Async Unit} (head : s.closers c = .call op k) :
    Inv ((s.noted op).setCloser c (k r)) := by
  obtain ⟨done, hruns⟩ := h.closers c
  rw [head] at hruns
  have hclosers : ((s.noted op).setCloser c (k r)).closers = Function.update s.closers c (k r) := by
    unfold setCloser
    rw [noted_closers]
  constructor
  · intro w
    change WaiterAt _ ((s.noted op).waiters w)
    rw [noted_waiters]
    refine (h.waiters w).mono ?_ ?_ ?_
    · intro failed
      cases op with
      | storeAuditFailed => rfl
      | _ => exact failed
    · cases op with
      | notifyWaiters => exact Nat.le_succ _
      | _ => exact le_rfl
    · intro n hn howed failed
      rw [hclosers]
      by_cases hnotify : op = .notifyWaiters
      · subst hnotify
        exact .inl (Nat.lt_succ_of_le hn)
      · by_cases hstore : op = .storeAuditFailed
        · subst hstore
          refine .inr ⟨c, ?_⟩
          rw [Function.update_self]
          exact notifies_of_store hruns r
        · have hsame : s.noted op = s := by
            cases op with
            | storeAuditFailed => exact absurd rfl hstore
            | notifyWaiters => exact absurd rfl hnotify
            | _ => rfl
          rw [hsame] at failed ⊢
          rcases howed failed with hlt | ⟨c', hc'⟩
          · exact .inl hlt
          · -- the closer that owes the notification is another one
            have hne : c' ≠ c := by
              rintro rfl
              obtain ⟨k', hk'⟩ := hc'
              rw [head] at hk'
              cases hk'
              exact hnotify rfl
            refine .inr ⟨c', ?_⟩
            rw [Function.update_of_ne hne]
            exact hc'
  · intro c'
    rw [hclosers]
    by_cases hc : c' = c
    · subst hc
      refine ⟨done ++ [⟨op, r⟩], ?_⟩
      rw [Function.update_self]
      exact hruns.snoc r
    · rw [Function.update_of_ne hc]
      exact h.closers c'

/-- A waiter's step touches nothing that the others stand on. -/
lemma Inv.wait [DecidableEq W] {s : Waking W C} (h : Inv s) {w : W}
    {p : Program WaitCall.Answer Bool} (hp : WaiterAt s p) : Inv (s.setWaiter w p) := by
  constructor
  · intro w'
    have hmove : ∀ {q}, WaiterAt s q → WaiterAt (s.setWaiter w p) q :=
      fun hq => hq.mono id le_rfl fun _ _ howed => howed
    change WaiterAt _ (Function.update s.waiters w p w')
    by_cases hw : w' = w
    · subst hw
      rw [Function.update_self]
      exact hmove hp
    · rw [Function.update_of_ne hw]
      exact hmove (h.waiters w')
  · exact h.closers

section

variable [DecidableEq W] [DecidableEq C]

/-- Every step keeps the invariant. -/
lemma Inv.step {s t : Waking W C} (h : Inv s) (now : Step s t) : Inv t := by
  cases now with
  | @wait w op r k head answer =>
      have hat := h.waiters w
      rw [head] at hat
      exact h.wait (hat.answered answer)
  | again head => exact h.wait .entry
  | close head => exact h.close head

/-- The invariant holds in every interleaving. -/
lemma Reach.inv {s : Waking W C} (h : Reach s) : Inv s := by
  induction h with
  | start => exact .start
  | step _ now ih => exact ih.step now

/-- No wake-up is lost. In every reachable state in which the flag is set and no closer still has
to call `notify_waiters`, every parked waiter was notified; and a waiter returns only while the flag
is set. -/
theorem no_lost_wakeup {s : Waking W C} (h : Reach s) :
    (s.auditFailed = true → (∀ c, ¬ Notifies (s.closers c)) →
      ∀ w notified k, s.waiters w = .call (.awaitNotified notified) k →
        notified < s.notifications) ∧
    (∀ w, s.waiters w = .ret true → s.auditFailed = true) ∧
    ∀ t w, Step s t → s.waiters w ≠ .ret true → t.waiters w = .ret true →
      s.auditFailed = true ∧ t.auditFailed = true := by
  have hinv := h.inv
  have hreturned : ∀ {s : Waking W C}, Inv s → ∀ w, s.waiters w = .ret true →
      s.auditFailed = true := by
    intro s hinv w hw
    have hat := hinv.waiters w
    rw [hw] at hat
    cases hat with
    | returned failed => exact failed
  refine ⟨?_, hreturned hinv, ?_⟩
  · intro failed hnone w notified k hw
    have hat := hinv.waiters w
    generalize hp : s.waiters w = p at hat
    rw [hw] at hp
    cases hat with
    | parked again created owed =>
        cases hp
        rcases owed failed with hlt | ⟨c, hc⟩
        · exact hlt
        · exact absurd hc (hnone c)
    | entry => cases hp
    | check created => cases hp
    | again => cases hp
    | returned failed => cases hp
  · intro t w now hbefore hafter
    have hflag : t.auditFailed = true := hreturned (hinv.step now) w hafter
    refine ⟨?_, hflag⟩
    cases now with
    | wait head answer => exact hflag
    | again head => exact hflag
    | @close c op r k head =>
        change (s.noted op).waiters w = _ at hafter
        rw [noted_waiters] at hafter
        exact absurd hafter hbefore

end

/-- One waiter, parked before one closer stores the flag and notifies. -/
def parkedThenNotified : Waking Unit Unit where
  auditFailed := true
  notifications := 1
  waiters := fun _ => .call (.awaitNotified 0) fun _ => .ret false
  closers := fun _ => do
    call .writeGate
    call .releaseWriteGate

/-- The run is one of the model. -/
lemma parkedThenNotified_reach : Reach parkedThenNotified := by
  let created : Waking Unit Unit := start.setWaiter () (checkThenWait 0)
  have hcreate : (start : Waking Unit Unit).waiters () = .call .notified checkThenWait := rfl
  have hcreated : Reach created := Reach.start.step (.wait hcreate rfl)
  let parked : Waking Unit Unit := created.setWaiter () (parkedThenNotified.waiters ())
  have hload : created.waiters () = .call .loadAuditFailed _ := rfl
  have hparked : Reach parked := hcreated.step (.wait hload rfl)
  have hstore : parked.closers () = .call .storeAuditFailed _ := rfl
  let stored : Waking Unit Unit := (parked.noted .storeAuditFailed).setCloser () (do
    call .notifyWaiters
    call .writeGate
    call .releaseWriteGate)
  have hstored : Reach stored := hparked.step (.close (r := ()) hstore)
  have hnotify : stored.closers () = .call .notifyWaiters _ := rfl
  exact hstored.step (.close (r := ()) hnotify)

/-- The parked waiter of that run was notified. -/
theorem no_lost_wakeup_parked : 0 < parkedThenNotified.notifications := by
  have hdone : ∀ c, ¬ Notifies (parkedThenNotified.closers c) := by
    rintro c ⟨k, hk⟩
    cases hk
  exact (no_lost_wakeup parkedThenNotified_reach).1 rfl hdone () 0 _ rfl

end Waking

end Custode
