import Custode.System.PermitPhases

/-!
# Requests that are refused

A request for which there is no permit is denied by `rejectTooManyRequests`. What it may call
depends on what it has done (`RefusedReady`), so the monitor here remembers the events. `RefusedInv`
is what holds in the middle of such a run; `safe_rejectTooManyRequests_refused` says how it ends.
-/

namespace Custode

open Found

section Refused

/-- The request has no identity. -/
def Unidentified (tr : List (Event Call.Answer)) : Prop :=
  ∃ error, ⟨.nextRequestId, .error error⟩ ∈ tr

variable (X : Crates) (config : GatewayConfig) (request : HttpRequest)

/-- The event of the denial of a request without a permit. -/
def DeniesTooManyRequests (event : AuditEvent) : Prop :=
  ∃ requestId target timestamp, PreparsedAuditTarget.fromRequestUri request.uri = some target ∧
    AuditEvent.forDenial X (.tooManyRequests request.method target) requestId none
      config.upstreamOrigin timestamp = some event

/-- What the handler of a refused request calls, after the events `tr`. -/
def RefusedReady (tr : List (Event Call.Answer)) : Call → Prop
  | .nextRequestId => audited tr = []
  | .appendEvent event =>
      DeniesTooManyRequests X config request event ∧ audited tr = [] ∧ ¬ Unidentified tr
  | .storeAuditFailed | .notifyWaiters | .writeGate | .releaseWriteGate => audited tr ≠ []
  | .now | .sendFatal _ => True
  | _ => False

/-- The events of a refused request, as a monitor. -/
abbrev refusedMonitor : Monitor Call.Answer (List (Event Call.Answer)) :=
  .recorder (RefusedReady X config request)

/-- What a refused request has done: one append at most, none without an identity, no send. -/
structure RefusedInv (tr : List (Event Call.Answer)) : Prop where
  once : audited tr = [] ∨ ∃ event, DeniesTooManyRequests X config request event ∧
    audited tr = [event]
  unidentified : Unidentified tr → audited tr = []
  unsent : ∀ upstreamRequest, ⟨.startSend upstreamRequest, ()⟩ ∉ tr

variable {X config request} {tr : List (Event Call.Answer)}

/-- At the start no allocation has failed. -/
@[simp] lemma unidentified_nil : ¬ Unidentified [] := nofun

/-- An allocation has failed at the head or behind it. -/
@[simp] lemma unidentified_cons (e : Event Call.Answer) :
    Unidentified (e :: tr) ↔ (∃ error, ⟨.nextRequestId, .error error⟩ = e) ∨ Unidentified tr := by
  simp [Unidentified, exists_or]

/-- An allocation has failed in one of two lists. -/
@[simp] lemma unidentified_append (tr' : List (Event Call.Answer)) :
    Unidentified (tr ++ tr') ↔ Unidentified tr ∨ Unidentified tr' := by
  simp [Unidentified, exists_or]

/-- The monitor remembers every event. -/
@[simp] lemma refusedMonitor_observe (e : Event Call.Answer) :
    (refusedMonitor X config request).observe tr e = tr ++ [e] := rfl

/-- The monitor's condition is that of a refused request. -/
@[simp] lemma refusedMonitor_ready (op : Call) :
    (refusedMonitor X config request).Ready tr op ↔ RefusedReady X config request tr op := Iff.rfl

/-- One call of a refused request keeps the invariant. -/
lemma RefusedInv.step (h : RefusedInv X config request tr) {op : Call} (r : op.Answer)
    (hready : RefusedReady X config request tr op) :
    RefusedInv X config request (tr ++ [⟨op, r⟩]) := by
  refine ⟨?_, ?_, ?_⟩
  · rw [audited_append]
    cases op with
    | appendEvent event =>
        obtain ⟨hdenies, hnone, -⟩ := hready
        exact .inr ⟨event, hdenies, by simp [hnone, Call.audited]⟩
    | _ => simpa [Call.audited] using h.once
  · rw [audited_append, unidentified_append]
    rintro (hunidentified | ⟨error, hlast⟩)
    · cases op with
      | appendEvent event => exact (hready.2.2 hunidentified).elim
      | _ => simpa [Call.audited] using h.unidentified hunidentified
    · cases List.mem_singleton.mp hlast
      simpa [Call.audited] using (show audited tr = [] from hready)
  · intro upstreamRequest hmem
    rw [List.mem_append, List.mem_singleton] at hmem
    rcases hmem with hmem | hlast
    · exact h.unsent upstreamRequest hmem
    · cases hlast
      exact hready

/-- The gate is closed after the append. -/
lemma safe_closeForwarding_refused (haudited : audited tr ≠ []) :
    (refusedMonitor X config request).Safe Gateway.closeForwarding (fun _ tr' => audited tr' ≠ [])
      tr := by
  simp only [Gateway.closeForwarding, Monitor.safe_bind, Monitor.safe_perform,
    refusedMonitor_observe, refusedMonitor_ready, RefusedReady]
  simp [haudited]

/-- With the call that a refused request waits for, it still attempts one append at most. -/
lemma RefusedInv.attempts (h : RefusedInv X config request tr) {op : Call}
    (hready : RefusedReady X config request tr op) :
    audited tr ++ op.audited.toList = [] ∨
      ∃ event, DeniesTooManyRequests X config request event ∧
        audited tr ++ op.audited.toList = [event] := by
  cases op with
  | appendEvent event =>
      obtain ⟨hdenies, hnone, -⟩ := hready
      exact .inr ⟨event, hdenies, by rw [hnone]; rfl⟩
  | _ => simpa [Call.audited] using h.once

/-- A refused request can be dropped only when its append has begun. -/
lemma RefusedInv.attempted_of_cancellable {ι : Type} {i : ι}
    (h : RefusedInv X config request tr) {op : Call} (hready : RefusedReady X config request tr op)
    (hcancellable : Cancellable (Party.handler i) op) :
    audited tr ++ op.audited.toList = [] ↔ Unidentified tr := by
  cases op with
  | writeGate =>
      have haudited : audited tr ≠ [] := hready
      refine iff_of_false ?_ fun hunidentified => haudited (h.unidentified hunidentified)
      simpa [Call.audited] using haudited
  | appendEvent event =>
      obtain ⟨-, -, hidentified⟩ := hready
      exact iff_of_false (by simp [Call.audited]) hidentified
  | readGate => exact hready.elim
  | readRequest limit => exact hready.elim
  | awaitSend => exact hready.elim
  | panic => exact hready.elim
  | _ => exact hcancellable.elim

/-- The denial of a refused request: one append, which marks the audit as failed when it fails. -/
lemma safe_auditDenial_refused {requestId : RequestId} {target : PreparsedAuditTarget}
    (htarget : PreparsedAuditTarget.fromRequestUri request.uri = some target)
    (hnone : audited tr = []) (hidentified : ¬ Unidentified tr) :
    (refusedMonitor X config request).Safe
      (Gateway.auditDenial X config requestId (.tooManyRequests request.method target) none)
      (fun _ tr' => audited tr' ≠ []) tr := by
  rw [Gateway.auditDenial, Monitor.safe_bind, Monitor.safe_perform]
  refine ⟨trivial, ?_⟩
  intro timestamp
  obtain ⟨event, hevent⟩ := Option.ne_none_iff_exists'.mp
    (AuditEvent.forDenial_ne_none X (.tooManyRequests request.method target) requestId none
      config.upstreamOrigin timestamp)
  rw [hevent, expect, Monitor.safe_bind, Monitor.safe_ret, Gateway.appendRequiredAuditEvent,
    Monitor.safe_bind, Monitor.safe_perform]
  refine ⟨⟨⟨requestId, target, timestamp, htarget, hevent⟩, ?_, ?_⟩, ?_⟩
  · simp [hnone, Call.audited]
  · simp [hidentified]
  · rintro (error | _)
    · rw [Monitor.safe_bind]
      exact safe_closeForwarding_refused (by simp [Call.audited])
    · simp [Call.audited]

/-- **A refused request** is denied by one append, or has no identity. -/
lemma safe_rejectTooManyRequests_refused (hnone : audited tr = [])
    (hidentified : ¬ Unidentified tr) :
    (refusedMonitor X config request).Safe (rejectTooManyRequests X config request)
      (fun _ tr' => audited tr' ≠ [] ∨ Unidentified tr') tr := by
  rw [rejectTooManyRequests, Monitor.safe_bind, allocateRequestId, Monitor.safe_bind,
    Monitor.safe_perform]
  refine ⟨hnone, ?_⟩
  rintro (error | requestId)
  · simp only [reportFatalError, Monitor.safe_bind, Monitor.safe_perform]
    exact ⟨trivial, fun _ => .inr ⟨error, by simp⟩⟩
  · obtain ⟨target, htarget⟩ := Option.ne_none_iff_exists'.mp
      (PreparsedAuditTarget.fromRequestUri_ne_none request.uri)
    simp only [Monitor.safe_pure, htarget, expect, Monitor.safe_bind, Monitor.safe_ret]
    refine (safe_auditDenial_refused htarget (by simpa [Call.audited] using hnone)
      (by simpa using hidentified)).mono ?_
    rintro (error | _) tr' haudited
    · rw [Monitor.safe_bind, reportRequestFailure]
      split
      · rw [Monitor.safe_bind, reportFatalError, Monitor.safe_perform]
        exact ⟨trivial, fun _ => .inl (by simp [haudited])⟩
      · exact .inl haudited
    · exact .inl haudited

end Refused

end Custode
