import Custode.Http.AuditCalls
import Custode.System.Parties

/-!
# Phases of a request's permit

`PermitPhase` is where a party is with the semaphore permit of its request. As a monitor
(`permitMonitor`) it says in which phase a permit is asked for, handed over and dropped, and that
only the calls `late` are made afterwards.

Most functions do nothing to the permit (`KeepsPermit`). The others are the ones that own it: the
rules `safe_…_permit` follow it from `proxy` through `handleRequest` into the response task. At the
end, the phases are read back into runs: `Handled`, when `handle_request` has returned, is the phase
in which the permit is gone.
-/

namespace Custode

open Found

/-! ## Phases -/

/-- Where a party is with the permit of its request. -/
inductive PermitPhase where
  /-- A handler has not asked for a permit. -/
  | entry
  /-- A handler was refused a permit. -/
  | refused
  /-- It owns the permit. -/
  | holding
  /-- A handler has given its permit to the response task. -/
  | handedOver
  /-- It has dropped the permit. -/
  | released
  /-- A response task has not started. -/
  | waiting
  deriving DecidableEq

namespace PermitPhase

/-- The phase after one more event. -/
def observe : PermitPhase → Event Call.Answer → PermitPhase
  | entry, ⟨.tryAcquireOwned, true⟩ => holding
  | entry, ⟨.tryAcquireOwned, false⟩ => refused
  | holding, ⟨.releasePermit, _⟩ => released
  | holding, ⟨.spawn _ _, _⟩ => handedOver
  | waiting, ⟨.started, _⟩ => holding
  | phase, _ => phase

/-- It owned the permit and does not own it any more. -/
def Parted : PermitPhase → Prop
  | handedOver | released => True
  | _ => False

/-- The phase in which a call is made. -/
def Ready (late : Call → Prop) (phase : PermitPhase) : Call → Prop
  | .tryAcquireOwned => phase = entry
  | .releasePermit => phase = holding
  | .spawn _ _ => phase = holding
  | .started => phase = waiting
  | op => phase ≠ waiting ∧ (phase.Parted → late op)

end PermitPhase

/-- The calls that take a permit, drop it, or give it to another party. -/
def Call.MovesPermit : Call → Prop
  | tryAcquireOwned | releasePermit | spawn _ _ | started => True
  | _ => False

/-- A report on the fatal error channel. -/
def Call.Reports : Call → Prop
  | sendFatal _ => True
  | _ => False

/-- A report moves no permit. -/
lemma Call.Reports.keeps {op : Call} (h : op.Reports) : ¬ op.MovesPermit := by
  cases op <;> first | exact h.elim | exact id

/-- An audit call moves no permit. -/
lemma Call.Audits.keeps {op : Call} (h : op.Audits) : ¬ op.MovesPermit := by
  cases op <;> first | exact h.elim | exact id

/-- The phase as a monitor. -/
def permitMonitor (late : Call → Prop) : Monitor Call.Answer PermitPhase :=
  ⟨PermitPhase.observe, PermitPhase.Ready late⟩

section Monitor

variable {late : Call → Prop} {phase : PermitPhase} {α : Type}

/-- The monitor's step is the phase's. -/
@[simp] lemma permitMonitor_observe (e : Event Call.Answer) :
    (permitMonitor late).observe phase e = phase.observe e := rfl

/-- The monitor's condition is the phase's. -/
@[simp] lemma permitMonitor_ready (op : Call) :
    (permitMonitor late).Ready phase op = phase.Ready late op := rfl

/-- A call that moves no permit keeps the phase. -/
lemma PermitPhase.observe_keeps {op : Call} (h : ¬ op.MovesPermit) (r : op.Answer) :
    phase.observe ⟨op, r⟩ = phase := by
  cases op <;> first | exact (h trivial).elim | (cases phase <;> rfl)

/-- Any other call needs a party that has started, and must be a late one when it has parted. -/
lemma PermitPhase.ready_keeps {op : Call} (h : ¬ op.MovesPermit) :
    phase.Ready late op ↔ phase ≠ .waiting ∧ (phase.Parted → late op) := by
  cases op <;> first | exact (h trivial).elim | exact Iff.rfl

/-- Calls that do nothing to the permit leave the phase as it is. -/
lemma safe_permit_of_makes {C : Call → Prop} {p : Async α} (h : p.Makes C)
    (hkeeps : ∀ op, C op → ¬ op.MovesPermit) (hphase : phase ≠ .waiting)
    (hlate : phase.Parted → ∀ op, C op → late op) :
    (permitMonitor late).Safe p (fun _ phase' => phase' = phase) phase :=
  Monitor.safe_of_makes h
    (fun op hop => (PermitPhase.ready_keeps (hkeeps op hop)).mpr
      ⟨hphase, fun hparted => hlate hparted op hop⟩)
    (fun op r hop => PermitPhase.observe_keeps (hkeeps op hop) r)

end Monitor

/-! ## Functions that do nothing to the permit -/

/-- The function does nothing to the permit. -/
def KeepsPermit {α : Type} (p : Async α) : Prop := p.Makes fun op => ¬ op.MovesPermit

section Keeps

variable {X : Crates} {config : GatewayConfig} {α β : Type}

/-- It leaves the phase as it is while the permit is not gone. -/
lemma safe_permit_of_keeps {late : Call → Prop} {phase : PermitPhase} {p : Async α}
    (h : KeepsPermit p) (hphase : phase ≠ .waiting) (hparted : ¬ phase.Parted) :
    (permitMonitor late).Safe p (fun _ phase' => phase' = phase) phase :=
  safe_permit_of_makes h (fun _ => id) hphase fun hgone => absurd hgone hparted

/-- A sequence of such parts moves no permit. -/
lemma KeepsPermit.bind {p : Async α} {f : α → Async β} (h : KeepsPermit p)
    (hf : ∀ a, KeepsPermit (f a)) : KeepsPermit (p >>= f) :=
  Program.Makes.bind h hf

/-- One such call. -/
lemma keepsPermit_call {op : Call} (h : ¬ op.MovesPermit) : KeepsPermit (call op) :=
  Program.makes_perform.mpr h

/-- Returning moves no permit. -/
lemma keepsPermit_return (a : α) : KeepsPermit (.ret a) := trivial

/-- Expecting a value moves no permit. -/
lemma keepsPermit_expect (value : Option α) : KeepsPermit (expect value) := makes_expect id value

/-- Auditing does nothing to the permit. -/
lemma keepsPermit_of_audits {p : Async α} (h : p.Makes Call.Audits) : KeepsPermit p :=
  h.mono fun _ hop => hop.keeps

/-- The check at entry moves no permit. -/
lemma keepsPermit_requireAuditAvailable : KeepsPermit Gateway.requireAuditAvailable := by
  refine .bind (keepsPermit_call id) ?_
  rintro (_ | _)
  · trivial
  · trivial

/-- Beginning to forward moves no permit. -/
lemma keepsPermit_beginForwarding : KeepsPermit Gateway.beginForwarding := by
  refine .bind (keepsPermit_call id) fun _ => .bind keepsPermit_requireAuditAvailable ?_
  rintro (error | _)
  · exact .bind (keepsPermit_call id) fun _ => keepsPermit_return _
  · trivial

/-- Allocating a request identity moves no permit. -/
lemma keepsPermit_allocateRequestId : KeepsPermit allocateRequestId := by
  refine .bind (keepsPermit_call id) ?_
  rintro (error | requestId)
  · exact .bind (makes_reportFatalError id) fun _ => keepsPermit_return _
  · trivial

/-- Denying a request moves no permit. -/
lemma keepsPermit_auditDenialStatus (requestId : RequestId) (denial : AuditDenial)
    (requestBody : Option AccountedBody) :
    KeepsPermit (auditDenialStatus X config requestId denial requestBody) := by
  refine .bind (keepsPermit_of_audits (makes_auditDenial _ _ _)) ?_
  rintro (error | _)
  · trivial
  · trivial

/-- Answering with an audited status moves no permit. -/
lemma keepsPermit_auditResponseStatus (input : ResponseAuditInput) (status : StatusCode) :
    KeepsPermit (auditResponseStatus X input status) := by
  refine .bind (keepsPermit_of_audits (makes_auditResponse _)) ?_
  rintro (error | _)
  · trivial
  · trivial

/-- The decision on the target moves no permit. -/
lemma keepsPermit_acceptAllowedTarget (requestId : RequestId) (method : Method) (uri : Uri) :
    KeepsPermit (acceptAllowedTarget X config requestId method uri) := by
  refine .bind (keepsPermit_expect _) ?_
  rintro (denial | target)
  · refine .bind (keepsPermit_auditDenialStatus _ _ _) ?_
    rintro (error | response)
    · trivial
    · trivial
  · trivial

/-- A request failure makes reports only. -/
lemma makes_reportRequestFailure (error : GatewayError) :
    (reportRequestFailure error).Makes Call.Reports := by
  rw [reportRequestFailure]
  split
  · exact .bind (Program.makes_perform.mpr trivial) fun _ => trivial
  · trivial

end Keeps

/-! ## Handlers -/

section Handler

variable {X : Crates} {config : GatewayConfig} {late : Call → Prop}

/-- A function that owns the permit does something else first. -/
lemma safe_bind_holding {α β : Type} {p : Async α} {f : α → Async β} {Q : β → PermitPhase → Prop}
    (h : KeepsPermit p) (hf : ∀ a, (permitMonitor late).Safe (f a) Q .holding) :
    (permitMonitor late).Safe (p >>= f) Q .holding := by
  rw [Monitor.safe_bind]
  apply (safe_permit_of_keeps h (by decide) id).mono
  rintro a _ rfl
  exact hf a

/-- The permit is dropped at the end. -/
lemma safe_droppingPermit_permit {result : Async (Except GatewayError Response)}
    (h : KeepsPermit result) :
    (permitMonitor late).Safe (droppingPermit result) (fun _ phase => phase.Parted) .holding := by
  rw [droppingPermit]
  refine safe_bind_holding h fun result => ?_
  rw [Monitor.safe_bind, Monitor.safe_perform]
  exact ⟨rfl, fun _ => trivial⟩

/-- The permit goes to the response task, or is dropped after the audit of the failure. -/
lemma safe_forwardResponse_permit (input : ForwardRequestInput) (response : UpstreamResponse) :
    (permitMonitor late).Safe (forwardResponse X config input response)
      (fun _ phase => phase.Parted) .holding := by
  rw [forwardResponse]
  apply safe_bind_holding (keepsPermit_expect _)
  rintro (error | responseHeaders)
  · exact safe_droppingPermit_permit (keepsPermit_auditResponseStatus _ _)
  · rw [Monitor.safe_bind, Monitor.safe_perform]
    refine ⟨rfl, ?_⟩
    intro _
    split
    · trivial
    · trivial

/-- Forwarding the request parts with the permit. -/
lemma safe_forwardRequest_permit (input : ForwardRequestInput) :
    (permitMonitor late).Safe (forwardRequest X config input) (fun _ phase => phase.Parted)
      .holding := by
  rw [forwardRequest]
  apply safe_bind_holding keepsPermit_beginForwarding
  rintro (error | _)
  · exact safe_droppingPermit_permit (keepsPermit_return _)
  · refine safe_bind_holding (keepsPermit_call id) fun _ => ?_
    refine safe_bind_holding (keepsPermit_call id) fun result => ?_
    refine safe_bind_holding (keepsPermit_call id) fun _ => ?_
    rcases result with error | response
    · exact safe_droppingPermit_permit (keepsPermit_auditResponseStatus _ _)
    · exact safe_forwardResponse_permit input response

/-- Handling an allowed target parts with the permit. -/
lemma safe_handleAllowedTarget_permit (requestId : RequestId) (request : HttpRequest)
    (target : AllowedTarget) :
    (permitMonitor late).Safe (handleAllowedTarget X config requestId request target)
      (fun _ phase => phase.Parted) .holding := by
  rw [handleAllowedTarget]
  apply safe_bind_holding (keepsPermit_expect _)
  rintro (error | headers)
  · exact safe_droppingPermit_permit (keepsPermit_auditDenialStatus _ _ _)
  · apply safe_bind_holding (keepsPermit_call id)
    rintro (_ | (error | body))
    · exact safe_droppingPermit_permit (keepsPermit_auditDenialStatus _ _ _)
    · exact safe_droppingPermit_permit (keepsPermit_auditDenialStatus _ _ _)
    · exact safe_forwardRequest_permit _

/-- **The permit of an admitted request** is dropped or handed over by `handleRequest`, once, after
everything else that `handleRequest` does. -/
theorem safe_handleRequest_permit (request : HttpRequest) :
    (permitMonitor late).Safe (handleRequest X config request) (fun _ phase => phase.Parted)
      .holding := by
  rw [handleRequest]
  apply safe_bind_holding keepsPermit_allocateRequestId
  rintro (error | requestId)
  · exact safe_droppingPermit_permit (keepsPermit_return _)
  · apply safe_bind_holding (keepsPermit_acceptAllowedTarget _ _ _)
    rintro (error | (response | target))
    · exact safe_droppingPermit_permit (keepsPermit_return _)
    · exact safe_droppingPermit_permit (keepsPermit_return _)
    · exact safe_handleAllowedTarget_permit requestId request target

/-- Refusing a request moves no permit. -/
lemma keepsPermit_rejectTooManyRequests (request : HttpRequest) :
    KeepsPermit (rejectTooManyRequests X config request) := by
  refine .bind keepsPermit_allocateRequestId ?_
  rintro (error | requestId)
  · trivial
  · refine .bind (keepsPermit_expect _) fun target =>
      .bind (keepsPermit_of_audits (makes_auditDenial _ _ _)) ?_
    rintro (error | _)
    · refine .bind ?_ fun _ => keepsPermit_return _
      exact (makes_reportRequestFailure error).mono fun _ hop => hop.keeps
    · trivial

/-- **A handler** asks for a permit once, and only reports a failure after the permit is gone. -/
theorem safe_proxy_permit (X : Crates) (config : GatewayConfig) (request : HttpRequest) :
    (permitMonitor Call.Reports).Safe (proxy X config request) (fun _ _ => True) .entry := by
  simp only [proxy, Gateway.requireAuditAvailable, Monitor.safe_bind, Monitor.safe_perform]
  refine ⟨⟨by decide, False.elim⟩, ?_⟩
  rintro (_ | _)
  · show (permitMonitor _).Safe (call .tryAcquireOwned >>= _) _ .entry
    rw [Monitor.safe_bind, Monitor.safe_perform]
    refine ⟨rfl, ?_⟩
    rintro (_ | _)
    · exact (safe_permit_of_keeps (keepsPermit_rejectTooManyRequests request) (by decide)
        id).mono fun _ _ _ => trivial
    · show (permitMonitor _).Safe (handleRequest X config request >>= _) _ .holding
      rw [Monitor.safe_bind]
      apply (safe_handleRequest_permit request).mono
      rintro (error | response) phase hparted
      · refine (safe_permit_of_makes (makes_reportRequestFailure error) (fun _ hop => hop.keeps) ?_
          fun _ _ hop => hop).mono fun _ _ _ => trivial
        rintro rfl
        exact hparted
      · trivial
  · show (permitMonitor _).Safe (reportFatalError _ >>= _) _ .entry
    rw [Monitor.safe_bind]
    exact (safe_permit_of_makes (makes_reportFatalError trivial) (fun _ hop => hop.keeps)
      (by decide) fun _ _ hop => hop).mono fun _ _ _ => trivial

end Handler

/-! ## Response tasks -/

section Task

variable {X : Crates} {late : Call → Prop}

/-- Sending the pending chunk moves no permit. -/
lemma keepsPermit_sendPending (account : ResponseAccount) (pending : Option Bytes)
    (closed : ResponseStreamAbort) {next : Async StreamResult} (hnext : KeepsPermit next) :
    KeepsPermit (sendPending account pending closed next) := by
  rcases pending with _ | chunk
  · exact hnext
  · refine .bind (keepsPermit_call id) ?_
    rintro (interrupt | _ | _)
    · trivial
    · trivial
    · exact hnext

/-- The streaming loop keeps the permit, by induction on the items. -/
lemma keepsPermit_streamUpstreamResponse (items : List UpstreamItem) (account : ResponseAccount)
    (pending : Option Bytes) : KeepsPermit (streamUpstreamResponse X account pending items) := by
  induction items generalizing account pending with
  | nil =>
      refine .bind (keepsPermit_call id) ?_
      rintro (interrupt | _)
      · trivial
      · rcases pending with _ | finalChunk
        · trivial
        · refine .bind (keepsPermit_call id) ?_
          rintro (interrupt | _ | _)
          · trivial
          · trivial
          · trivial
  | cons item items ih =>
      refine .bind (keepsPermit_call id) ?_
      rintro (interrupt | _)
      · trivial
      · rcases item with kind | chunk
        · exact keepsPermit_sendPending account pending _ (keepsPermit_return _)
        · apply keepsPermit_sendPending account pending _
          refine .bind (keepsPermit_expect _) ?_
          rintro (responseBody | account)
          · trivial
          · exact ih account (some chunk)

/-- Sending the terminal error moves no permit. -/
lemma keepsPermit_sendTerminalStreamError : KeepsPermit sendTerminalStreamError :=
  .bind (keepsPermit_call id) fun _ => keepsPermit_return _

/-- The end of an aborted stream moves no permit. -/
lemma keepsPermit_handleResponseStreamAbort (context : ResponseAuditContext)
    (abort : ResponseStreamAbort) :
    KeepsPermit (handleResponseStreamAbort X context abort) := by
  refine .bind (keepsPermit_of_audits (makes_auditAfterResponseStarted _ _)) fun _ => ?_
  split
  · exact .bind (keepsPermit_call id) fun _ => keepsPermit_return _
  · trivial

/-- The conclusion of a stream moves no permit. -/
lemma keepsPermit_concludeStream (context : ResponseAuditContext)
    (result : Except Interrupt ResponseStreamCompletion) :
    KeepsPermit (concludeStream X context result) := by
  rcases result with (_ | _) | (abort | _ | finalChunk)
  · exact keepsPermit_sendTerminalStreamError
  · exact keepsPermit_handleResponseStreamAbort context _
  · exact keepsPermit_handleResponseStreamAbort context abort
  · refine .bind (keepsPermit_of_audits (makes_auditAfterResponseStarted _ _)) ?_
    rintro ⟨_ | _, _⟩
    · exact keepsPermit_sendTerminalStreamError
    · trivial
  · refine .bind (keepsPermit_of_audits (makes_auditAfterResponseStarted _ _)) ?_
    rintro ⟨_ | _, _⟩
    · exact .bind (keepsPermit_call id) fun _ => keepsPermit_sendTerminalStreamError
    · exact keepsPermit_call id

/-- **A response task** drops the permit after everything else. -/
theorem safe_task_permit (X : Crates) :
    (permitMonitor late).Safe (do
      let (context, response) ← call .started
      responseTask X context response) (fun _ phase => phase = .released) .waiting := by
  rw [Monitor.safe_bind, Monitor.safe_perform]
  refine ⟨rfl, ?_⟩
  rintro ⟨context, response⟩
  apply safe_bind_holding (keepsPermit_streamUpstreamResponse _ _ _)
  rintro ⟨account, result⟩
  refine safe_bind_holding (keepsPermit_concludeStream _ _) fun _ => ?_
  rw [Monitor.safe_perform]
  exact ⟨rfl, fun _ => rfl⟩

end Task

/-! ## Runs -/

section Phases

variable {late : Call → Prop} {X : Crates} {config : GatewayConfig} {request : HttpRequest}
  {tr : List (Event Call.Answer)} {q : Async Response}

/-- A party that has parted with its permit does not get it back. -/
lemma PermitPhase.Parted.observe {phase : PermitPhase} (h : phase.Parted)
    (e : Event Call.Answer) : phase.observe e = phase := by
  obtain ⟨op, r⟩ := e
  cases phase <;> first | exact h.elim | (cases op <;> rfl)

/-- So it is after every run. -/
lemma PermitPhase.Parted.after {phase : PermitPhase} (h : phase.Parted)
    (tr : List (Event Call.Answer)) : (permitMonitor late).after phase tr = phase := by
  induction tr with
  | nil => rfl
  | cons e tr ih => rw [Monitor.after_cons, permitMonitor_observe, h.observe, ih]

/-- Nothing is left to do for a function that owned the permit, when no late calls are allowed. -/
lemma PermitPhase.Parted.not_ready {phase : PermitPhase} (h : phase.Parted) {op : Call} :
    ¬ phase.Ready (fun _ => False) op := by
  intro hready
  by_cases hmoves : op.MovesPermit
  · cases op <;> first | exact hmoves.elim | (rw [show phase = _ from hready] at h; exact h)
  · exact ((PermitPhase.ready_keeps hmoves).mp hready).2 h

/-- Among those that are or were owners, only the owner can do more than report. -/
lemma PermitPhase.holding_of_ready {phase : PermitPhase} {op : Call}
    (hready : phase.Ready Call.Reports op)
    (hphase : phase = .waiting ∨ phase = .holding ∨ phase.Parted) (hreports : ¬ op.Reports)
    (hstarted : op ≠ .started) : phase = .holding := by
  by_cases hmoves : op.MovesPermit
  · cases op with
    | tryAcquireOwned =>
        rw [show phase = .entry from hready] at hphase
        rcases hphase with hphase | hphase | hphase
        · cases hphase
        · cases hphase
        · exact hphase.elim
    | releasePermit => exact hready
    | spawn context response => exact hready
    | started => exact (hstarted rfl).elim
    | _ => exact hmoves.elim
  · obtain ⟨hwaiting, hparted⟩ := (PermitPhase.ready_keeps hmoves).mp hready
    exact (hphase.resolve_left hwaiting).resolve_right fun hgone => hreports (hparted hgone)

/-- A refused request stays refused. -/
lemma after_refused (tr : List (Event Call.Answer)) :
    (permitMonitor late).after .refused tr = .refused := by
  induction tr with
  | nil => rfl
  | cons e tr ih =>
      obtain ⟨op, r⟩ := e
      rw [Monitor.after_cons, permitMonitor_observe,
        show PermitPhase.refused.observe ⟨op, r⟩ = .refused by cases op <;> rfl, ih]

/-- After a party owned the permit, it owns it or has parted with it. -/
lemma after_holding (tr : List (Event Call.Answer)) :
    (permitMonitor late).after .holding tr = .holding ∨
      ((permitMonitor late).after .holding tr).Parted := by
  induction tr with
  | nil => exact .inl rfl
  | cons e tr ih =>
      obtain ⟨op, r⟩ := e
      rw [Monitor.after_cons, permitMonitor_observe]
      have hstep : PermitPhase.holding.observe ⟨op, r⟩ = .holding ∨
          (PermitPhase.holding.observe ⟨op, r⟩).Parted := by
        cases op <;> first | exact .inl rfl | exact .inr trivial
      rcases hstep with hphase | hparted
      · rw [hphase]
        exact ih
      · rw [hparted.after]
        exact .inr hparted

/-- A response task waits to be started, or has owned the permit. -/
lemma after_waiting (tr : List (Event Call.Answer)) :
    (permitMonitor late).after .waiting tr = .waiting ∨
      (permitMonitor late).after .waiting tr = .holding ∨
        ((permitMonitor late).after .waiting tr).Parted := by
  induction tr with
  | nil => exact .inl rfl
  | cons e tr ih =>
      obtain ⟨op, r⟩ := e
      rw [Monitor.after_cons, permitMonitor_observe]
      have hstep : PermitPhase.waiting.observe ⟨op, r⟩ = .waiting ∨
          PermitPhase.waiting.observe ⟨op, r⟩ = .holding := by
        cases op <;> first | exact .inl rfl | exact .inr rfl
      rcases hstep with hphase | hphase
      · rw [hphase]
        exact ih
      · rw [hphase]
        exact .inr (after_holding tr)

/-- A handler that was not given a permit is at the entry, or was refused one. -/
lemma after_entry (tr : List (Event Call.Answer)) (hnone : ⟨.tryAcquireOwned, true⟩ ∉ tr) :
    (permitMonitor late).after .entry tr = .entry ∨
      (permitMonitor late).after .entry tr = .refused := by
  induction tr with
  | nil => exact .inl rfl
  | cons e tr ih =>
      obtain ⟨op, r⟩ := e
      rw [List.mem_cons, not_or] at hnone
      rw [Monitor.after_cons, permitMonitor_observe]
      have hstep : PermitPhase.entry.observe ⟨op, r⟩ = .entry ∨
          PermitPhase.entry.observe ⟨op, r⟩ = .refused := by
        cases op with
        | tryAcquireOwned =>
            cases r with
            | true => exact (hnone.1 rfl).elim
            | false => exact .inr rfl
        | _ => exact .inl rfl
      rcases hstep with hphase | hphase
      · rw [hphase]
        exact ih hnone.2
      · rw [hphase]
        exact .inr (after_refused tr)

/-- A handler asks for a permit at its entry. -/
lemma after_asked (hruns : (proxy X config request).Runs tr q) {r : Bool}
    (hasked : ⟨.tryAcquireOwned, r⟩ ∈ tr) :
    ∃ post, (permitMonitor Call.Reports).after .entry tr =
      (permitMonitor Call.Reports).after
        (PermitPhase.entry.observe ⟨.tryAcquireOwned, r⟩) post := by
  obtain ⟨pre, post, rfl⟩ := List.append_of_mem hasked
  obtain ⟨k, hpre, -⟩ := hruns.split
  have hphase : (permitMonitor Call.Reports).after .entry pre = .entry :=
    (safe_proxy_permit X config request).ready hpre
  refine ⟨post, ?_⟩
  rw [Monitor.after_append, hphase, Monitor.after_cons]
  rfl

/-- The first two calls of a handler that asks for a permit. -/
def asked (r : Bool) : List (Event Call.Answer) :=
  [⟨.loadAuditFailed, false⟩, ⟨.tryAcquireOwned, r⟩]

/-- A handler asks for no permit, or goes on in one of two functions. -/
lemma runs_proxy (hruns : (proxy X config request).Runs tr q) :
    (∀ r, ⟨.tryAcquireOwned, r⟩ ∉ tr) ∨
      (∃ mid f, tr = asked true ++ mid ∧ (handleRequest X config request >>= f).Runs mid q) ∨
        ∃ mid, tr = asked false ++ mid ∧ (rejectTooManyRequests X config request).Runs mid q := by
  rcases Program.Runs.of_call hruns with ⟨rfl, -⟩ | ⟨failed, tr, rfl, hloaded⟩
  · exact .inl fun r => List.not_mem_nil
  cases failed with
  | true =>
      -- the audit has failed before: only the report is left
      rcases Program.Runs.of_call hloaded with ⟨rfl, -⟩ | ⟨_, tr, rfl, hreported⟩
      · exact .inl (by simp)
      · obtain ⟨rfl, -⟩ := Program.Runs.of_ret hreported
        exact .inl (by simp)
  | false =>
      rcases Program.Runs.of_call hloaded with ⟨rfl, -⟩ | ⟨acquired, tr, rfl, hasked⟩
      · exact .inl (by simp)
      · cases acquired with
        | true => exact .inr (.inl ⟨tr, _, rfl, hasked⟩)
        | false => exact .inr (.inr ⟨tr, rfl, hasked⟩)

/-- After `asked`, the phase is that of the answer. -/
lemma after_asked_append (r : Bool) (mid : List (Event Call.Answer)) :
    (permitMonitor late).after .entry (asked r ++ mid) =
      (permitMonitor late).after (PermitPhase.entry.observe ⟨.tryAcquireOwned, r⟩) mid := rfl

variable (X config request) in
/-- `handle_request` has returned. -/
def Handled (tr : List (Event Call.Answer)) : Prop :=
  ∃ mid rest result, tr = asked true ++ (mid ++ rest) ∧
    (handleRequest X config request).Runs mid (.ret result)

/-- When `handle_request` has returned, the permit is gone. -/
lemma Handled.parted (h : Handled X config request tr) :
    ((permitMonitor late).after .entry tr).Parted := by
  obtain ⟨mid, rest, result, rfl, hreturned⟩ := h
  have hparted : ((permitMonitor late).after .holding mid).Parted :=
    (safe_handleRequest_permit request).returned hreturned
  show ((permitMonitor late).after .holding (mid ++ rest)).Parted
  rw [Monitor.after_append, hparted.after]
  exact hparted

/-- When the permit is gone, `handle_request` has returned. -/
lemma handled_of_parted (hruns : (proxy X config request).Runs tr q)
    (hparted : ((permitMonitor late).after .entry tr).Parted) : Handled X config request tr := by
  rcases runs_proxy hruns with hnone | ⟨mid, f, rfl, hhandling⟩ | ⟨mid, rfl, -⟩
  · rcases after_entry tr (hnone true) with hphase | hphase
    · rw [hphase] at hparted
      exact hparted.elim
    · rw [hphase] at hparted
      exact hparted.elim
  · rcases hhandling.of_bind with ⟨p, hp, -⟩ | ⟨result, mid, rest, rfl, hreturned, -⟩
    · have hsafe : (permitMonitor fun _ => False).Safe p (fun _ phase => phase.Parted)
          ((permitMonitor late).after .holding mid) :=
        (safe_handleRequest_permit request).runs hp
      cases p with
      | ret result => exact ⟨mid, [], result, by rw [List.append_nil], hp⟩
      | call op k => exact (hparted.not_ready hsafe.1).elim
    · exact ⟨mid, rest, result, rfl, hreturned⟩
  · rw [after_asked_append, show PermitPhase.entry.observe ⟨.tryAcquireOwned, false⟩ = .refused
      from rfl, after_refused] at hparted
    exact hparted.elim

end Phases

end Custode
