import Custode.Ports

/-!
# The gateway

The asynchronous methods of `gateway.rs`: auditing, with permanent failure of the gateway after an
append that failed, and the forwarding gate.
-/

namespace Custode

open Found

/-- Audit outcome after the upstream request path has been selected.
Source: `gateway.rs` `ResponseAuditOutcome`, `ResponseAuditOutcomeKind` -/
inductive ResponseAuditOutcome where
  | allowed (responseBody : ObservedBodySummary) (status : StatusCode)
  | downstreamClosed (responseBody : ObservedBodySummary) (status : StatusCode)
  | responseBodyTooLarge (responseBody : OversizedResponseBody) (status : StatusCode)
  | responseHeaderError (error : AuditResponseHeaderError)
  | responseStreamTimeout (responseBody : ObservedBodySummary) (status : StatusCode)
  | upstreamError (error : AuditUpstreamError)
  | upstreamResponseStreamFailed (responseBody : ObservedBodySummary) (status : StatusCode)
  | upstreamResponseTimeout (responseBody : ObservedBodySummary) (status : StatusCode)
  deriving DecidableEq

/-- The event input of an outcome.
Source: `gateway.rs` `Gateway::audit_response` -/
def ResponseAuditOutcome.eventInput (observed : ObservedAuditRequestInput) :
    ResponseAuditOutcome → AuditEventInput
  | allowed responseBody status => .allowed observed responseBody status
  | downstreamClosed responseBody status =>
      .responseError observed (.downstreamClosed responseBody status)
  | responseBodyTooLarge responseBody status =>
      .responseError observed (.responseBodyTooLarge responseBody status)
  | responseHeaderError error => .responseError observed (.responseHeader error)
  | responseStreamTimeout responseBody status =>
      .responseError observed (.responseStreamTimeout responseBody status)
  | upstreamError error => .upstreamError observed error
  | upstreamResponseStreamFailed responseBody status =>
      .responseError observed (.upstreamResponseStreamFailed responseBody status)
  | upstreamResponseTimeout responseBody status =>
      .responseError observed (.upstreamResponseTimeout responseBody status)

/-- Response audit input.
Source: `gateway.rs` `ResponseAuditInput` -/
structure ResponseAuditInput where
  outcome : ResponseAuditOutcome
  requestBody : AccountedBody
  requestId : RequestId
  target : AllowedTarget

/-- The event of a completed upstream response.
Source: `gateway.rs` `Gateway::audit_response` -/
def AuditEvent.forResponse (X : Crates) (input : ResponseAuditInput) (timestamp : AuditTimestamp) :
    Option AuditEvent := do
  let observed ← ObservedAuditRequestInput.new X input.target input.requestId input.requestBody
  AuditEvent.newAt X (input.outcome.eventInput observed) timestamp

/-! ## What the event of a response says -/

namespace ResponseAuditOutcome

/-- The decision that is recorded. -/
def decision : ResponseAuditOutcome → AuditDecision
  | allowed _ _ => .allowed
  | upstreamError _ => .upstreamError
  | _ => .responseError

/-- The response body that is recorded. -/
def responseBody : ResponseAuditOutcome → AuditBodySummary
  | allowed body _ | downstreamClosed body _ | responseStreamTimeout body _
  | upstreamResponseStreamFailed body _ | upstreamResponseTimeout body _ => body.intoSummary
  | responseBodyTooLarge body _ => .nonEmpty body.observation.blake3 body.observation.bytes
  | responseHeaderError _ | upstreamError _ => .notObserved

/-- The status that is recorded. -/
def status : ResponseAuditOutcome → StatusCode
  | allowed _ status | downstreamClosed _ status | responseStreamTimeout _ status
  | upstreamResponseStreamFailed _ status | upstreamResponseTimeout _ status
  | responseBodyTooLarge _ status => status
  | responseHeaderError error => error.status
  | upstreamError error => error.status

end ResponseAuditOutcome

/-- The event of a response records the decision, body and status of its outcome. -/
lemma AuditEvent.forResponse_eq_some {X : Crates} {input : ResponseAuditInput}
    {timestamp : AuditTimestamp} {event : AuditEvent}
    (h : AuditEvent.forResponse X input timestamp = some event) :
    event.decision = input.outcome.decision ∧ event.responseBody = input.outcome.responseBody ∧
      event.status = input.outcome.status := by
  simp only [AuditEvent.forResponse, Option.bind_eq_bind, Option.bind_eq_some_iff,
    AuditEvent.newAt, Option.map_eq_some_iff] at h
  obtain ⟨observed, -, method, -, rfl⟩ := h
  cases input.outcome with
  | responseHeaderError error => cases error <;> exact ⟨rfl, rfl, rfl⟩
  | _ => exact ⟨rfl, rfl, rfl⟩

/-- The event of a denial is built. -/
lemma AuditEvent.forDenial_ne_none (X : Crates) (denial : AuditDenial) (requestId : RequestId)
    (body : Option AccountedBody) (origin : UpstreamOrigin) (timestamp : AuditTimestamp) :
    AuditEvent.forDenial X denial requestId body origin timestamp ≠ none := by
  obtain ⟨method, hmethod, -⟩ := AuditMethod.fromMethod_total denial.method
  rw [AuditEvent.forDenial, AuditEvent.newAt, ne_eq, Option.map_eq_none_iff]
  rw [show AuditMethod.fromMethod (AuditEventInput.denied (AuditRequestInput.forDenial X denial
    requestId body origin)).request.method = some method from hmethod]
  simp

/-- The event of a denial records its status. -/
lemma AuditEvent.forDenial_eq_some {X : Crates} {denial : AuditDenial} {requestId : RequestId}
    {body : Option AccountedBody} {origin : UpstreamOrigin} {timestamp : AuditTimestamp}
    {event : AuditEvent}
    (h : AuditEvent.forDenial X denial requestId body origin timestamp = some event) :
    event.decision = .denied ∧ event.status = denial.status := by
  simp only [AuditEvent.forDenial, AuditEvent.newAt, Option.map_eq_some_iff] at h
  obtain ⟨method, -, rfl⟩ := h
  exact ⟨rfl, rfl⟩

/-! ## The gateway's methods -/

namespace Gateway

/-- Fails when a previous required audit event failed.
Source: `gateway.rs` `Gateway::require_audit_available` -/
def requireAuditAvailable : Async (Except GatewayError Unit) := do
  if ← call .loadAuditFailed then return .error .auditUnavailable else return .ok ()

/-- Closes future upstream forwarding after a required audit failure.
Source: `gateway.rs` `Gateway::close_forwarding` -/
def closeForwarding : Async Unit := do
  call .storeAuditFailed
  call .notifyWaiters
  call .writeGate
  call .releaseWriteGate

/-- Writes one required audit event and records permanent audit failure.
Source: `gateway.rs` `Gateway::append_required_audit_event` -/
def appendRequiredAuditEvent (event : AuditEvent) : Async (Except GatewayError Unit) := do
  match ← call (.appendEvent event) with
  | .error error =>
      closeForwarding
      return .error (.audit error)
  | .ok () => return .ok ()

/-- Writes an audit event for a denied request.
Source: `gateway.rs` `Gateway::audit_denial` -/
def auditDenial (X : Crates) (config : GatewayConfig) (requestId : RequestId)
    (denial : AuditDenial) (requestBody : Option AccountedBody) :
    Async (Except GatewayError Unit) := do
  let timestamp ← call .now
  let event ← expect
    (AuditEvent.forDenial X denial requestId requestBody config.upstreamOrigin timestamp)
  appendRequiredAuditEvent event

/-- Writes an audit event for a completed upstream response. The observed request is built before
the clock is read.
Source: `gateway.rs` `Gateway::audit_response` -/
def auditResponse (X : Crates) (input : ResponseAuditInput) : Async (Except GatewayError Unit) := do
  let observed ← expect
    (ObservedAuditRequestInput.new X input.target input.requestId input.requestBody)
  let timestamp ← call .now
  let event ← expect (AuditEvent.newAt X (input.outcome.eventInput observed) timestamp)
  appendRequiredAuditEvent event

/-- Starts upstream forwarding unless audit has already failed. On success the read guard is kept.
Source: `gateway.rs` `Gateway::begin_forwarding` -/
def beginForwarding : Async (Except GatewayError Unit) := do
  call .readGate
  match ← requireAuditAvailable with
  | .error error =>
      call .releaseReadGate
      return .error error
  | .ok () => return .ok ()

end Gateway

end Custode
