import Custode.System.Parties

/-!
# Phases of the forwarding gate

`GatePhase` is where a party is in the code of the gate. As a monitor (`gateMonitor`) it also says
in which phase each call of that code is made. `safe_proxy_gate` and `safe_task_gate` show that
handlers and response tasks make their calls there; below them is one rule for each function.
-/

namespace Custode

open Found

/-! ## Phases -/

/-- Where a party is in the code of the forwarding gate. -/
inductive GatePhase where
  /-- It holds no guard, and none of its appends has failed. -/
  | outside
  /-- It holds a read guard and has not looked at the flag since. -/
  | reading
  /-- It holds a forwarding permit. -/
  | forwarding
  /-- It holds a read guard and has seen that the audit failed. -/
  | refused
  /-- One of its appends has failed. -/
  | failing
  /-- It has set the flag. -/
  | stored
  /-- It holds the write guard. -/
  | writing
  /-- Its required append has returned the error. -/
  | closed
  deriving DecidableEq

namespace GatePhase

/-- The phase after one more event. -/
def observe : GatePhase → Event Call.Answer → GatePhase
  | outside, ⟨.readGate, _⟩ => reading
  | reading, ⟨.loadAuditFailed, false⟩ => forwarding
  | reading, ⟨.loadAuditFailed, true⟩ => refused
  | refused, ⟨.releaseReadGate, _⟩ => outside
  | forwarding, ⟨.releaseReadGate, _⟩ => outside
  | outside, ⟨.appendEvent _, .error _⟩ => failing
  | failing, ⟨.storeAuditFailed, _⟩ => stored
  | stored, ⟨.writeGate, _⟩ => writing
  | writing, ⟨.releaseWriteGate, _⟩ => closed
  | phase, _ => phase

/-- The phase in which a call is made. -/
def Ready (phase : GatePhase) : Call → Prop
  | .loadAuditFailed => phase = outside ∨ phase = reading
  | .readGate => phase = outside
  | .releaseReadGate => phase = refused ∨ phase = forwarding
  | .startSend _ => phase = forwarding
  | .awaitSend => phase = forwarding
  | .appendEvent _ => phase = outside
  | .storeAuditFailed => phase = failing
  | .notifyWaiters => phase = stored
  | .writeGate => phase = stored
  | .releaseWriteGate => phase = writing
  | _ => True

/-- It holds a read guard. -/
def Reads : GatePhase → Prop
  | reading | forwarding | refused => True
  | _ => False

/-- It has set the flag. -/
def HasStored : GatePhase → Prop
  | stored | writing | closed => True
  | _ => False

/-- It has had the write guard. -/
def HasShut : GatePhase → Prop
  | writing | closed => True
  | _ => False

/-- A gate that was shut had its flag stored before. -/
lemma HasShut.hasStored {phase : GatePhase} (h : phase.HasShut) : phase.HasStored := by
  cases phase <;> first | exact h | trivial

/-- Once closed, always closed. -/
@[simp] lemma observe_closed (e : Event Call.Answer) : closed.observe e = closed := by
  obtain ⟨op, r⟩ := e
  cases op <;> rfl

end GatePhase

/-- The phase as a monitor. -/
def gateMonitor : Monitor Call.Answer GatePhase := ⟨GatePhase.observe, GatePhase.Ready⟩

/-- The monitor's step is the phase's. -/
@[simp] lemma gateMonitor_observe (phase : GatePhase) (e : Event Call.Answer) :
    gateMonitor.observe phase e = phase.observe e := rfl

/-- The monitor's condition is the phase's. -/
@[simp] lemma gateMonitor_ready (phase : GatePhase) (op : Call) :
    gateMonitor.Ready phase op = phase.Ready op := rfl

/-- Once closed, closed after every run. -/
lemma gateMonitor_closed (tr : List (Event Call.Answer)) :
    gateMonitor.after .closed tr = .closed := by
  induction tr with
  | nil => rfl
  | cons e tr ih => rw [Monitor.after_cons, gateMonitor_observe, GatePhase.observe_closed, ih]

/-! ## The gateway's methods -/

section Methods

variable {X : Crates} {α : Type}

/-- Expecting a value stays in its phase. -/
lemma safe_expect_gate {value : Option α} {Q : α → GatePhase → Prop} {phase : GatePhase}
    (h : ∀ a, Q a phase) : gateMonitor.Safe (expect value) Q phase := by
  cases value with
  | none => exact ⟨trivial, fun r => r.elim⟩
  | some a => exact h a

/-- Closing the gate ends closed. -/
lemma safe_closeForwarding_gate :
    gateMonitor.Safe Gateway.closeForwarding (fun _ phase => phase = .closed) .failing := by
  simp only [Gateway.closeForwarding, Monitor.safe_bind, Monitor.safe_perform]
  exact ⟨rfl, fun _ => ⟨rfl, fun _ => ⟨rfl, fun _ => ⟨rfl, fun _ => rfl⟩⟩⟩⟩

/-- A required append is made outside of the gate, and has closed it when it returns an error. -/
lemma safe_append_gate (event : AuditEvent) :
    gateMonitor.Safe (Gateway.appendRequiredAuditEvent event)
      (fun result phase => match result with
        | .ok _ => phase = .outside
        | .error _ => phase = .closed) .outside := by
  rw [Gateway.appendRequiredAuditEvent, Monitor.safe_bind, Monitor.safe_perform]
  refine ⟨rfl, ?_⟩
  rintro (error | _)
  · rw [Monitor.safe_bind]
    exact safe_closeForwarding_gate.mono fun _ _ hclosed => hclosed
  · rfl

/-- Auditing a denial keeps to the phases, from outside. -/
lemma safe_auditDenial_gate (config : GatewayConfig) (requestId : RequestId)
    (denial : AuditDenial) (requestBody : Option AccountedBody) :
    gateMonitor.Safe (Gateway.auditDenial X config requestId denial requestBody)
      (fun _ _ => True) .outside := by
  rw [Gateway.auditDenial, Monitor.safe_bind, Monitor.safe_perform]
  refine ⟨trivial, ?_⟩
  intro timestamp
  rw [Monitor.safe_bind]
  exact safe_expect_gate fun event => (safe_append_gate event).mono fun _ _ _ => trivial

/-- Auditing a response keeps to the phases, from outside. -/
lemma safe_auditResponse_gate (input : ResponseAuditInput) :
    gateMonitor.Safe (Gateway.auditResponse X input) (fun _ _ => True) .outside := by
  rw [Gateway.auditResponse, Monitor.safe_bind]
  refine safe_expect_gate fun observed => ?_
  rw [Monitor.safe_bind, Monitor.safe_perform]
  refine ⟨trivial, ?_⟩
  intro timestamp
  rw [Monitor.safe_bind]
  exact safe_expect_gate fun event => (safe_append_gate event).mono fun _ _ _ => trivial

/-- Beginning to forward ends with a forwarding permit, or outside. -/
lemma safe_beginForwarding_gate :
    gateMonitor.Safe Gateway.beginForwarding
      (fun result phase => match result with
        | .ok _ => phase = .forwarding
        | .error _ => phase = .outside) .outside := by
  simp only [Gateway.beginForwarding, Gateway.requireAuditAvailable, Monitor.safe_bind,
    Monitor.safe_perform]
  refine ⟨rfl, fun _ => ⟨.inr rfl, ?_⟩⟩
  rintro (_ | _)
  · rfl
  · exact ⟨.inl rfl, fun _ => rfl⟩

end Methods

/-! ## Handlers -/

section Handler

variable {X : Crates} {config : GatewayConfig} {phase : GatePhase}

/-- Reporting a fatal error moves no guard. -/
lemma safe_reportFatalError_gate (error : GatewayError) :
    gateMonitor.Safe (reportFatalError error) (fun _ _ => True) phase := by
  rw [reportFatalError, Monitor.safe_perform]
  exact ⟨trivial, fun _ => trivial⟩

/-- Dropping the permit moves no guard. -/
lemma safe_droppingPermit_gate {result : Async (Except GatewayError Response)}
    (h : gateMonitor.Safe result (fun _ _ => True) phase) :
    gateMonitor.Safe (droppingPermit result) (fun _ _ => True) phase := by
  rw [droppingPermit, Monitor.safe_bind]
  apply h.mono
  intro result phase' _
  rw [Monitor.safe_bind, Monitor.safe_perform]
  exact ⟨trivial, fun _ => trivial⟩

/-- Denying a request keeps to the phases, from outside. -/
lemma safe_auditDenialStatus_gate (requestId : RequestId) (denial : AuditDenial)
    (requestBody : Option AccountedBody) :
    gateMonitor.Safe (auditDenialStatus X config requestId denial requestBody)
      (fun _ _ => True) .outside := by
  rw [auditDenialStatus, Monitor.safe_bind]
  apply (safe_auditDenial_gate config requestId denial requestBody).mono
  rintro (error | _) phase' _
  · trivial
  · trivial

/-- Answering with an audited status keeps to the phases, from outside. -/
lemma safe_auditResponseStatus_gate (input : ResponseAuditInput) (status : StatusCode) :
    gateMonitor.Safe (auditResponseStatus X input status) (fun _ _ => True) .outside := by
  rw [auditResponseStatus, Monitor.safe_bind]
  apply (safe_auditResponse_gate input).mono
  rintro (error | _) phase' _
  · trivial
  · trivial

/-- The decision on the target leaves an accepted request outside. -/
lemma safe_acceptAllowedTarget_gate (requestId : RequestId) (method : Method) (uri : Uri) :
    gateMonitor.Safe (acceptAllowedTarget X config requestId method uri)
      (fun result phase => ∀ target, result = .ok (.ok target) → phase = .outside) .outside := by
  rw [acceptAllowedTarget, Monitor.safe_bind]
  apply safe_expect_gate
  rintro (denial | target)
  · show gateMonitor.Safe (rejectAllowedTarget X config requestId denial) _ _
    rw [rejectAllowedTarget, Monitor.safe_bind]
    apply (safe_auditDenialStatus_gate requestId denial none).mono
    rintro (error | response) phase' -
    · rintro target ⟨⟩
    · rintro target ⟨⟩
  · exact fun _ _ => rfl

/-- Forwarding the response keeps to the phases, from outside. -/
lemma safe_forwardResponse_gate (input : ForwardRequestInput) (response : UpstreamResponse) :
    gateMonitor.Safe (forwardResponse X config input response) (fun _ _ => True) .outside := by
  simp only [forwardResponse, Monitor.safe_bind]
  apply safe_expect_gate
  rintro (error | responseHeaders)
  · exact safe_droppingPermit_gate (safe_auditResponseStatus_gate _ _)
  · rw [Monitor.safe_bind, Monitor.safe_perform]
    refine ⟨trivial, ?_⟩
    intro _
    split
    · trivial
    · trivial

/-- The send is made with a forwarding permit, which is dropped before anything is audited. -/
lemma safe_forwardRequest_gate (input : ForwardRequestInput) :
    gateMonitor.Safe (forwardRequest X config input) (fun _ _ => True) .outside := by
  rw [forwardRequest, Monitor.safe_bind]
  apply safe_beginForwarding_gate.mono
  rintro (error | _) phase' hphase
  · exact safe_droppingPermit_gate trivial
  · obtain rfl : phase' = .forwarding := hphase
    simp only [Monitor.safe_bind, Monitor.safe_perform]
    refine ⟨rfl, fun _ => ⟨rfl, fun result => ⟨.inr rfl, fun _ => ?_⟩⟩⟩
    rcases result with error | response
    · exact safe_droppingPermit_gate (safe_auditResponseStatus_gate _ _)
    · exact safe_forwardResponse_gate input response

/-- Handling an allowed target keeps to the phases, from outside. -/
lemma safe_handleAllowedTarget_gate (requestId : RequestId) (request : HttpRequest)
    (target : AllowedTarget) :
    gateMonitor.Safe (handleAllowedTarget X config requestId request target)
      (fun _ _ => True) .outside := by
  rw [handleAllowedTarget, Monitor.safe_bind]
  apply safe_expect_gate
  rintro (error | headers)
  · exact safe_droppingPermit_gate (safe_auditDenialStatus_gate _ _ _)
  · rw [Monitor.safe_bind, Monitor.safe_perform]
    refine ⟨trivial, ?_⟩
    rintro (_ | (error | body))
    · exact safe_droppingPermit_gate (safe_auditDenialStatus_gate _ _ _)
    · exact safe_droppingPermit_gate (safe_auditDenialStatus_gate _ _ _)
    · exact safe_forwardRequest_gate _

/-- Allocating a request identity stays outside. -/
lemma safe_allocateRequestId_gate :
    gateMonitor.Safe allocateRequestId (fun _ phase => phase = .outside) .outside := by
  rw [allocateRequestId, Monitor.safe_bind, Monitor.safe_perform]
  refine ⟨trivial, ?_⟩
  rintro (error | requestId)
  · simp only [reportFatalError, Monitor.safe_bind, Monitor.safe_perform]
    exact ⟨trivial, fun _ => rfl⟩
  · rfl

/-- Handling a request keeps to the phases, from outside. -/
lemma safe_handleRequest_gate (request : HttpRequest) :
    gateMonitor.Safe (handleRequest X config request) (fun _ _ => True) .outside := by
  rw [handleRequest, Monitor.safe_bind]
  apply safe_allocateRequestId_gate.mono
  rintro (error | requestId) phase' rfl
  · exact safe_droppingPermit_gate trivial
  · simp only [Monitor.safe_bind]
    apply (safe_acceptAllowedTarget_gate requestId request.method request.uri).mono
    rintro (error | (response | target)) phase' hphase
    · exact safe_droppingPermit_gate trivial
    · exact safe_droppingPermit_gate trivial
    · obtain rfl := hphase target rfl
      exact safe_handleAllowedTarget_gate requestId request target

/-- Refusing a request keeps to the phases, from outside. -/
lemma safe_rejectTooManyRequests_gate (request : HttpRequest) :
    gateMonitor.Safe (rejectTooManyRequests X config request) (fun _ _ => True) .outside := by
  rw [rejectTooManyRequests, Monitor.safe_bind]
  apply safe_allocateRequestId_gate.mono
  rintro (error | requestId) phase' rfl
  · trivial
  · simp only [Monitor.safe_bind]
    refine safe_expect_gate fun target => ?_
    apply (safe_auditDenial_gate config requestId _ none).mono
    rintro (error | _) phase' -
    · simp only [reportRequestFailure, Monitor.safe_bind]
      split
      · exact (safe_reportFatalError_gate error).mono fun _ _ _ => trivial
      · trivial
    · trivial

/-- **A handler** makes the calls of the gate in their phases. -/
theorem safe_proxy_gate (X : Crates) (config : GatewayConfig) (request : HttpRequest) :
    gateMonitor.Safe (proxy X config request) (fun _ _ => True) .outside := by
  simp only [proxy, Gateway.requireAuditAvailable, Monitor.safe_bind, Monitor.safe_perform]
  refine ⟨.inl rfl, ?_⟩
  rintro (_ | _)
  · show gateMonitor.Safe (call .tryAcquireOwned >>= _) _ .outside
    rw [Monitor.safe_bind, Monitor.safe_perform]
    refine ⟨trivial, ?_⟩
    rintro (_ | _)
    · exact safe_rejectTooManyRequests_gate request
    · show gateMonitor.Safe (handleRequest X config request >>= _) _ .outside
      rw [Monitor.safe_bind]
      apply (safe_handleRequest_gate request).mono
      rintro (error | response) phase' -
      · simp only [reportRequestFailure]
        split
        · rw [Monitor.safe_bind]
          exact (safe_reportFatalError_gate error).mono fun _ _ _ => trivial
        · trivial
      · trivial
  · show gateMonitor.Safe (reportFatalError _ >>= _) _ _
    rw [Monitor.safe_bind]
    exact (safe_reportFatalError_gate _).mono fun _ _ _ => trivial

end Handler

/-! ## Response tasks -/

section Task

variable {X : Crates}

/-- Sending the pending chunk stays outside. -/
lemma safe_sendPending_gate (account : ResponseAccount) (pending : Option Bytes)
    (closed : ResponseStreamAbort) {next : Async StreamResult}
    (hnext : gateMonitor.Safe next (fun _ phase => phase = .outside) .outside) :
    gateMonitor.Safe (sendPending account pending closed next) (fun _ phase => phase = .outside)
      .outside := by
  rcases pending with _ | chunk
  · exact hnext
  · simp only [sendPending, Monitor.safe_bind, Monitor.safe_perform]
    refine ⟨trivial, ?_⟩
    rintro (interrupt | _ | _)
    · rfl
    · rfl
    · exact hnext

/-- The streaming loop stays outside of the gate, by induction on the items. -/
lemma safe_streamUpstreamResponse_gate (items : List UpstreamItem) (account : ResponseAccount)
    (pending : Option Bytes) :
    gateMonitor.Safe (streamUpstreamResponse X account pending items)
      (fun _ phase => phase = .outside) .outside := by
  induction items generalizing account pending with
  | nil =>
      simp only [streamUpstreamResponse, Monitor.safe_bind, Monitor.safe_perform]
      refine ⟨trivial, ?_⟩
      rintro (interrupt | _)
      · rfl
      · rcases pending with _ | finalChunk
        · rfl
        · simp only [finishStream, Monitor.safe_bind, Monitor.safe_perform]
          refine ⟨trivial, ?_⟩
          rintro (interrupt | _ | _)
          · rfl
          · rfl
          · rfl
  | cons item items ih =>
      simp only [streamUpstreamResponse, Monitor.safe_bind, Monitor.safe_perform]
      refine ⟨trivial, ?_⟩
      rintro (interrupt | _)
      · rfl
      · rcases item with kind | chunk
        · exact safe_sendPending_gate account pending _ rfl
        · apply safe_sendPending_gate account pending _
          rw [Monitor.safe_bind]
          apply safe_expect_gate
          rintro (responseBody | account)
          · rfl
          · exact ih account (some chunk)

/-- The audit behind a started response keeps to the phases, from outside. -/
lemma safe_auditAfterResponseStarted_gate (context : ResponseAuditContext)
    (outcome : ResponseStreamOutcome) :
    gateMonitor.Safe (context.auditAfterResponseStarted X outcome) (fun _ _ => True) .outside := by
  rw [ResponseAuditContext.auditAfterResponseStarted]
  split
  · trivial
  · rw [Monitor.safe_bind]
    apply (safe_auditResponse_gate (context.auditInput X outcome)).mono
    rintro (error | _) phase' -
    · rw [Monitor.safe_bind]
      exact (safe_reportFatalError_gate error).mono fun _ _ _ => trivial
    · trivial

/-- Sending the terminal error moves no guard. -/
lemma safe_sendTerminalStreamError_gate {phase : GatePhase} :
    gateMonitor.Safe sendTerminalStreamError (fun _ _ => True) phase := by
  rw [sendTerminalStreamError, Monitor.safe_bind, Monitor.safe_perform]
  exact ⟨trivial, fun _ => trivial⟩

/-- The end of an aborted stream keeps to the phases, from outside. -/
lemma safe_handleResponseStreamAbort_gate (context : ResponseAuditContext)
    (abort : ResponseStreamAbort) :
    gateMonitor.Safe (handleResponseStreamAbort X context abort) (fun _ _ => True) .outside := by
  rw [handleResponseStreamAbort, Monitor.safe_bind]
  apply (safe_auditAfterResponseStarted_gate context abort.outcome).mono
  intro _ phase' _
  split
  · rw [sendStreamError, Monitor.safe_bind, Monitor.safe_perform]
    exact ⟨trivial, fun _ => trivial⟩
  · trivial

/-- The conclusion of a stream keeps to the phases, from outside. -/
lemma safe_concludeStream_gate (context : ResponseAuditContext)
    (result : Except Interrupt ResponseStreamCompletion) :
    gateMonitor.Safe (concludeStream X context result) (fun _ _ => True) .outside := by
  rcases result with (_ | _) | (abort | _ | finalChunk)
  · exact safe_sendTerminalStreamError_gate
  · exact safe_handleResponseStreamAbort_gate context _
  · exact safe_handleResponseStreamAbort_gate context abort
  · simp only [concludeStream, Monitor.safe_bind]
    apply (safe_auditAfterResponseStarted_gate context .allowed).mono
    rintro ⟨_ | _, _⟩ phase' -
    · exact safe_sendTerminalStreamError_gate
    · trivial
  · simp only [concludeStream, Monitor.safe_bind]
    apply (safe_auditAfterResponseStarted_gate context .allowed).mono
    rintro ⟨_ | _, _⟩ phase' -
    · rw [Monitor.safe_bind, Monitor.safe_perform]
      exact ⟨trivial, fun _ => safe_sendTerminalStreamError_gate⟩
    · rw [Monitor.safe_perform]
      exact ⟨trivial, fun _ => trivial⟩

/-- **A response task** makes the calls of the gate in their phases. -/
theorem safe_task_gate (X : Crates) (context : ResponseAuditContext) (response : UpstreamResponse) :
    gateMonitor.Safe (responseTask X context response) (fun _ _ => True) .outside := by
  rw [responseTask, Monitor.safe_bind]
  apply (safe_streamUpstreamResponse_gate response.body context.responseAccount none).mono
  rintro ⟨account, result⟩ phase' rfl
  rw [Monitor.safe_bind]
  apply (safe_concludeStream_gate _ result).mono
  intro _ phase' _
  rw [Monitor.safe_perform]
  exact ⟨trivial, fun _ => trivial⟩

end Task

/-- Every party of the gateway makes the calls of the gate in their phases. -/
lemma safe_gatewayPrograms_gate {ι : Type} (X : Crates) (config : GatewayConfig)
    (requests : ι → HttpRequest) (p : Party ι) :
    gateMonitor.Safe (gatewayPrograms X config requests p) (fun _ _ => True) .outside := by
  cases p with
  | handler i => exact safe_proxy_gate X config (requests i)
  | task i =>
      rw [gatewayPrograms, Monitor.safe_bind, Monitor.safe_perform]
      exact ⟨trivial, fun task => safe_task_gate X task.1 task.2⟩

end Custode
