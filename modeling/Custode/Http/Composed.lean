import Custode.Http.AuditCalls
import Custode.Http.Handler

/-!
# Properties of handlers and response tasks, put together from their parts

Handlers and response tasks are sequences of calls, of appends, of reads under the configured limit
and of sends with the configured timeout, under the guard of the forwarding gate. A property that
sequencing keeps and that these parts have (`Composes`) is one of every handler (`Composes.proxy`)
and of every response task (`Composes.responseTask`).
-/

namespace Custode

open Found

/-- The calls that are parts of their own: all but those of an append and of the forwarding gate,
and the reading of the request body. -/
def Call.Plain : Call → Prop
  | now | appendEvent _ | storeAuditFailed | notifyWaiters | writeGate | releaseWriteGate
  | readGate | releaseReadGate | startSend _ | awaitSend | readRequest _ => False
  | _ => True

/-- The send of a request under the guard of the forwarding gate. -/
def guardedSend (request : UpstreamRequest) :
    Async (Except GatewayError (Except UpstreamErrorKind UpstreamResponse)) := do
  match ← Gateway.beginForwarding with
  | .error error => return .error error
  | .ok () =>
      call (.startSend request)
      let upstreamResult ← call .awaitSend
      call .releaseReadGate
      return .ok upstreamResult

/-- The parts have the property, and sequencing keeps it. -/
structure Composes (X : Crates) (config : GatewayConfig) (P : (α : Type) → Async α → Prop) : Prop
    where
  ret : ∀ {α : Type} (a : α), P α (.ret a)
  bind : ∀ {α β : Type} {p : Async α} {f : α → Async β}, P α p → (∀ a, P β (f a)) → P β (p >>= f)
  call : ∀ op : Call, op.Plain → P op.Answer (Custode.call op)
  append : ∀ input : AuditEventInput, P (Except GatewayError Unit) (do
    let timestamp ← Custode.call .now
    let event ← expect (AuditEvent.newAt X input timestamp)
    Gateway.appendRequiredAuditEvent event)
  read : P _ (Custode.call (.readRequest config.maxRequestBytes))
  send : ∀ request : UpstreamRequest, request.deadline = config.requestTimeout →
    P _ (guardedSend request)

namespace Composes

variable {X : Crates} {config : GatewayConfig} {α : Type} {P : (α : Type) → Async α → Prop}

/-- Expecting a value has the property. -/
lemma expect (h : Composes X config P) (value : Option α) : P α (Custode.expect value) := by
  cases value with
  | none => exact h.bind (h.call .panic trivial) fun r => r.elim
  | some a => exact h.ret a

/-- Reporting a fatal error has the property. -/
lemma reportFatalError (h : Composes X config P) (error : GatewayError) :
    P Unit (Custode.reportFatalError error) := h.call (.sendFatal error) trivial

/-- Reporting a failed request has the property. -/
lemma reportRequestFailure (h : Composes X config P) (error : GatewayError) :
    P Response (Custode.reportRequestFailure error) := by
  rw [Custode.reportRequestFailure]
  split
  · exact h.bind (h.reportFatalError error) fun _ => h.ret _
  · exact h.ret _

/-- Auditing a denial has the property. -/
lemma auditDenial (h : Composes X config P) (requestId : RequestId) (denial : AuditDenial)
    (body : Option AccountedBody) :
    P _ (Gateway.auditDenial X config requestId denial body) := h.append _

/-- Auditing a response has the property. -/
lemma auditResponse (h : Composes X config P) (input : ResponseAuditInput) :
    P _ (Gateway.auditResponse X input) :=
  h.bind (h.expect _) fun _ => h.append _

/-! ## Response tasks -/

/-- Sending the pending chunk has the property, when what comes after it does. -/
lemma sendPending (h : Composes X config P) (account : ResponseAccount) (pending : Option Bytes)
    (closed : ResponseStreamAbort) {next : Async StreamResult} (hnext : P _ next) :
    P _ (Custode.sendPending account pending closed next) := by
  cases pending with
  | none => exact hnext
  | some chunk =>
      refine h.bind (h.call (.sendChunk chunk) trivial) ?_
      rintro (interrupt | _ | _)
      · exact h.ret _
      · exact h.ret _
      · exact hnext

/-- The end of the upstream body has the property. -/
lemma finishStream (h : Composes X config P) (account : ResponseAccount) (pending : Option Bytes) :
    P _ (Custode.finishStream account pending) := by
  cases pending with
  | none => exact h.ret _
  | some chunk =>
      refine h.bind (h.call .reserve trivial) ?_
      rintro (interrupt | _ | _)
      · exact h.ret _
      · exact h.ret _
      · exact h.ret _

/-- The streaming loop has the property, by induction on the upstream items. -/
lemma streamUpstreamResponse (h : Composes X config P) (items : List UpstreamItem)
    (account : ResponseAccount) (pending : Option Bytes) :
    P _ (Custode.streamUpstreamResponse X account pending items) := by
  induction items generalizing account pending with
  | nil =>
      refine h.bind (h.call .nextItem trivial) ?_
      rintro (interrupt | _)
      · exact h.ret _
      · exact h.finishStream account pending
  | cons item items ih =>
      refine h.bind (h.call .nextItem trivial) ?_
      rintro (interrupt | _)
      · exact h.ret _
      · cases item with
        | error kind => exact h.sendPending _ _ _ (h.ret _)
        | ok chunk =>
            refine h.sendPending _ _ _ (h.bind (h.expect _) ?_)
            rintro (responseBody | account)
            · exact h.ret _
            · exact ih account (some chunk)

/-- Sending the terminal error has the property. -/
lemma sendTerminalStreamError (h : Composes X config P) : P _ Custode.sendTerminalStreamError :=
  h.bind (h.call (.sendError false) trivial) fun _ => h.ret _

/-- The audit behind a started response has the property. -/
lemma auditAfterResponseStarted (h : Composes X config P) (context : ResponseAuditContext)
    (outcome : ResponseStreamOutcome) : P _ (context.auditAfterResponseStarted X outcome) := by
  rw [ResponseAuditContext.auditAfterResponseStarted]
  split
  · exact h.ret _
  · refine h.bind (h.auditResponse _) ?_
    rintro (error | _)
    · exact h.bind (h.reportFatalError error) fun _ => h.ret _
    · exact h.ret _

/-- The end of an aborted stream has the property. -/
lemma handleResponseStreamAbort (h : Composes X config P) (context : ResponseAuditContext)
    (abort : ResponseStreamAbort) : P _ (Custode.handleResponseStreamAbort X context abort) := by
  refine h.bind (h.auditAfterResponseStarted context abort.outcome) ?_
  rintro ⟨result, _⟩
  split
  · exact h.bind (h.call (.sendError true) trivial) fun _ => h.ret _
  · exact h.ret _

/-- The conclusion of a stream has the property. -/
lemma concludeStream (h : Composes X config P) (context : ResponseAuditContext)
    (result : Except Interrupt ResponseStreamCompletion) :
    P _ (Custode.concludeStream X context result) := by
  rcases result with (_ | _) | (abort | _ | finalChunk)
  · exact h.sendTerminalStreamError
  · exact h.handleResponseStreamAbort context _
  · exact h.handleResponseStreamAbort context _
  · refine h.bind (h.auditAfterResponseStarted context _) ?_
    rintro ⟨_ | _, _⟩
    · exact h.sendTerminalStreamError
    · exact h.ret _
  · refine h.bind (h.auditAfterResponseStarted context _) ?_
    rintro ⟨_ | _, _⟩
    · exact h.bind (h.call .dropReserved trivial) fun _ => h.sendTerminalStreamError
    · exact h.call (.sendReserved finalChunk) trivial

/-- **Response tasks** have the property. -/
theorem responseTask (h : Composes X config P) (context : ResponseAuditContext)
    (response : UpstreamResponse) : P _ (Custode.responseTask X context response) := by
  refine h.bind (h.streamUpstreamResponse response.body context.responseAccount none) ?_
  rintro ⟨account, result⟩
  exact h.bind (h.concludeStream _ _) fun _ => h.call .releasePermit trivial

/-! ## Handlers -/

/-- Dropping the permit behind a result that has the property. -/
lemma droppingPermit (h : Composes X config P) {result : Async (Except GatewayError Response)}
    (hresult : P _ result) : P _ (Custode.droppingPermit result) :=
  h.bind hresult fun _ => h.bind (h.call .releasePermit trivial) fun _ => h.ret _

/-- Denying a request has the property. -/
lemma auditDenialStatus (h : Composes X config P) (requestId : RequestId) (denial : AuditDenial)
    (body : Option AccountedBody) :
    P _ (Custode.auditDenialStatus X config requestId denial body) := by
  refine h.bind (h.auditDenial requestId denial body) ?_
  rintro (error | _)
  · exact h.ret _
  · exact h.ret _

/-- Answering with an audited status has the property. -/
lemma auditResponseStatus (h : Composes X config P) (input : ResponseAuditInput)
    (status : StatusCode) :
    P _ (Custode.auditResponseStatus X input status) := by
  refine h.bind (h.auditResponse input) ?_
  rintro (error | _)
  · exact h.ret _
  · exact h.ret _

/-- The decision on the target has the property. -/
lemma acceptAllowedTarget (h : Composes X config P) (requestId : RequestId) (method : Method)
    (uri : Uri) :
    P _ (Custode.acceptAllowedTarget X config requestId method uri) := by
  refine h.bind (h.expect _) ?_
  rintro (denial | target)
  · refine h.bind (h.auditDenialStatus requestId denial none) ?_
    rintro (error | response)
    · exact h.ret _
    · exact h.ret _
  · exact h.ret _

/-- Forwarding the response has the property. -/
lemma forwardResponse (h : Composes X config P) (input : ForwardRequestInput)
    (response : UpstreamResponse) : P _ (Custode.forwardResponse X config input response) := by
  refine h.bind (h.expect _) ?_
  rintro (error | headers)
  · exact h.droppingPermit (h.auditResponseStatus _ _)
  · refine h.bind (h.call (.spawn _ response) trivial) fun _ => ?_
    split
    · exact h.ret _
    · exact h.ret _

/-- A request is forwarded in one send under the guard. -/
lemma forwardRequest_eq (input : ForwardRequestInput) :
    forwardRequest X config input =
      (guardedSend (.fromTarget X input.target input.requestHeaders input.requestBody
        config.requestTimeout) >>= fun
        | .error error => Custode.droppingPermit (return .error error)
        | .ok (.error error) => Custode.droppingPermit (Custode.auditResponseStatus X
            ⟨.upstreamError (auditUpstreamError error), input.requestBody, input.requestId,
              input.target⟩ (auditUpstreamError error).status)
        | .ok (.ok response) => Custode.forwardResponse X config input response) := by
  refine congrArg (Program.call Call.readGate) (funext fun _ => ?_)
  refine congrArg (Program.call Call.loadAuditFailed) (funext fun failed => ?_)
  cases failed with
  | true => rfl
  | false =>
      refine congrArg (Program.call (Call.startSend _)) (funext fun _ => ?_)
      refine congrArg (Program.call Call.awaitSend) (funext fun result => ?_)
      refine congrArg (Program.call Call.releaseReadGate) (funext fun _ => ?_)
      cases result with
      | error error => rfl
      | ok response => rfl

/-- Forwarding the request has the property. -/
lemma forwardRequest (h : Composes X config P) (input : ForwardRequestInput) :
    P _ (Custode.forwardRequest X config input) := by
  rw [forwardRequest_eq]
  refine h.bind (h.send _ rfl) ?_
  rintro (error | error | response)
  · exact h.droppingPermit (h.ret _)
  · exact h.droppingPermit (h.auditResponseStatus _ _)
  · exact h.forwardResponse input response

/-- Handling an allowed target has the property. -/
lemma handleAllowedTarget (h : Composes X config P) (requestId : RequestId) (request : HttpRequest)
    (target : AllowedTarget) :
    P _ (Custode.handleAllowedTarget X config requestId request target) := by
  refine h.bind (h.expect _) ?_
  rintro (error | headers)
  · exact h.droppingPermit (h.auditDenialStatus _ _ _)
  · refine h.bind h.read ?_
    rintro (_ | error | body)
    · exact h.droppingPermit (h.auditDenialStatus _ _ _)
    · exact h.droppingPermit (h.auditDenialStatus _ _ _)
    · exact h.forwardRequest _

/-- Allocating a request identity has the property. -/
lemma allocateRequestId (h : Composes X config P) : P _ Custode.allocateRequestId := by
  refine h.bind (h.call .nextRequestId trivial) ?_
  rintro (error | requestId)
  · exact h.bind (h.reportFatalError _) fun _ => h.ret _
  · exact h.ret _

/-- Handling a request has the property. -/
lemma handleRequest (h : Composes X config P) (request : HttpRequest) :
    P _ (Custode.handleRequest X config request) := by
  refine h.bind h.allocateRequestId ?_
  rintro (error | requestId)
  · exact h.droppingPermit (h.ret _)
  · refine h.bind (h.acceptAllowedTarget _ _ _) ?_
    rintro (error | response | target)
    · exact h.droppingPermit (h.ret _)
    · exact h.droppingPermit (h.ret _)
    · exact h.handleAllowedTarget requestId request target

/-- Refusing a request has the property. -/
lemma rejectTooManyRequests (h : Composes X config P) (request : HttpRequest) :
    P _ (Custode.rejectTooManyRequests X config request) := by
  refine h.bind h.allocateRequestId ?_
  rintro (error | requestId)
  · exact h.ret _
  · refine h.bind (h.expect _) fun target => ?_
    refine h.bind (h.auditDenial _ _ _) ?_
    rintro (error | _)
    · exact h.bind (h.reportRequestFailure error) fun _ => h.ret _
    · exact h.ret _

/-- **Handlers** have the property. -/
theorem proxy (h : Composes X config P) (request : HttpRequest) :
    P _ (Custode.proxy X config request) := by
  refine h.bind (h.bind (h.call .loadAuditFailed trivial) ?_) ?_
  · rintro (_ | _)
    · exact h.ret _
    · exact h.ret _
  · rintro (error | _)
    · exact h.bind (h.reportFatalError error) fun _ => h.ret _
    · refine h.bind (h.call .tryAcquireOwned trivial) ?_
      rintro (_ | _)
      · exact h.rejectTooManyRequests request
      · refine h.bind (h.handleRequest request) ?_
        rintro (error | response)
        · exact h.reportRequestFailure error
        · exact h.ret _

end Composes

end Custode
