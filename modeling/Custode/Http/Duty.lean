import Custode.Audit.ReadBack
import Custode.Http.AuditCalls
import Custode.Http.Handler

/-!
# What a handler and a response task owe

A request has one identity, and one event is to be appended for it: by its handler, or by the
response task that the handler hands it over to. `Duty` follows a party through this. It is
discharged by the one append or by the one spawn, and everything else that a party does leaves it
alone.

* `safe_duty_proxy`, `safe_duty_task` — a handler and a response task append only while they owe an
  event, under the identity of their request, and only what the gateway decided for it (`Decided`).
-/

namespace Custode

open Found

/-- What a party still owes for its request. -/
inductive Duty where
  /-- The handler owes an event, under this identity once it has one. -/
  | handling (requestId : Option RequestId)
  /-- The response task has not started. -/
  | waiting
  /-- The response task owes an event. -/
  | responding (context : ResponseAuditContext)
  /-- This event was appended, or the request was handed over. -/
  | discharged (appended : Option AuditEvent)

namespace Duty

/-- The duty after one more call. -/
def observe : Duty → Event Call.Answer → Duty
  | discharged appended, _ => discharged appended
  | handling _, ⟨.nextRequestId, .ok requestId⟩ => handling (some requestId)
  | waiting, ⟨.started, (context, _)⟩ => responding context
  | _, ⟨.appendEvent event, _⟩ => discharged (some event)
  | _, ⟨.spawn _ _, _⟩ => discharged none
  | duty, _ => duty

end Duty

/-- The calls that leave every duty alone. -/
def Call.KeepsDuty : Call → Prop
  | nextRequestId | started | appendEvent _ | spawn _ _ => False
  | _ => True

/-- The calls that a party makes under a duty. -/
inductive Duty.Ready (X : Crates) (config : GatewayConfig) (request : HttpRequest) :
    Duty → Call → Prop
  | allocate : Ready X config request (handling none) .nextRequestId
  | start : Ready X config request waiting .started
  | append {requestId : RequestId} {event : AuditEvent} (identity : event.requestId = requestId)
      (decided : Decided X config request event) :
      Ready X config request (handling (some requestId)) (.appendEvent event)
  | spawn {context : ResponseAuditContext} {response : UpstreamResponse}
      (decided : targetDecision config request.method request.uri = some (.ok context.target)) :
      Ready X config request (handling (some context.requestId)) (.spawn context response)
  | respond {context : ResponseAuditContext} {event : AuditEvent} {input : ResponseAuditInput}
      {timestamp : AuditTimestamp} (identity : event.requestId = context.requestId)
      (target : input.target = context.target)
      (built : AuditEvent.forResponse X input timestamp = some event) :
      Ready X config request (responding context) (.appendEvent event)
  | other {duty : Duty} {op : Call} (keeps : op.KeepsDuty) : Ready X config request duty op

variable {X : Crates} {config : GatewayConfig} {request : HttpRequest}

variable (X config request) in
/-- Follows the duty of a party of this request. -/
def dutyMonitor : Monitor Call.Answer Duty := ⟨Duty.observe, Duty.Ready X config request⟩

/-! ## Calls that leave the duty alone -/

section Keeps

variable {duty : Duty}

/-- Such a call leaves the duty as it is. -/
lemma Duty.observe_keeps {op : Call} (h : op.KeepsDuty) (r : op.Answer) :
    duty.observe ⟨op, r⟩ = duty := by
  cases op <;> first | exact h.elim | (cases duty <;> rfl)

/-- A function that leaves the duty alone. -/
lemma safe_duty_of_keeps {α : Type} {p : Async α} (h : p.Makes Call.KeepsDuty) :
    (dutyMonitor X config request).Safe p (fun _ duty' => duty' = duty) duty :=
  Monitor.safe_of_makes h (fun _ hop => .other hop) (fun _ r hop => Duty.observe_keeps hop r)

/-- It may come first. -/
lemma safe_duty_bind {α β : Type} {p : Async α} {f : α → Async β} {Q : β → Duty → Prop}
    (h : p.Makes Call.KeepsDuty) (hf : ∀ a, (dutyMonitor X config request).Safe (f a) Q duty) :
    (dutyMonitor X config request).Safe (p >>= f) Q duty := by
  rw [Monitor.safe_bind]
  apply (safe_duty_of_keeps h).mono
  rintro a _ rfl
  exact hf a

/-- It may come last. -/
lemma safe_duty_then {α β : Type} {p : Async α} {f : α → Async β}
    (h : (dutyMonitor X config request).Safe p (fun _ _ => True) duty)
    (hf : ∀ a, (f a).Makes Call.KeepsDuty) :
    (dutyMonitor X config request).Safe (p >>= f) (fun _ _ => True) duty := by
  rw [Monitor.safe_bind]
  apply h.mono
  intro a duty' _
  exact (safe_duty_of_keeps (hf a)).mono fun _ _ _ => trivial

/-- Such a call alone. -/
lemma makes_keeps {op : Call} (h : op.KeepsDuty) : (call op).Makes Call.KeepsDuty :=
  Program.makes_perform.mpr h

/-- Expecting a value leaves every duty alone. -/
lemma keeps_expect {α : Type} (value : Option α) : (expect value).Makes Call.KeepsDuty :=
  makes_expect trivial value

/-- Closing the gate leaves every duty alone. -/
lemma keeps_closeForwarding : Gateway.closeForwarding.Makes Call.KeepsDuty :=
  .bind (makes_keeps trivial) fun _ => .bind (makes_keeps trivial) fun _ =>
    .bind (makes_keeps trivial) fun _ => makes_keeps trivial

/-- The check at entry leaves every duty alone. -/
lemma keeps_requireAuditAvailable : Gateway.requireAuditAvailable.Makes Call.KeepsDuty := by
  refine .bind (makes_keeps trivial) ?_
  rintro (_ | _)
  · trivial
  · trivial

/-- Beginning to forward leaves every duty alone. -/
lemma keeps_beginForwarding : Gateway.beginForwarding.Makes Call.KeepsDuty := by
  refine .bind (makes_keeps trivial) fun _ => .bind keeps_requireAuditAvailable ?_
  rintro (error | _)
  · exact .bind (makes_keeps trivial) fun _ => trivial
  · trivial

/-- Reporting a failed request leaves every duty alone. -/
lemma keeps_reportRequestFailure (error : GatewayError) :
    (reportRequestFailure error).Makes Call.KeepsDuty := by
  rw [reportRequestFailure]
  split
  · exact .bind (makes_reportFatalError trivial) fun _ => trivial
  · trivial

end Keeps

/-! ## Auditing -/

/-- An event has the identity it was built with. -/
lemma requestId_newAt {input : AuditEventInput} {timestamp : AuditTimestamp} {event : AuditEvent}
    (h : AuditEvent.newAt X input timestamp = some event) :
    event.requestId = input.request.requestId := by
  obtain ⟨method, -, rfl⟩ := Option.map_eq_some_iff.mp h
  rfl

/-- The event of a response has the identity of the request. -/
lemma requestId_forResponse {input : ResponseAuditInput} {timestamp : AuditTimestamp}
    {event : AuditEvent} (h : AuditEvent.forResponse X input timestamp = some event) :
    event.requestId = input.requestId := by
  obtain ⟨observed, hobserved, hevent⟩ := Option.bind_eq_some_iff.mp h
  rw [requestId_newAt hevent, (eventParts_of_concludes (input.outcome.concludes observed)).1,
    request_of_new hobserved]

/-- A party that owes the event appends it. -/
lemma safe_duty_append {duty : Duty} {event : AuditEvent}
    (h : Duty.Ready X config request duty (.appendEvent event)) :
    (dutyMonitor X config request).Safe (Gateway.appendRequiredAuditEvent event)
      (fun _ _ => True) duty := by
  refine ⟨h, ?_⟩
  rintro (error | _)
  · exact (safe_duty_of_keeps (keeps_closeForwarding.bind fun _ => Program.makes_ret)).mono
      fun _ _ _ => trivial
  · trivial

/-- Auditing a denial appends for the request that was denied. -/
lemma safe_duty_auditDenial {requestId : RequestId} {denial : AuditDenial}
    (h : RecordableDenial config request.method request.uri denial) :
    (dutyMonitor X config request).Safe (Gateway.auditDenial X config requestId denial none)
      (fun _ _ => True) (.handling (some requestId)) := by
  refine safe_duty_bind (makes_keeps trivial) fun timestamp => ?_
  rcases hevent : AuditEvent.forDenial X denial requestId none config.upstreamOrigin timestamp
    with _ | event
  · exact ⟨.other trivial, fun r => r.elim⟩
  · exact safe_duty_append (.append (requestId_newAt hevent) (.denied h hevent))

/-- The event of an exchange is appended by whoever owes it. -/
lemma safe_duty_auditResponse {duty : Duty} {input : ResponseAuditInput}
    (h : ∀ event timestamp, AuditEvent.forResponse X input timestamp = some event →
      Duty.Ready X config request duty (.appendEvent event)) :
    (dutyMonitor X config request).Safe (Gateway.auditResponse X input) (fun _ _ => True) duty := by
  unfold Gateway.auditResponse
  rcases hobserved : ObservedAuditRequestInput.new X input.target input.requestId input.requestBody
    with _ | observed
  · exact ⟨.other trivial, fun r => r.elim⟩
  · change (dutyMonitor X config request).Safe (call .now >>= fun timestamp => _) _ _
    refine safe_duty_bind (makes_keeps trivial) fun timestamp => ?_
    rcases hevent : AuditEvent.newAt X (input.outcome.eventInput observed) timestamp with _ | event
    · exact ⟨.other trivial, fun r => r.elim⟩
    · refine safe_duty_append (h event timestamp ?_)
      rw [AuditEvent.forResponse, hobserved]
      exact hevent

/-! ## The response task -/

/-- The calls of the stream leave every duty alone. -/
lemma Call.StreamsBody.keepsDuty {op : Call} (h : op.StreamsBody) : op.KeepsDuty := by
  cases op <;> first | exact h.elim | trivial

/-- Sending the terminal error leaves every duty alone. -/
lemma keeps_sendTerminalStreamError : sendTerminalStreamError.Makes Call.KeepsDuty :=
  .bind (makes_keeps trivial) fun _ => trivial

section Task

variable {context : ResponseAuditContext}

/-- A task that owes the event audits how its stream ended. -/
lemma safe_duty_auditAfterResponseStarted (account : ResponseAccount)
    (outcome : ResponseStreamOutcome) :
    (dutyMonitor X config request).Safe
      (ResponseAuditContext.auditAfterResponseStarted X { context with responseAccount := account }
        outcome) (fun _ _ => True) (.responding context) := by
  unfold ResponseAuditContext.auditAfterResponseStarted
  split
  · trivial
  · refine safe_duty_then (safe_duty_auditResponse fun event timestamp hevent => ?_) ?_
    · exact .respond (requestId_forResponse hevent) rfl hevent
    · rintro (error | _)
      · exact .bind (makes_reportFatalError trivial) fun _ => trivial
      · trivial

/-- The end of an aborted stream appends for the request that is answered. -/
lemma safe_duty_handleResponseStreamAbort (account : ResponseAccount)
    (abort : ResponseStreamAbort) :
    (dutyMonitor X config request).Safe
      (handleResponseStreamAbort X { context with responseAccount := account } abort)
      (fun _ _ => True) (.responding context) := by
  refine safe_duty_then (safe_duty_auditAfterResponseStarted account abort.outcome) ?_
  rintro ⟨result, _⟩
  split
  · exact .bind (makes_keeps trivial) fun _ => trivial
  · trivial

/-- The conclusion of a stream appends for the request that is answered. -/
lemma safe_duty_concludeStream (account : ResponseAccount)
    (result : Except Interrupt ResponseStreamCompletion) :
    (dutyMonitor X config request).Safe
      (concludeStream X { context with responseAccount := account } result) (fun _ _ => True)
      (.responding context) := by
  rcases result with (_ | _) | (abort | _ | finalChunk)
  · exact (safe_duty_of_keeps keeps_sendTerminalStreamError).mono fun _ _ _ => trivial
  · exact safe_duty_handleResponseStreamAbort account _
  · exact safe_duty_handleResponseStreamAbort account _
  · refine safe_duty_then (safe_duty_auditAfterResponseStarted account _) ?_
    rintro ⟨_ | _, _⟩
    · exact keeps_sendTerminalStreamError
    · trivial
  · refine safe_duty_then (safe_duty_auditAfterResponseStarted account _) ?_
    rintro ⟨_ | _, _⟩
    · exact .bind (makes_keeps trivial) fun _ => keeps_sendTerminalStreamError
    · exact makes_keeps trivial

/-- **Response tasks** append once, under the identity in their context. -/
theorem safe_duty_task (config : GatewayConfig) (request : HttpRequest) :
    (dutyMonitor X config request).Safe (do
        let (context, response) ← call .started
        responseTask X context response)
      (fun _ _ => True) .waiting := by
  refine ⟨.start, ?_⟩
  rintro ⟨context, response⟩
  change (dutyMonitor X config request).Safe (responseTask X context response) _
    (.responding context)
  refine safe_duty_bind ((makes_streamUpstreamResponse _ _ _).mono fun _ h => h.keepsDuty) ?_
  rintro ⟨account, result⟩
  exact safe_duty_then (safe_duty_concludeStream account result) fun _ => makes_keeps trivial

end Task

/-! ## The handler -/

section Handler

variable {requestId : RequestId}

/-- Dropping the permit adds nothing to a duty. -/
lemma safe_duty_droppingPermit {duty : Duty} {result : Async (Except GatewayError Response)}
    (h : (dutyMonitor X config request).Safe result (fun _ _ => True) duty) :
    (dutyMonitor X config request).Safe (droppingPermit result) (fun _ _ => True) duty :=
  safe_duty_then h fun _ => .bind (makes_keeps trivial) fun _ => trivial

/-- Denying a request appends for the request. -/
lemma safe_duty_auditDenialStatus {denial : AuditDenial}
    (h : RecordableDenial config request.method request.uri denial) :
    (dutyMonitor X config request).Safe (auditDenialStatus X config requestId denial none)
      (fun _ _ => True) (.handling (some requestId)) := by
  refine safe_duty_then (safe_duty_auditDenial h) ?_
  rintro (error | _)
  · trivial
  · trivial

/-- Answering with an audited status appends for the request. -/
lemma safe_duty_auditResponseStatus {input : ResponseAuditInput} (status : StatusCode)
    (hid : input.requestId = requestId)
    (hdecided : targetDecision config request.method request.uri = some (.ok input.target)) :
    (dutyMonitor X config request).Safe (auditResponseStatus X input status) (fun _ _ => True)
      (.handling (some requestId)) := by
  refine safe_duty_then (safe_duty_auditResponse fun event timestamp hevent => ?_) ?_
  · exact .append ((requestId_forResponse hevent).trans hid) (.response hdecided hevent)
  · rintro (error | _)
    · trivial
    · trivial

/-- A handler that goes on with an allowed target still owes its event. -/
lemma safe_duty_acceptAllowedTarget :
    (dutyMonitor X config request).Safe
      (acceptAllowedTarget X config requestId request.method request.uri)
      (fun result duty => ∀ target, result = .ok (.ok target) →
        duty = .handling (some requestId) ∧
          targetDecision config request.method request.uri = some (.ok target))
      (.handling (some requestId)) := by
  unfold acceptAllowedTarget
  rcases hdecision : targetDecision config request.method request.uri with _ | (denial | target)
  · exact absurd hdecision (targetDecision_ne_none _ _ _)
  · change (dutyMonitor X config request).Safe (rejectAllowedTarget X config requestId denial) _ _
    rw [rejectAllowedTarget, Monitor.safe_bind]
    apply (safe_duty_auditDenialStatus (.target hdecision)).mono
    rintro (error | response) duty -
    · exact nofun
    · exact nofun
  · rintro _ ⟨⟩
    exact ⟨rfl, rfl⟩

/-- Forwarding the response appends for the request or hands its duty over. -/
lemma safe_duty_forwardResponse {input : ForwardRequestInput} (hid : input.requestId = requestId)
    (hdecided : targetDecision config request.method request.uri = some (.ok input.target))
    (response : UpstreamResponse) :
    (dutyMonitor X config request).Safe (forwardResponse X config input response)
      (fun _ _ => True) (.handling (some requestId)) := by
  refine safe_duty_bind (keeps_expect _) ?_
  rintro (error | headers)
  · exact safe_duty_droppingPermit (safe_duty_auditResponseStatus _ hid hdecided)
  · subst hid
    let context := ResponseAuditContext.initial config input.requestBody input.requestId
      response.status input.target
    have hready : Duty.Ready X config request (.handling (some context.requestId))
        (.spawn context response) := .spawn hdecided
    refine ⟨hready, fun _ => ?_⟩
    change (dutyMonitor X config request).Safe (if _ then _ else _) _ _
    split
    · trivial
    · trivial

/-- Forwarding the request appends for it or hands its duty over. -/
lemma safe_duty_forwardRequest {input : ForwardRequestInput} (hid : input.requestId = requestId)
    (hdecided : targetDecision config request.method request.uri = some (.ok input.target)) :
    (dutyMonitor X config request).Safe (forwardRequest X config input) (fun _ _ => True)
      (.handling (some requestId)) := by
  refine safe_duty_bind keeps_beginForwarding ?_
  rintro (error | _)
  · exact safe_duty_droppingPermit trivial
  · refine safe_duty_bind (makes_keeps trivial) fun _ => ?_
    refine safe_duty_bind (makes_keeps trivial) fun upstreamResult => ?_
    refine safe_duty_bind (makes_keeps trivial) fun _ => ?_
    rcases upstreamResult with error | response
    · exact safe_duty_droppingPermit (safe_duty_auditResponseStatus _ hid hdecided)
    · exact safe_duty_forwardResponse hid hdecided response

/-- Handling an allowed target appends for the request or hands its duty over. -/
lemma safe_duty_handleAllowedTarget {target : AllowedTarget}
    (hdecided : targetDecision config request.method request.uri = some (.ok target)) :
    (dutyMonitor X config request).Safe (handleAllowedTarget X config requestId request target)
      (fun _ _ => True) (.handling (some requestId)) := by
  refine safe_duty_bind (keeps_expect _) ?_
  rintro (error | headers)
  · exact safe_duty_droppingPermit (safe_duty_auditDenialStatus (.requestHeader hdecided error))
  · refine safe_duty_bind (makes_keeps trivial) ?_
    rintro (_ | error | body)
    · exact safe_duty_droppingPermit (safe_duty_auditDenialStatus (.requestBodyTimeout hdecided))
    · exact safe_duty_droppingPermit
        (safe_duty_auditDenialStatus (.requestBody hdecided error))
    · exact safe_duty_forwardRequest rfl hdecided

/-- An identity is allocated once; the handler goes on with it. -/
lemma safe_duty_allocateRequestId {α : Type} {f : Except GatewayError RequestId → Async α}
    {Q : α → Duty → Prop}
    (hok : ∀ requestId, (dutyMonitor X config request).Safe (f (.ok requestId)) Q
      (.handling (some requestId)))
    (herror : ∀ error, (dutyMonitor X config request).Safe (f (.error error)) Q (.handling none)) :
    (dutyMonitor X config request).Safe (allocateRequestId >>= f) Q (.handling none) := by
  refine ⟨.allocate, ?_⟩
  rintro (error | requestId)
  · exact ⟨.other trivial, fun _ => herror _⟩
  · exact hok requestId

/-- Handling a request allocates its identity before anything is appended for it. -/
lemma safe_duty_handleRequest :
    (dutyMonitor X config request).Safe (handleRequest X config request) (fun _ _ => True)
      (.handling none) := by
  refine safe_duty_allocateRequestId (fun requestId => ?_) fun error => ?_
  · dsimp only
    rw [Monitor.safe_bind]
    apply safe_duty_acceptAllowedTarget.mono
    rintro (error | response | target) duty hduty
    · exact safe_duty_droppingPermit trivial
    · exact safe_duty_droppingPermit trivial
    · obtain ⟨rfl, hdecided⟩ := hduty target rfl
      exact safe_duty_handleAllowedTarget hdecided
  · exact safe_duty_droppingPermit trivial

/-- Refusing a request allocates its identity before anything is appended for it. -/
lemma safe_duty_rejectTooManyRequests :
    (dutyMonitor X config request).Safe (rejectTooManyRequests X config request) (fun _ _ => True)
      (.handling none) := by
  refine safe_duty_allocateRequestId (fun requestId => ?_) fun error => trivial
  rcases htarget : PreparsedAuditTarget.fromRequestUri request.uri with _ | target
  · exact absurd htarget (PreparsedAuditTarget.fromRequestUri_ne_none _)
  · change (dutyMonitor X config request).Safe (Gateway.auditDenial X config requestId
      (.tooManyRequests request.method target) none >>= _) _ _
    refine safe_duty_then (safe_duty_auditDenial (.tooManyRequests htarget)) ?_
    rintro (error | _)
    · exact .bind (keeps_reportRequestFailure error) fun _ => trivial
    · trivial

/-- **Handlers** append once, under the identity that was allocated for the request. -/
theorem safe_duty_proxy (config : GatewayConfig) (request : HttpRequest) :
    (dutyMonitor X config request).Safe (proxy X config request) (fun _ _ => True)
      (.handling none) := by
  refine safe_duty_bind keeps_requireAuditAvailable ?_
  rintro (error | _)
  · exact ⟨.other trivial, fun _ => trivial⟩
  · refine safe_duty_bind (makes_keeps trivial) ?_
    rintro (_ | _)
    · exact safe_duty_rejectTooManyRequests
    · refine safe_duty_then safe_duty_handleRequest ?_
      rintro (error | response)
      · exact keeps_reportRequestFailure error
      · trivial

end Handler

/-! ## What a duty says about the past -/

section Past

variable {tr : List (Event Call.Answer)}

/-- The duty after the events of a run. -/
def Duty.after (duty : Duty) (tr : List (Event Call.Answer)) : Duty := tr.foldl Duty.observe duty

/-- The duty after one more event. -/
lemma Duty.after_snoc (duty : Duty) (tr : List (Event Call.Answer)) (e : Event Call.Answer) :
    duty.after (tr ++ [e]) = (duty.after tr).observe e := by
  rw [Duty.after, List.foldl_append]
  rfl

/-- The duty after an event and what follows it. -/
lemma Duty.after_cons_append (duty : Duty) (pre post : List (Event Call.Answer))
    (e : Event Call.Answer) :
    duty.after (pre ++ e :: post) = ((duty.after pre).observe e).after post := by
  rw [Duty.after, List.foldl_append]
  rfl

/-- A duty is discharged once. -/
lemma Duty.after_discharged (appended : Option AuditEvent) (tr : List (Event Call.Answer)) :
    (Duty.discharged appended).after tr = .discharged appended := by
  induction tr with
  | nil => rfl
  | cons e tr ih => exact ih

/-- What one answered call does to a duty. -/
lemma Duty.observe_cases (duty : Duty) (e : Event Call.Answer) :
    duty.observe e = duty ∨
      (∃ before requestId, duty = .handling before ∧ e = ⟨.nextRequestId, .ok requestId⟩ ∧
        duty.observe e = .handling (some requestId)) ∨
      (∃ context response, duty = .waiting ∧ e = ⟨.started, (context, response)⟩ ∧
        duty.observe e = .responding context) ∨
      ∃ appended, duty.observe e = .discharged appended := by
  obtain ⟨op, r⟩ := e
  cases duty with
  | discharged appended => exact .inl rfl
  | handling before =>
      cases op with
      | nextRequestId =>
          rcases r with error | requestId
          · exact .inl rfl
          · exact .inr (.inl ⟨before, requestId, rfl, rfl, rfl⟩)
      | appendEvent event => exact .inr (.inr (.inr ⟨_, rfl⟩))
      | spawn context response => exact .inr (.inr (.inr ⟨_, rfl⟩))
      | _ => exact .inl rfl
  | waiting =>
      cases op with
      | started => exact .inr (.inr (.inl ⟨r.1, r.2, rfl, rfl, rfl⟩))
      | appendEvent event => exact .inr (.inr (.inr ⟨_, rfl⟩))
      | spawn context response => exact .inr (.inr (.inr ⟨_, rfl⟩))
      | _ => exact .inl rfl
  | responding context =>
      cases op with
      | appendEvent event => exact .inr (.inr (.inr ⟨_, rfl⟩))
      | spawn context response => exact .inr (.inr (.inr ⟨_, rfl⟩))
      | _ => exact .inl rfl

/-- A handler that still owes its event under an identity was given that identity. -/
lemma handler_duty (tr : List (Event Call.Answer)) :
    (∃ requestId, Duty.after (.handling none) tr = .handling requestId ∧
        ∀ id ∈ requestId, ⟨.nextRequestId, .ok id⟩ ∈ tr) ∨
      ∃ appended, Duty.after (.handling none) tr = .discharged appended := by
  induction tr using List.reverseRecOn with
  | nil => exact .inl ⟨none, rfl, nofun⟩
  | append_singleton tr e ih =>
      rw [Duty.after_snoc]
      rcases ih with ⟨requestId, hduty, hgiven⟩ | ⟨appended, hduty⟩
      · rw [hduty]
        rcases Duty.observe_cases (.handling requestId) e with
          hsame | ⟨before, id, -, rfl, hnow⟩ | ⟨_, _, hwaiting, -⟩ | ⟨appended, hdone⟩
        · exact .inl ⟨requestId, hsame, fun id hid => List.mem_append_left _ (hgiven id hid)⟩
        · refine .inl ⟨some id, hnow, ?_⟩
          rintro _ ⟨⟩
          exact List.mem_append_right _ (List.mem_singleton_self _)
        · cases hwaiting
        · exact .inr ⟨appended, hdone⟩
      · rw [hduty]
        exact .inr ⟨appended, rfl⟩

/-- A response task that owes its event was started with its context. -/
lemma task_duty (tr : List (Event Call.Answer)) :
    Duty.after .waiting tr = .waiting ∨
      (∃ context response, Duty.after .waiting tr = .responding context ∧
        ⟨.started, (context, response)⟩ ∈ tr) ∨
      ∃ appended, Duty.after .waiting tr = .discharged appended := by
  induction tr using List.reverseRecOn with
  | nil => exact .inl rfl
  | append_singleton tr e ih =>
      rw [Duty.after_snoc]
      rcases ih with hduty | ⟨context, response, hduty, hstarted⟩ | ⟨appended, hduty⟩
      · rw [hduty]
        rcases Duty.observe_cases .waiting e with
          hsame | ⟨_, _, hhandling, -⟩ | ⟨context, response, -, rfl, hnow⟩ | ⟨appended, hdone⟩
        · exact .inl hsame
        · cases hhandling
        · exact .inr (.inl ⟨context, response, hnow,
            List.mem_append_right _ (List.mem_singleton_self _)⟩)
        · exact .inr (.inr ⟨appended, hdone⟩)
      · rw [hduty]
        rcases Duty.observe_cases (.responding context) e with
          hsame | ⟨_, _, hhandling, -⟩ | ⟨_, _, hwaiting, -⟩ | ⟨appended, hdone⟩
        · exact .inr (.inl ⟨context, response, hsame, List.mem_append_left _ hstarted⟩)
        · cases hhandling
        · cases hwaiting
        · exact .inr (.inr ⟨appended, hdone⟩)
      · rw [hduty]
        exact .inr (.inr ⟨appended, rfl⟩)

/-- What is ready to append owes an event, and has discharged itself by it afterwards. -/
lemma Duty.Ready.append_cases {duty : Duty} {event : AuditEvent}
    (h : duty.Ready X config request (.appendEvent event)) :
    (duty = .handling (some event.requestId) ∧ Decided X config request event) ∨
      ∃ context input timestamp, duty = .responding context ∧
        event.requestId = context.requestId ∧ input.target = context.target ∧
        AuditEvent.forResponse X input timestamp = some event := by
  cases h with
  | append identity decided => exact .inl ⟨identity ▸ rfl, decided⟩
  | respond identity target built => exact .inr ⟨_, _, _, rfl, identity, target, built⟩
  | other keeps => exact keeps.elim

end Past

end Custode
