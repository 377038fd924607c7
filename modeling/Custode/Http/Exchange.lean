import Custode.Http.AuditCalls
import Custode.Http.Handler

/-!
# What stands behind an event of a handler

A handler appends the denial of its request, or how the send of its request failed, or that the
headers of the response were refused. The monitor here remembers what the handler has called and how
it was answered, and asks of each append that this is what happened.

* `DenialHolds`, `HandlerEvent` — what has happened when an event is appended; `Handover` — when a
  response task is spawned.
* `safe_exchange_proxy` — every handler appends and spawns only so, and sends nothing once it has
  appended.
-/

namespace Custode

open Found

section Statements

variable (X : Crates) (config : GatewayConfig) (request : HttpRequest)

/-- The denial is for what has happened: there was no permit, the target was refused, the headers
were, or the body could not be read. -/
inductive DenialHolds (tr : List (Event Call.Answer)) : AuditDenial → Prop
  | tooManyRequests {target : PreparsedAuditTarget} (full : ⟨.tryAcquireOwned, false⟩ ∈ tr)
      (read : PreparsedAuditTarget.fromRequestUri request.uri = some target) :
      DenialHolds tr (.tooManyRequests request.method target)
  | target {denial : AuditDenial}
      (decided : targetDecision config request.method request.uri = some (.error denial)) :
      DenialHolds tr denial
  | requestHeader {allowed : AllowedTarget} {error : HeaderError}
      (decided : targetDecision config request.method request.uri = some (.ok allowed))
      (refused : forwardRequestHeaders request.headers config.maxRequestHeaderBytes =
        some (.error error)) :
      DenialHolds tr (auditDenialFromRequestHeader request.method allowed.target error)
  | requestBody {allowed : AllowedTarget} {error : RequestBodyError}
      (decided : targetDecision config request.method request.uri = some (.ok allowed))
      (failed : ⟨.readRequest config.maxRequestBytes, some (.error error)⟩ ∈ tr) :
      DenialHolds tr (auditDenialFromRequestBody request.method allowed.target error)
  | requestBodyTimeout {allowed : AllowedTarget}
      (decided : targetDecision config request.method request.uri = some (.ok allowed))
      (elapsed : ⟨.readRequest config.maxRequestBytes, none⟩ ∈ tr) :
      DenialHolds tr (.requestBodyTimeout request.method (.fromAccepted allowed.target))

/-- The request was sent upstream for this target, with the body that was read, and this was
answered. -/
structure Exchanged (tr : List (Event Call.Answer)) (target : AllowedTarget) (body : AccountedBody)
    (sent : UpstreamRequest) (answer : Except UpstreamErrorKind UpstreamResponse) : Prop where
  read : ⟨.readRequest config.maxRequestBytes, some (.ok body)⟩ ∈ tr
  built : ∃ headers, sent = .fromTarget X target headers body config.requestTimeout
  started : ⟨.startSend sent, ()⟩ ∈ tr
  answered : ⟨.awaitSend, answer⟩ ∈ tr

/-- Nothing was sent upstream. -/
def Unsent (tr : List (Event Call.Answer)) : Prop := ∀ sent u, ⟨.startSend sent, u⟩ ∉ tr

/-- Nothing was appended. -/
def Unaudited (tr : List (Event Call.Answer)) : Prop := ∀ event r, ⟨.appendEvent event, r⟩ ∉ tr

/-- The event that a handler appends is of what has happened. -/
inductive HandlerEvent (tr : List (Event Call.Answer)) (event : AuditEvent) : Prop
  | denied {denial : AuditDenial} {requestId : RequestId} {timestamp : AuditTimestamp}
      (holds : DenialHolds config request tr denial) (unsent : Unsent tr)
      (built : AuditEvent.forDenial X denial requestId none config.upstreamOrigin timestamp =
        some event)
  | failed {target : AllowedTarget} {body : AccountedBody} {sent : UpstreamRequest}
      {kind : UpstreamErrorKind} {requestId : RequestId} {timestamp : AuditTimestamp}
      (exchanged : Exchanged X config tr target body sent (.error kind))
      (built : AuditEvent.forResponse X
        ⟨.upstreamError (auditUpstreamError kind), body, requestId, target⟩ timestamp = some event)
  | refused {target : AllowedTarget} {body : AccountedBody} {sent : UpstreamRequest}
      {response : UpstreamResponse} {error : HeaderError} {requestId : RequestId}
      {timestamp : AuditTimestamp}
      (exchanged : Exchanged X config tr target body sent (.ok response))
      (refused : forwardResponseHeaders response.headers config.maxResponseHeaderBytes =
        some (.error error))
      (built : AuditEvent.forResponse X
        ⟨.responseHeaderError (auditResponseHeaderError error), body, requestId, target⟩ timestamp =
          some event)

/-- The response task is spawned for the response that was answered. -/
def Handover (tr : List (Event Call.Answer)) (context : ResponseAuditContext)
    (response : UpstreamResponse) : Prop :=
  ∃ target body sent requestId, Exchanged X config tr target body sent (.ok response) ∧
    context = .initial config body requestId response.status target

/-- What a handler calls, after the events `tr`. -/
def ExchangeReady (tr : List (Event Call.Answer)) : Call → Prop
  | .startSend _ => Unaudited tr
  | .appendEvent event => HandlerEvent X config request tr event
  | .spawn context response => Handover X config tr context response
  | _ => True

/-- The events of a handler, as a monitor. -/
abbrev exchangeMonitor : Monitor Call.Answer (List (Event Call.Answer)) :=
  .recorder (ExchangeReady X config request)

end Statements

/-! ## Calls that append -/

/-- The calls that neither send, nor spawn, nor wait for an upstream item, and append only these
events. -/
def Call.AppendsOnly (built : AuditEvent → Prop) : Call → Prop
  | appendEvent event => built event
  | startSend _ | spawn _ _ | nextItem => False
  | _ => True

/-- Of these, the calls that append nothing. -/
abbrev Call.Quiet : Call → Prop := AppendsOnly fun _ => False

section Appends

variable {X : Crates} {config : GatewayConfig} {built : AuditEvent → Prop}

/-- One such call. -/
lemma makes_appendsOnly {op : Call} (h : op.AppendsOnly built) :
    (call op).Makes (Call.AppendsOnly built) :=
  Program.makes_perform.mpr h

/-- Closing the gate appends nothing. -/
lemma closeForwarding_appendsOnly : Gateway.closeForwarding.Makes (Call.AppendsOnly built) :=
  .bind (makes_appendsOnly trivial) fun _ => .bind (makes_appendsOnly trivial) fun _ =>
    .bind (makes_appendsOnly trivial) fun _ => makes_appendsOnly trivial

/-- The required append appends its event. -/
lemma appendRequiredAuditEvent_appendsOnly {event : AuditEvent} (h : built event) :
    (Gateway.appendRequiredAuditEvent event).Makes (Call.AppendsOnly built) := by
  refine .bind (makes_appendsOnly h) ?_
  rintro (error | _)
  · exact closeForwarding_appendsOnly.bind fun _ => Program.makes_ret
  · trivial

/-- Auditing a denial appends what was built of it. -/
lemma auditDenial_appendsOnly {requestId : RequestId} {denial : AuditDenial}
    {body : Option AccountedBody}
    (h : ∀ timestamp event, AuditEvent.forDenial X denial requestId body config.upstreamOrigin
      timestamp = some event → built event) :
    (Gateway.auditDenial X config requestId denial body).Makes (Call.AppendsOnly built) := by
  refine .bind (makes_appendsOnly trivial) fun timestamp => ?_
  rcases hevent : AuditEvent.forDenial X denial requestId body config.upstreamOrigin timestamp
    with _ | event
  · exact ⟨trivial, fun r => r.elim⟩
  · exact appendRequiredAuditEvent_appendsOnly (h timestamp event hevent)

/-- Auditing a response appends what was built of it. -/
lemma auditResponse_appendsOnly {input : ResponseAuditInput}
    (h : ∀ timestamp event, AuditEvent.forResponse X input timestamp = some event → built event) :
    (Gateway.auditResponse X input).Makes (Call.AppendsOnly built) := by
  unfold Gateway.auditResponse
  rcases hobserved : ObservedAuditRequestInput.new X input.target input.requestId input.requestBody
    with _ | observed
  · exact ⟨trivial, fun r => r.elim⟩
  · show (call .now >>= fun timestamp => _).Makes _
    refine .bind (makes_appendsOnly trivial) fun timestamp => ?_
    rcases hevent : AuditEvent.newAt X (input.outcome.eventInput observed) timestamp with _ | event
    · exact ⟨trivial, fun r => r.elim⟩
    · refine appendRequiredAuditEvent_appendsOnly (h timestamp event ?_)
      rw [AuditEvent.forResponse, hobserved]
      exact hevent

/-- Denying a request appends what was built of the denial. -/
lemma auditDenialStatus_appendsOnly {requestId : RequestId} {denial : AuditDenial}
    (h : ∀ timestamp event, AuditEvent.forDenial X denial requestId none config.upstreamOrigin
      timestamp = some event → built event) :
    (auditDenialStatus X config requestId denial none).Makes (Call.AppendsOnly built) := by
  refine .bind (auditDenial_appendsOnly h) ?_
  rintro (error | _)
  · trivial
  · trivial

/-- Answering with an audited status appends what was built of the input. -/
lemma auditResponseStatus_appendsOnly {input : ResponseAuditInput} {status : StatusCode}
    (h : ∀ timestamp event, AuditEvent.forResponse X input timestamp = some event → built event) :
    (auditResponseStatus X input status).Makes (Call.AppendsOnly built) := by
  refine .bind (auditResponse_appendsOnly h) ?_
  rintro (error | _)
  · trivial
  · trivial

/-- Reporting a fatal error appends nothing. -/
lemma reportFatalError_appendsOnly (error : GatewayError) :
    (reportFatalError error).Makes (Call.AppendsOnly built) :=
  makes_appendsOnly trivial

/-- Reporting a failed request appends nothing. -/
lemma reportRequestFailure_appendsOnly (error : GatewayError) :
    (reportRequestFailure error).Makes (Call.AppendsOnly built) := by
  rw [reportRequestFailure]
  split
  · exact .bind (reportFatalError_appendsOnly error) fun _ => Program.makes_ret
  · trivial

/-- The check at entry appends nothing. -/
lemma requireAuditAvailable_appendsOnly :
    Gateway.requireAuditAvailable.Makes (Call.AppendsOnly built) := by
  refine .bind (makes_appendsOnly trivial) ?_
  rintro (_ | _)
  · trivial
  · trivial

/-- Beginning to forward appends nothing. -/
lemma beginForwarding_appendsOnly : Gateway.beginForwarding.Makes (Call.AppendsOnly built) := by
  refine .bind (makes_appendsOnly trivial) fun _ => .bind requireAuditAvailable_appendsOnly ?_
  rintro (error | _)
  · exact .bind (makes_appendsOnly trivial) fun _ => Program.makes_ret
  · trivial

/-- Allocating a request identity appends nothing. -/
lemma allocateRequestId_appendsOnly : allocateRequestId.Makes (Call.AppendsOnly built) := by
  refine .bind (makes_appendsOnly trivial) ?_
  rintro (error | requestId)
  · exact .bind (reportFatalError_appendsOnly _) fun _ => Program.makes_ret
  · trivial

end Appends

/-! ## What stays true -/

section Stays

variable {X : Crates} {config : GatewayConfig} {request : HttpRequest}
  {tr tr' : List (Event Call.Answer)}

/-- What holds of a denial holds after more events. -/
lemma DenialHolds.mono {denial : AuditDenial} (h : DenialHolds config request tr denial)
    (hsub : tr ⊆ tr') : DenialHolds config request tr' denial := by
  cases h with
  | tooManyRequests full read => exact .tooManyRequests (hsub full) read
  | target decided => exact .target decided
  | requestHeader decided refused => exact .requestHeader decided refused
  | requestBody decided failed => exact .requestBody decided (hsub failed)
  | requestBodyTimeout decided elapsed => exact .requestBodyTimeout decided (hsub elapsed)

/-- An exchange has happened after more events as well. -/
lemma Exchanged.mono {target : AllowedTarget} {body : AccountedBody} {sent : UpstreamRequest}
    {answer : Except UpstreamErrorKind UpstreamResponse}
    (h : Exchanged X config tr target body sent answer) (hsub : tr ⊆ tr') :
    Exchanged X config tr' target body sent answer :=
  ⟨hsub h.read, h.built, hsub h.started, hsub h.answered⟩

/-- Nothing was sent or appended. -/
structure Fresh (tr : List (Event Call.Answer)) : Prop where
  unsent : Unsent tr
  unaudited : Unaudited tr

/-- At the start nothing was sent or appended. -/
lemma Fresh.nil : Fresh [] := ⟨fun _ _ => List.not_mem_nil, fun _ _ => List.not_mem_nil⟩

/-- Calls that append only do not send. -/
lemma Unsent.append {added : List (Event Call.Answer)} {built : AuditEvent → Prop} (h : Unsent tr)
    (hadded : ∀ e ∈ added, e.1.AppendsOnly built) : Unsent (tr ++ added) := by
  intro sent u hmem
  rcases List.mem_append.mp hmem with hmem | hmem
  · exact h sent u hmem
  · exact hadded _ hmem

/-- Quiet calls neither send nor append. -/
lemma Fresh.append {added : List (Event Call.Answer)} (h : Fresh tr)
    (hadded : ∀ e ∈ added, e.1.Quiet) : Fresh (tr ++ added) := by
  refine ⟨h.unsent.append hadded, fun event r hmem => ?_⟩
  rcases List.mem_append.mp hmem with hmem | hmem
  · exact h.unaudited event r hmem
  · exact hadded _ hmem

/-- One more quiet call. -/
lemma Fresh.snoc (h : Fresh tr) {e : Event Call.Answer} (he : e.1.Quiet) : Fresh (tr ++ [e]) :=
  h.append (List.forall_mem_singleton.mpr he)

end Stays

/-! ## The rules of the monitor -/

section Rules

variable {X : Crates} {config : GatewayConfig} {request : HttpRequest} {α β : Type}
  {tr : List (Event Call.Answer)}

/-- A quiet call is always ready. -/
lemma exchangeReady_of_quiet {op : Call} (h : op.Quiet) : ExchangeReady X config request tr op := by
  cases op <;> first | exact h.elim | trivial

/-- A program that is quiet comes first. -/
lemma safe_exchange_bind {p : Async α} {f : α → Async β}
    {Q : β → List (Event Call.Answer) → Prop} (h : p.Makes Call.Quiet)
    (hf : ∀ a added, (∀ e ∈ added, e.1.Quiet) →
      (exchangeMonitor X config request).Safe (f a) Q (tr ++ added)) :
    (exchangeMonitor X config request).Safe (p >>= f) Q tr := by
  rw [Monitor.safe_bind]
  refine (Monitor.safe_recorder_of_makes h fun _ _ _ => exchangeReady_of_quiet).mono ?_
  rintro a _ ⟨added, rfl, hadded⟩
  exact hf a added hadded

/-- A program that is quiet comes last. -/
lemma safe_exchange_then {p : Async α} {f : α → Async β}
    (h : (exchangeMonitor X config request).Safe p (fun _ _ => True) tr)
    (hf : ∀ a, (f a).Makes Call.Quiet) :
    (exchangeMonitor X config request).Safe (p >>= f) (fun _ _ => True) tr := by
  rw [Monitor.safe_bind]
  refine h.mono fun a _ _ => ?_
  exact (Monitor.safe_recorder_of_makes (hf a) fun _ _ _ => exchangeReady_of_quiet).mono
    fun _ _ _ => trivial

/-- A program appends only events of what has happened. -/
lemma safe_exchange_of_appendsOnly {built : AuditEvent → Prop} {p : Async α}
    (h : p.Makes (Call.AppendsOnly built))
    (hbuilt : ∀ added, (∀ e ∈ added, e.1.AppendsOnly built) → ∀ event, built event →
      HandlerEvent X config request (tr ++ added) event) :
    (exchangeMonitor X config request).Safe p (fun _ _ => True) tr := by
  refine (Monitor.safe_recorder_of_makes h ?_).mono fun _ _ _ => trivial
  intro added hadded op hop
  cases op with
  | appendEvent event => exact hbuilt added hadded event hop
  | startSend sent => exact hop.elim
  | spawn context response => exact hop.elim
  | _ => trivial

/-- A denial that holds is appended. -/
lemma safe_exchange_auditDenialStatus {denial : AuditDenial} {requestId : RequestId}
    (hfresh : Fresh tr) (hholds : DenialHolds config request tr denial) :
    (exchangeMonitor X config request).Safe (auditDenialStatus X config requestId denial none)
      (fun _ _ => True) tr := by
  have happends : (auditDenialStatus X config requestId denial none).Makes
      (Call.AppendsOnly fun event => ∃ timestamp, AuditEvent.forDenial X denial requestId none
        config.upstreamOrigin timestamp = some event) :=
    auditDenialStatus_appendsOnly fun timestamp _ h => ⟨timestamp, h⟩
  refine safe_exchange_of_appendsOnly happends ?_
  rintro added hadded event ⟨timestamp, hbuilt⟩
  exact .denied (hholds.mono (List.subset_append_left _ _)) (hfresh.unsent.append hadded) hbuilt

/-- How an exchange ended is appended. -/
lemma safe_exchange_auditResponseStatus {input : ResponseAuditInput} {status : StatusCode}
    (hbuilt : ∀ tr', tr ⊆ tr' → ∀ timestamp event, AuditEvent.forResponse X input timestamp =
      some event → HandlerEvent X config request tr' event) :
    (exchangeMonitor X config request).Safe (auditResponseStatus X input status) (fun _ _ => True)
      tr := by
  have happends : (auditResponseStatus X input status).Makes (Call.AppendsOnly fun event =>
      ∃ timestamp, AuditEvent.forResponse X input timestamp = some event) :=
    auditResponseStatus_appendsOnly fun timestamp _ h => ⟨timestamp, h⟩
  refine safe_exchange_of_appendsOnly happends ?_
  rintro added - event ⟨timestamp, hevent⟩
  exact hbuilt _ (List.subset_append_left _ _) timestamp event hevent

/-- Dropping the permit adds nothing. -/
lemma safe_exchange_droppingPermit {result : Async (Except GatewayError Response)}
    (h : (exchangeMonitor X config request).Safe result (fun _ _ => True) tr) :
    (exchangeMonitor X config request).Safe (droppingPermit result) (fun _ _ => True) tr :=
  safe_exchange_then h fun _ => .bind (makes_appendsOnly trivial) fun _ => Program.makes_ret

end Rules

/-! ## The handler -/

section Handler

variable {X : Crates} {config : GatewayConfig} {request : HttpRequest} {requestId : RequestId}
  {tr : List (Event Call.Answer)}

/-- A response is refused, or handed over to its task. -/
lemma safe_exchange_forwardResponse {input : ForwardRequestInput} {sent : UpstreamRequest}
    {response : UpstreamResponse}
    (h : Exchanged X config tr input.target input.requestBody sent (.ok response)) :
    (exchangeMonitor X config request).Safe (forwardResponse X config input response)
      (fun _ _ => True) tr := by
  unfold forwardResponse
  rcases hheaders : forwardResponseHeaders response.headers config.maxResponseHeaderBytes with
    _ | (error | headers)
  · exact ⟨trivial, fun r => r.elim⟩
  · refine safe_exchange_droppingPermit (safe_exchange_auditResponseStatus ?_)
    exact fun tr' hsub timestamp event hbuilt => .refused (h.mono hsub) hheaders hbuilt
  · refine ⟨⟨input.target, input.requestBody, sent, input.requestId, h, rfl⟩, fun _ => ?_⟩
    show (exchangeMonitor X config request).Safe (if _ then _ else _) _ _
    split
    · trivial
    · trivial

/-- A request is sent, and what is appended is how that ended. -/
lemma safe_exchange_forwardRequest {input : ForwardRequestInput} (hfresh : Fresh tr)
    (hread : ⟨.readRequest config.maxRequestBytes, some (.ok input.requestBody)⟩ ∈ tr) :
    (exchangeMonitor X config request).Safe (forwardRequest X config input) (fun _ _ => True)
      tr := by
  refine safe_exchange_bind beginForwarding_appendsOnly ?_
  rintro (error | _) added hadded
  · exact safe_exchange_droppingPermit trivial
  · refine ⟨(hfresh.append hadded).unaudited, fun _ => ⟨trivial, fun answer => ?_⟩⟩
    refine ⟨trivial, fun _ => ?_⟩
    have hexchanged : ∀ tr', tr ⊆ tr' → ⟨.startSend (.fromTarget X input.target input.requestHeaders
        input.requestBody config.requestTimeout), ()⟩ ∈ tr' → ⟨.awaitSend, answer⟩ ∈ tr' →
        Exchanged X config tr' input.target input.requestBody _ answer :=
      fun tr' hsub hsent hanswered => ⟨hsub hread, ⟨input.requestHeaders, rfl⟩, hsent, hanswered⟩
    cases answer with
    | error kind =>
        refine safe_exchange_droppingPermit (safe_exchange_auditResponseStatus ?_)
        intro tr' hsub timestamp event hbuilt
        refine .failed (Exchanged.mono (hexchanged _ ?_ ?_ ?_) hsub) hbuilt
        · simp [Monitor.recorder]
        · simp [Monitor.recorder]
        · simp [Monitor.recorder]
    | ok response =>
        refine safe_exchange_forwardResponse (hexchanged _ ?_ ?_ ?_)
        · simp [Monitor.recorder]
        · simp [Monitor.recorder]
        · simp [Monitor.recorder]

/-- A request for an allowed target is denied for what happened to it, or sent. -/
lemma safe_exchange_handleAllowedTarget {target : AllowedTarget} (hfresh : Fresh tr)
    (hdecided : targetDecision config request.method request.uri = some (.ok target)) :
    (exchangeMonitor X config request).Safe (handleAllowedTarget X config requestId request target)
      (fun _ _ => True) tr := by
  unfold handleAllowedTarget
  rcases hheaders : forwardRequestHeaders request.headers config.maxRequestHeaderBytes with
    _ | (error | headers)
  · exact ⟨trivial, fun r => r.elim⟩
  · exact safe_exchange_droppingPermit
      (safe_exchange_auditDenialStatus hfresh (.requestHeader hdecided hheaders))
  · refine ⟨trivial, ?_⟩
    rintro (_ | error | body)
    · exact safe_exchange_droppingPermit (safe_exchange_auditDenialStatus (hfresh.snoc trivial)
        (.requestBodyTimeout hdecided (List.mem_append_right _ (List.mem_singleton_self _))))
    · exact safe_exchange_droppingPermit (safe_exchange_auditDenialStatus (hfresh.snoc trivial)
        (.requestBody hdecided (List.mem_append_right _ (List.mem_singleton_self _))))
    · exact safe_exchange_forwardRequest (hfresh.snoc trivial)
        (List.mem_append_right _ (List.mem_singleton_self _))

/-- A request with a permit is denied for its target, or goes on. -/
lemma safe_exchange_handleRequest (hfresh : Fresh tr) :
    (exchangeMonitor X config request).Safe (handleRequest X config request) (fun _ _ => True)
      tr := by
  refine safe_exchange_bind allocateRequestId_appendsOnly ?_
  rintro (error | requestId) added hadded
  · exact safe_exchange_droppingPermit trivial
  · dsimp only
    unfold acceptAllowedTarget
    rcases hdecision : targetDecision config request.method request.uri with _ | (denial | target)
    · exact ⟨trivial, fun r => r.elim⟩
    · rw [Monitor.safe_bind]
      show (exchangeMonitor X config request).Safe
        (rejectAllowedTarget X config requestId denial) _ _
      rw [rejectAllowedTarget, Monitor.safe_bind]
      have hdenied : (exchangeMonitor X config request).Safe
          (auditDenialStatus X config requestId denial none) (fun _ _ => True) (tr ++ added) :=
        safe_exchange_auditDenialStatus (hfresh.append hadded) (.target hdecision)
      refine hdenied.mono ?_
      rintro (error | response) tr' -
      · exact safe_exchange_droppingPermit trivial
      · exact safe_exchange_droppingPermit trivial
    · exact safe_exchange_handleAllowedTarget (hfresh.append hadded) hdecision

/-- A request without a permit is denied for that. -/
lemma safe_exchange_rejectTooManyRequests (hfresh : Fresh tr)
    (hfull : ⟨.tryAcquireOwned, false⟩ ∈ tr) :
    (exchangeMonitor X config request).Safe (rejectTooManyRequests X config request)
      (fun _ _ => True) tr := by
  refine safe_exchange_bind allocateRequestId_appendsOnly ?_
  rintro (error | requestId) added hadded
  · trivial
  · dsimp only
    rcases htarget : PreparsedAuditTarget.fromRequestUri request.uri with _ | target
    · exact ⟨trivial, fun r => r.elim⟩
    · show (exchangeMonitor X config request).Safe (Gateway.auditDenial X config requestId
        (.tooManyRequests request.method target) none >>= _) _ _
      refine safe_exchange_then ?_ ?_
      · have happends : (Gateway.auditDenial X config requestId
            (.tooManyRequests request.method target) none).Makes (Call.AppendsOnly fun event =>
              ∃ timestamp, AuditEvent.forDenial X (.tooManyRequests request.method target)
                requestId none config.upstreamOrigin timestamp = some event) :=
          auditDenial_appendsOnly fun timestamp _ h => ⟨timestamp, h⟩
        refine safe_exchange_of_appendsOnly happends ?_
        rintro added' hadded' event ⟨timestamp, hbuilt⟩
        refine .denied (.tooManyRequests ?_ htarget) ?_ hbuilt
        · exact List.mem_append_left _ (List.mem_append_left _ hfull)
        · exact (hfresh.append hadded).unsent.append hadded'
      · rintro (error | _)
        · exact .bind (reportRequestFailure_appendsOnly error) fun _ => Program.makes_ret
        · trivial

/-- **Handlers** append events of what has happened, and send nothing after that. -/
theorem safe_exchange_proxy (X : Crates) (config : GatewayConfig) (request : HttpRequest) :
    (exchangeMonitor X config request).Safe (proxy X config request) (fun _ _ => True) [] := by
  refine safe_exchange_bind requireAuditAvailable_appendsOnly ?_
  rintro (error | _) added hadded
  · exact ⟨trivial, fun _ => trivial⟩
  · have hfresh := Fresh.nil.append hadded
    refine ⟨trivial, ?_⟩
    rintro (_ | _)
    · exact safe_exchange_rejectTooManyRequests (hfresh.snoc trivial)
        (List.mem_append_right _ (List.mem_singleton_self _))
    · show (exchangeMonitor X config request).Safe (handleRequest X config request >>= _) _ _
      refine safe_exchange_then (safe_exchange_handleRequest ?_) ?_
      · exact hfresh.snoc trivial
      · rintro (error | response)
        · exact reportRequestFailure_appendsOnly error
        · trivial

end Handler

end Custode
