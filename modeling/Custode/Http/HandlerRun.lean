import Custode.Http.Handler
import Custode.Ledger

/-!
# What the handler of a request does

Every run of `proxy` is described by its ledger.

* `requestRules` — what holds whenever the handler comes to an append, to the reading of the body,
  to the upstream send or to the spawning of the response task; `RequestInv` — what holds after
  every event.
* `HandlerExit` — the five ways out of the handler. The lemmas `safe_…` go through its functions
  bottom-up, one for each; every early exit is one of these ways.
* `safe_proxy` — the whole handler, with the reports it adds (`ProxyExit`).
-/

namespace Custode

open Found

/-! ## What is forwarded and what is recorded -/

section Statements

variable (X : Crates) (config : GatewayConfig) (request : HttpRequest)

/-- The upstream request is the forwarded form of a request: the method that the allowlist accepted,
the configured origin joined with the accepted path and query, the filtered headers, and the
accounted body. -/
structure ForwardedAs (body : AccountedBody) (upstreamRequest : UpstreamRequest) : Prop where
  method : upstreamRequest.method = request.method
  url : ∃ target allowed, AcceptedTarget.new request.uri.path request.uri.query = .ok target ∧
    allowTarget config request.method target = .ok allowed ∧
    upstreamRequest.url = config.upstreamOrigin.joinPathQuery X target.path target.query
  headers : ∃ headers,
    forwardRequestHeaders request.headers config.maxRequestHeaderBytes = some (.ok headers) ∧
      upstreamRequest.headers = headers.headers
  body : upstreamRequest.body = body.bytes

/-- The event decides the request: a denial of it when nothing was sent, and otherwise a failure of
the upstream exchange in front of the response. -/
def DecidedBy (l : Ledger) (event : AuditEvent) : Prop :=
  (l.sends = [] ∧ ∃ denial requestId timestamp,
      RecordableDenial config request.method request.uri denial ∧
        AuditEvent.forDenial X denial requestId none config.upstreamOrigin timestamp = some event) ∨
    (l.sends ≠ [] ∧ ∃ input timestamp, AuditEvent.forResponse X input timestamp = some event ∧
      ((∃ error, input.outcome = .upstreamError error) ∨
        ∃ error, input.outcome = .responseHeaderError error))

/-- The context of the response task of a request. -/
def TaskOf (l : Ledger) (context : ResponseAuditContext) (response : UpstreamResponse) : Prop :=
  ∃ body requestId target, l.bodies = [body] ∧
    targetDecision config request.method request.uri = some (.ok target) ∧
      context = .initial config body requestId response.status target

/-- What holds at the calls of a handler whose order matters. -/
def requestRules (panic : Prop) : Rules where
  append l event := l.appends = [] ∧ l.tasks = [] ∧ DecidedBy X config request l event
  readRequest l := l.bodies = [] ∧ l.sends = [] ∧ l.tasks = []
  readGate l := l.sends = []
  startSend l upstreamRequest := l.sends = [] ∧ l.appends = [] ∧
    ∃ body, l.bodies = [body] ∧ ForwardedAs X config request body upstreamRequest
  spawn l context response :=
    l.tasks = [] ∧ l.appends = [] ∧ TaskOf config request l context response
  sendChunk _ _ := False
  sendReserved _ _ := False
  panic l := panic ∧ l.sends ≠ [] ∧ l.failures = [] ∧ l.reports = []

/-- What holds after every event of a handler. -/
structure RequestInv (l : Ledger) : Prop where
  sends : l.sends = [] ∨ ∃ body upstreamRequest, l.bodies = [body] ∧ l.sends = [upstreamRequest] ∧
    ForwardedAs X config request body upstreamRequest
  audits : l.appends.length + l.tasks.length ≤ 1
  tasks : ∀ context response, (context, response) ∈ l.tasks →
    TaskOf config request l context response

end Statements

section Step

variable {X : Crates} {config : GatewayConfig} {request : HttpRequest} {panic : Prop} {l : Ledger}

/-- The invariant is about the bodies, the sends, the appends and the tasks only. -/
lemma RequestInv.keep (h : RequestInv X config request l) {l' : Ledger}
    (hbodies : l'.bodies = l.bodies) (hsends : l'.sends = l.sends)
    (happends : l'.appends = l.appends) (htasks : l'.tasks = l.tasks) :
    RequestInv X config request l' := by
  refine ⟨?_, ?_, ?_⟩
  · rw [hbodies, hsends]
    exact h.sends
  · rw [happends, htasks]
    exact h.audits
  · rw [htasks]
    intro context response hmem
    rw [TaskOf, hbodies]
    exact h.tasks context response hmem

/-- Whatever the handler does keeps the invariant. -/
lemma RequestInv.step (h : RequestInv X config request l) {op : Call} (r : op.Answer)
    (hready : (requestRules X config request panic).Ready l op) :
    RequestInv X config request (l.observe ⟨op, r⟩) := by
  have hnoted := l.noted op r
  cases op with
  | appendEvent event =>
      obtain ⟨happends, htasks, -⟩ := hready
      have hone : (l.observe ⟨.appendEvent event, r⟩).appends = [(event, r)] := by
        simp [Ledger.observe, happends]
      have hnone : (l.observe ⟨.appendEvent event, r⟩).tasks = l.tasks :=
        hnoted.tasks.resolve_right (by simp)
      refine ⟨?_, ?_, ?_⟩
      · rw [hnoted.sends.resolve_right (by simp), hnoted.bodies.resolve_right (by simp)]
        exact h.sends
      · rw [hone, hnone, htasks]
        simp
      · rw [hnone, htasks]
        intro context response hmem
        cases hmem
  | readRequest limit =>
      obtain ⟨hbodies, hsends, htasks⟩ := hready
      refine ⟨.inl ?_, ?_, ?_⟩
      · rw [hnoted.sends.resolve_right (by simp)]
        exact hsends
      · rw [hnoted.appends.resolve_right (by simp), hnoted.tasks.resolve_right (by simp)]
        exact h.audits
      · rw [hnoted.tasks.resolve_right (by simp), htasks]
        intro context response hmem
        cases hmem
  | startSend upstreamRequest =>
      obtain ⟨hsends, happends, body, hbody, hforwarded⟩ := hready
      refine ⟨.inr ⟨body, upstreamRequest, hbody, ?_, hforwarded⟩, h.audits, h.tasks⟩
      show l.sends ++ [upstreamRequest] = [upstreamRequest]
      rw [hsends, List.nil_append]
  | spawn context response =>
      obtain ⟨htasks, happends, htask⟩ := hready
      have hone : (l.observe ⟨.spawn context response, r⟩).tasks = [(context, response)] := by
        show l.tasks ++ _ = _
        rw [htasks, List.nil_append]
      refine ⟨h.sends, ?_, ?_⟩
      · rw [hone, show (l.observe ⟨.spawn context response, r⟩).appends = [] from happends]
        simp
      · intro context' response' hmem
        rw [hone, List.mem_singleton, Prod.mk.injEq] at hmem
        obtain ⟨rfl, rfl⟩ := hmem
        exact htask
  | _ =>
      exact h.keep (hnoted.bodies.resolve_right (by simp)) (hnoted.sends.resolve_right (by simp))
        (hnoted.appends.resolve_right (by simp)) (hnoted.tasks.resolve_right (by simp))

end Step

/-! ## The ways out of the handler -/

section Exit

variable (X : Crates) (config : GatewayConfig) (request : HttpRequest)

/-- Nothing has been done for the request but reading its body. -/
def Ledger.Fresh (l : Ledger) : Prop :=
  l.unavailable = false ∧ l.sends = [] ∧ l.tasks = [] ∧ l.Quiet

/-- How the handler ends, up to the report of an error that it returns. -/
inductive HandlerExit : Except GatewayError Response → Ledger → Prop
  | noRequestId {l : Ledger} (error : RequestIdError) (unavailable : l.unavailable = false)
      (sends : l.sends = []) (appends : l.appends = []) (tasks : l.tasks = [])
      (failures : l.failures = [.requestId error]) (reports : l.reports = [.requestId error]) :
      HandlerExit (.error (.requestId error)) l
  | unavailable {l : Ledger} (unavailable : l.unavailable = true) (sends : l.sends = [])
      (tasks : l.tasks = []) (quiet : l.Quiet) : HandlerExit (.error .auditUnavailable) l
  | audited {l : Ledger} (event : AuditEvent) (unavailable : l.unavailable = false)
      (decided : DecidedBy X config request l event) (appends : l.appends = [(event, .ok ())])
      (tasks : l.tasks = []) (failures : l.failures = []) (reports : l.reports = []) :
      HandlerExit (.ok (statusResponse event.status)) l
  | failed {l : Ledger} (event : AuditEvent) (error : AuditError)
      (unavailable : l.unavailable = false) (decided : DecidedBy X config request l event)
      (appends : l.appends = [(event, .error error)]) (tasks : l.tasks = [])
      (failures : l.failures = [.audit error]) (reports : l.reports = [])
      (closed : l.closed = true) : HandlerExit (.error (.audit error)) l
  | streamed {l : Ledger} (result : Except GatewayError Response) (context : ResponseAuditContext)
      (response : UpstreamResponse) (unavailable : l.unavailable = false) (sends : l.sends ≠ [])
      (quiet : l.Quiet) (tasks : l.tasks = [(context, response)])
      (answered : result = .error .responseBuild ∨
        ∃ headers, result = .ok ⟨response.status, headers, true⟩) :
      HandlerExit result l

end Exit

section Rules

variable {X : Crates} {config : GatewayConfig} {request : HttpRequest} {panic : Prop} {l : Ledger}

/-- Dropping the permit changes nothing that is noted. -/
lemma safe_droppingPermit {rules : Rules} {result : Async (Except GatewayError Response)}
    {Q : Except GatewayError Response → Ledger → Prop} (h : rules.monitor.Safe result Q l) :
    rules.monitor.Safe (droppingPermit result) Q l := by
  rw [droppingPermit, Monitor.safe_bind]
  apply h.mono
  intro result l' hresult
  rw [Monitor.safe_bind, Monitor.safe_perform]
  exact ⟨trivial, fun _ => hresult⟩

/-- Deciding a request depends on whether it was sent only. -/
lemma DecidedBy.of_sends {event : AuditEvent} (h : DecidedBy X config request l event) {l' : Ledger}
    (hsends : l'.sends = l.sends) : DecidedBy X config request l' event := by
  rw [DecidedBy, hsends]
  exact h

/-- The way out after an append: with the recorded status, or with the error. -/
lemma HandlerExit.of_appended {event : AuditEvent} (hunavailable : l.unavailable = false)
    (hdecided : DecidedBy X config request l event) (htasks : l.tasks = []) (hquiet : l.Quiet) :
    HandlerExit X config request (.ok (statusResponse event.status)) (l.appended event (.ok ())) ∧
      ∀ error, HandlerExit X config request (.error (.audit error))
        { l.appended event (.error error) with closed := true } := by
  obtain ⟨happends, hfailures, hreports⟩ := hquiet
  constructor
  · exact .audited event hunavailable (hdecided.of_sends rfl) (by simp [happends]) htasks hfailures
      hreports
  · intro error
    exact .failed event error hunavailable (hdecided.of_sends rfl) (by simp [happends]) htasks
      (by simp [Ledger.appended, hfailures]) hreports rfl

/-- A denial that can be recorded is recorded, and answered with its status. -/
lemma safe_auditDenialStatus (hfresh : l.Fresh) {requestId : RequestId} {denial : AuditDenial}
    (hdenial : RecordableDenial config request.method request.uri denial) :
    (requestRules X config request panic).monitor.Safe
      (auditDenialStatus X config requestId denial none) (HandlerExit X config request) l := by
  obtain ⟨hunavailable, hsends, htasks, hquiet⟩ := hfresh
  rw [auditDenialStatus, Monitor.safe_bind]
  apply safe_auditDenial
  intro timestamp event hevent
  have hdecided : DecidedBy X config request l event :=
    .inl ⟨hsends, denial, requestId, timestamp, hdenial, hevent⟩
  obtain ⟨hok, herror⟩ := HandlerExit.of_appended hunavailable hdecided htasks hquiet
  rw [(AuditEvent.forDenial_eq_some hevent).2] at hok
  exact ⟨⟨hquiet.1, htasks, hdecided⟩, hok, herror⟩

/-- A failure of the upstream exchange is recorded, and answered with its status. -/
lemma safe_auditResponseStatus (hunavailable : l.unavailable = false) (hsends : l.sends ≠ [])
    (htasks : l.tasks = []) (hquiet : l.Quiet) {input : ResponseAuditInput} {status : StatusCode}
    (houtcome : (∃ error, input.outcome = .upstreamError error) ∨
      ∃ error, input.outcome = .responseHeaderError error)
    (hstatus : input.outcome.status = status)
    (hpanic : ∀ timestamp, AuditEvent.forResponse X input timestamp = none → panic) :
    (requestRules X config request panic).monitor.Safe (auditResponseStatus X input status)
      (HandlerExit X config request) l := by
  rw [auditResponseStatus, Monitor.safe_bind]
  refine safe_auditResponse
    (fun timestamp hnone => ⟨hpanic timestamp hnone, hsends, hquiet.2.1, hquiet.2.2⟩) ?_
  intro timestamp event hevent
  have hdecided : DecidedBy X config request l event :=
    .inr ⟨hsends, input, timestamp, hevent, houtcome⟩
  obtain ⟨hok, herror⟩ := HandlerExit.of_appended hunavailable hdecided htasks hquiet
  rw [(AuditEvent.forResponse_eq_some hevent).2.2, hstatus] at hok
  exact ⟨⟨hquiet.1, htasks, hdecided⟩, hok, herror⟩

/-- A rejected target is denied; an allowed one goes on with nothing done. -/
lemma safe_acceptAllowedTarget (hfresh : l.Fresh) (requestId : RequestId) :
    (requestRules X config request panic).monitor.Safe
      (acceptAllowedTarget X config requestId request.method request.uri)
      (fun result l' => match result with
        | .error error => HandlerExit X config request (.error error) l'
        | .ok (.error response) => HandlerExit X config request (.ok response) l'
        | .ok (.ok target) => l' = l ∧
            targetDecision config request.method request.uri = some (.ok target)) l := by
  rw [acceptAllowedTarget, Monitor.safe_bind, safe_expect]
  refine ⟨fun hnone => absurd hnone (targetDecision_ne_none config request.method request.uri), ?_⟩
  rintro (denial | target) hdecided
  · show (requestRules X config request panic).monitor.Safe
      (rejectAllowedTarget X config requestId denial) _ l
    rw [rejectAllowedTarget, Monitor.safe_bind]
    apply (safe_auditDenialStatus hfresh (.target hdecided)).mono
    rintro (error | response) l' hexit
    · exact hexit
    · exact hexit
  · exact ⟨rfl, hdecided⟩

variable {requestId : RequestId} {target : AllowedTarget} {body : AccountedBody}

/-- The events of responses for a target are built, unless `panic`. -/
def EventsBuiltOr (X : Crates) (target : AllowedTarget) (panic : Prop) : Prop :=
  ∀ input timestamp, input.target = target →
    AuditEvent.forResponse X input timestamp = none → panic

/-- The forwarded form of a request whose target is allowed. -/
lemma forwardedAs_fromTarget
    (hdecided : targetDecision config request.method request.uri = some (.ok target))
    {headers : ForwardedRequestHeaders}
    (hheaders : forwardRequestHeaders request.headers config.maxRequestHeaderBytes =
      some (.ok headers)) :
    ForwardedAs X config request body
      (.fromTarget X target headers body config.requestTimeout) := by
  obtain ⟨-, -, haccepted, hallowed⟩ := targetDecision_eq_ok hdecided
  obtain ⟨hmethod, -, horigin⟩ := allowTarget_eq_ok hallowed
  refine ⟨hmethod, ⟨target.target, target, haccepted, hallowed, ?_⟩, ⟨headers, hheaders, rfl⟩, rfl⟩
  rw [UpstreamRequest.fromTarget, horigin]

/-- An answered upstream request is handed to a response task, or its headers are refused. -/
lemma safe_forwardResponse (hpanic : EventsBuiltOr X target panic)
    (hunavailable : l.unavailable = false) (hsends : l.sends ≠ []) (htasks : l.tasks = [])
    (hquiet : l.Quiet) (hbody : l.bodies = [body])
    (hdecided : targetDecision config request.method request.uri = some (.ok target))
    {headers : ForwardedRequestHeaders} (response : UpstreamResponse) :
    (requestRules X config request panic).monitor.Safe
      (forwardResponse X config ⟨body, headers, requestId, target⟩ response)
      (HandlerExit X config request) l := by
  simp only [forwardResponse, Monitor.safe_bind, safe_expect]
  refine ⟨fun hnone => (forwardResponseHeaders_ne_none _ _ hnone).elim, ?_⟩
  rintro (error | responseHeaders) -
  · refine safe_droppingPermit (safe_auditResponseStatus hunavailable hsends htasks hquiet
      (.inr ⟨_, rfl⟩) rfl fun timestamp => hpanic _ timestamp rfl)
  · rw [Monitor.safe_bind, Monitor.safe_perform]
    refine ⟨⟨htasks, hquiet.1, body, requestId, target, hbody, hdecided, rfl⟩, ?_⟩
    intro _
    have hone : ∀ context, l.tasks ++ [(context, response)] = [(context, response)] := by
      simp [htasks]
    by_cases hbuilds : X.responseBuilds response.status responseHeaders.headers
    · rw [if_pos hbuilds]
      exact .streamed _ _ response hunavailable hsends hquiet (hone _) (.inr ⟨_, rfl⟩)
    · rw [if_neg hbuilds]
      exact .streamed _ _ response hunavailable hsends hquiet (hone _) (.inl rfl)

/-- An accepted request is sent, unless the audit has failed before. -/
lemma safe_forwardRequest (hpanic : EventsBuiltOr X target panic) (hfresh : l.Fresh)
    (hbody : l.bodies = [body])
    (hdecided : targetDecision config request.method request.uri = some (.ok target))
    {headers : ForwardedRequestHeaders}
    (hheaders : forwardRequestHeaders request.headers config.maxRequestHeaderBytes =
      some (.ok headers)) :
    (requestRules X config request panic).monitor.Safe
      (forwardRequest X config ⟨body, headers, requestId, target⟩) (HandlerExit X config request)
      l := by
  obtain ⟨hunavailable, hsends, htasks, hquiet⟩ := hfresh
  rw [forwardRequest, Monitor.safe_bind]
  refine safe_beginForwarding hsends ?_ ?_
  · simp only [Monitor.safe_bind, Monitor.safe_perform]
    refine ⟨⟨hsends, hquiet.1, body, hbody, forwardedAs_fromTarget hdecided hheaders⟩, fun _ =>
      ⟨trivial, fun result => ⟨trivial, fun _ => ?_⟩⟩⟩
    have hsent : l.sends ++ [.fromTarget X target headers body config.requestTimeout] ≠ [] := by
      simp
    rcases result with error | response
    · refine safe_droppingPermit (safe_auditResponseStatus ?_ hsent ?_ ?_ (.inl ⟨_, rfl⟩) rfl
        fun timestamp => hpanic _ timestamp rfl)
      · exact hunavailable
      · exact htasks
      · exact hquiet
    · refine safe_forwardResponse hpanic ?_ hsent ?_ ?_ ?_ hdecided response
      · exact hunavailable
      · exact htasks
      · exact hquiet
      · exact hbody
  · exact safe_droppingPermit (.unavailable rfl hsends htasks hquiet)

/-- A request with an allowed target is denied for its headers or its body, or forwarded. -/
lemma safe_handleAllowedTarget (hpanic : EventsBuiltOr X target panic) (hfresh : l.Fresh)
    (hbodies : l.bodies = [])
    (hdecided : targetDecision config request.method request.uri = some (.ok target)) :
    (requestRules X config request panic).monitor.Safe
      (handleAllowedTarget X config requestId request target) (HandlerExit X config request) l := by
  rw [handleAllowedTarget, Monitor.safe_bind, safe_expect]
  refine ⟨fun hnone => (forwardRequestHeaders_ne_none _ _ hnone).elim, ?_⟩
  rintro (error | headers) hheaders
  · exact safe_droppingPermit
      (safe_auditDenialStatus hfresh (.requestHeader hdecided error))
  · rw [Monitor.safe_bind, Monitor.safe_perform]
    refine ⟨⟨hbodies, hfresh.2.1, hfresh.2.2.1⟩, ?_⟩
    rintro (_ | (error | body))
    · exact safe_droppingPermit (safe_auditDenialStatus hfresh (.requestBodyTimeout hdecided))
    · exact safe_droppingPermit (safe_auditDenialStatus hfresh (.requestBody hdecided error))
    · show (requestRules X config request panic).monitor.Safe
        (forwardRequest X config ⟨body, headers, requestId, target⟩) _
        { l with bodies := l.bodies ++ [body] }
      refine safe_forwardRequest hpanic ?_ ?_ hdecided hheaders
      · exact hfresh
      · rw [hbodies, List.nil_append]

/-- A request identity is allocated, or the failure is reported. -/
lemma safe_allocateRequestId {rules : Rules} {Q : Except GatewayError RequestId → Ledger → Prop}
    (hok : ∀ requestId, Q (.ok requestId) l)
    (herror : ∀ error, Q (.error (.requestId error))
      { l with
        failures := l.failures ++ [.requestId error]
        reports := l.reports ++ [.requestId error] }) :
    rules.monitor.Safe allocateRequestId Q l := by
  rw [allocateRequestId, Monitor.safe_bind, Monitor.safe_perform]
  refine ⟨trivial, ?_⟩
  rintro (error | requestId)
  · simp only [reportFatalError, Monitor.safe_bind, Monitor.safe_perform]
    exact ⟨trivial, fun _ => herror error⟩
  · exact hok requestId

/-- The ledger after a failed allocation. -/
lemma HandlerExit.of_noRequestId (hfresh : l.Fresh) (error : RequestIdError) :
    HandlerExit X config request (.error (.requestId error))
      { l with
        failures := l.failures ++ [.requestId error]
        reports := l.reports ++ [.requestId error] } := by
  obtain ⟨hunavailable, hsends, htasks, happends, hfailures, hreports⟩ := hfresh
  exact .noRequestId error hunavailable hsends happends htasks (by simp [hfailures])
    (by simp [hreports])

/-- **The handler of a request with a permit** ends in one of the five ways. -/
theorem safe_handleRequest (hpanic : ∀ target,
      targetDecision config request.method request.uri = some (.ok target) →
        EventsBuiltOr X target panic) (hfresh : l.Fresh) (hbodies : l.bodies = []) :
    (requestRules X config request panic).monitor.Safe (handleRequest X config request)
      (HandlerExit X config request) l := by
  rw [handleRequest, Monitor.safe_bind]
  refine safe_allocateRequestId (fun requestId => ?_) fun error => ?_
  · simp only [Monitor.safe_bind]
    apply (safe_acceptAllowedTarget hfresh requestId).mono
    rintro (error | (response | target)) l' hresult
    · exact safe_droppingPermit hresult
    · exact safe_droppingPermit hresult
    · obtain ⟨rfl, hdecided⟩ := hresult
      exact safe_handleAllowedTarget (hpanic target hdecided) hfresh hbodies hdecided
  · exact safe_droppingPermit (.of_noRequestId hfresh error)

end Rules

/-! ## Reports and responses -/

section Proxy

/-- The response to the harness for what the handler returned.
Source: `http.rs` `proxy`, `report_request_failure` -/
def harnessResponse : Except GatewayError Response → Response
  | .ok response => response
  | .error _ => statusResponse .internalServerError

/-- The report for what the handler returned.
Source: `http.rs` `report_request_failure` -/
def reported : Except GatewayError Response → List GatewayError
  | .ok _ => []
  | .error error => if isFatalRequestFailure error then [error] else []

variable (X : Crates) (config : GatewayConfig) (request : HttpRequest)

/-- How `proxy` ends: as the handler does, with the report of its error. -/
def ProxyExit (response : Response) (l : Ledger) : Prop :=
  ∃ result before, HandlerExit X config request result before ∧ response = harnessResponse result ∧
    l = { before with reports := before.reports ++ reported result }

variable {X config request} {rules : Rules} {panic : Prop} {l : Ledger}

/-- An error is reported when it is fatal, and answered with 500. -/
lemma safe_reportRequestFailure {error : GatewayError} {Q : Response → Ledger → Prop}
    (h : Q (statusResponse .internalServerError)
      { l with reports := l.reports ++ reported (.error error) }) :
    rules.monitor.Safe (reportRequestFailure error) Q l := by
  by_cases hfatal : isFatalRequestFailure error
  · simp only [reported, if_pos hfatal] at h
    simp only [reportRequestFailure, if_pos hfatal, reportFatalError, Monitor.safe_bind,
      Monitor.safe_perform]
    exact ⟨trivial, fun _ => h⟩
  · simp only [reported, if_neg hfatal, List.append_nil] at h
    simp only [reportRequestFailure, if_neg hfatal]
    exact h

/-- The exit of a result that needs no report. -/
lemma ProxyExit.of_ok {response : Response} (h : HandlerExit X config request (.ok response) l) :
    ProxyExit X config request response l :=
  ⟨_, l, h, rfl, by simp [reported]⟩

/-- The exit of an error, after its report. -/
lemma ProxyExit.of_error {error : GatewayError}
    (h : HandlerExit X config request (.error error) l) :
    ProxyExit X config request (statusResponse .internalServerError)
      { l with reports := l.reports ++ reported (.error error) } :=
  ⟨_, l, h, rfl, rfl⟩

/-- A request without a permit is denied. -/
lemma safe_rejectTooManyRequests (hfresh : l.Fresh) :
    (requestRules X config request panic).monitor.Safe (rejectTooManyRequests X config request)
      (ProxyExit X config request) l := by
  rw [rejectTooManyRequests, Monitor.safe_bind]
  refine safe_allocateRequestId (fun requestId => ?_) fun error => ?_
  · simp only [Monitor.safe_bind, safe_expect]
    refine ⟨fun hnone => absurd hnone (PreparsedAuditTarget.fromRequestUri_ne_none _),
      fun target htarget => ?_⟩
    obtain ⟨hunavailable, hsends, htasks, hquiet⟩ := hfresh
    apply safe_auditDenial
    intro timestamp event hevent
    have hdecided : DecidedBy X config request l event :=
      .inl ⟨hsends, _, requestId, timestamp, .tooManyRequests htarget, hevent⟩
    obtain ⟨hok, herror⟩ := HandlerExit.of_appended hunavailable hdecided htasks hquiet
    rw [(AuditEvent.forDenial_eq_some hevent).2] at hok
    refine ⟨⟨hquiet.1, htasks, hdecided⟩, .of_ok hok, ?_⟩
    intro error
    rw [Monitor.safe_bind]
    exact safe_reportRequestFailure (.of_error (herror error))
  · exact ⟨_, _, .of_noRequestId hfresh error, rfl, by simp [reported, isFatalRequestFailure]⟩

/-- **Every request** ends in one of the five ways, and an error that the handler returned has been
reported. -/
theorem safe_proxy (hpanic : ∀ target,
      targetDecision config request.method request.uri = some (.ok target) →
        EventsBuiltOr X target panic) :
    (requestRules X config request panic).monitor.Safe (proxy X config request)
      (ProxyExit X config request) Ledger.empty := by
  have hfresh : Ledger.empty.Fresh := ⟨rfl, rfl, rfl, rfl, rfl, rfl⟩
  simp only [proxy, Gateway.requireAuditAvailable, Monitor.safe_bind, Monitor.safe_perform]
  refine ⟨trivial, ?_⟩
  rintro (_ | _)
  · show (requestRules X config request panic).monitor.Safe (call .tryAcquireOwned >>= _) _
      Ledger.empty
    rw [Monitor.safe_bind, Monitor.safe_perform]
    refine ⟨trivial, ?_⟩
    rintro (_ | _)
    · exact safe_rejectTooManyRequests hfresh
    · show (requestRules X config request panic).monitor.Safe
        (handleRequest X config request >>= _) _ Ledger.empty
      rw [Monitor.safe_bind]
      apply (safe_handleRequest hpanic hfresh rfl).mono
      rintro (error | response) l hexit
      · exact safe_reportRequestFailure (.of_error hexit)
      · exact .of_ok hexit
  · show (requestRules X config request panic).monitor.Safe (reportFatalError _ >>= _) _ _
    simp only [reportFatalError, Monitor.safe_bind, Monitor.safe_perform]
    have hexit : HandlerExit X config request (.error .auditUnavailable)
        { Ledger.empty with unavailable := true } := .unavailable rfl rfl rfl ⟨rfl, rfl, rfl⟩
    exact ⟨trivial, fun _ => .of_error hexit⟩

end Proxy

end Custode
