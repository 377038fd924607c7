import Custode.Http.HandlerRun
import Custode.Http.StreamRun

/-!
# The law of a request

* `RequestLaw` — a request is sent upstream at most once, as it was accepted; it is audited once, by
  its handler or by its response task; the harness sees the status that was recorded; and what is
  recorded is `denied` exactly when nothing was sent. It panics only where an event of a response
  cannot be built.
* `FailClosed` — every failed append and every failed allocation of a request identity is reported
  once, and the harness never sees what a failed append would have recorded.

Both hold of every request under every answer of the environment.
-/

namespace Custode

open Found

section Statements

variable (X : Crates)

/-- A response task attempts one append, or none when the audit became unavailable. -/
def TaskAuditedOnce (context : ResponseAuditContext) (response : UpstreamResponse) : Prop :=
  ∀ tr q, (responseTask X context response).Runs tr q → (Ledger.of tr).appends.length ≤ 1 ∧
    (q = .ret () →
      ((Ledger.of tr).appends = [] ↔ (Ledger.of tr).interrupt = some .auditUnavailable))

/-- An append for a request: by its handler, whose ledger this is, or by its response task. -/
def RequestAppend (l : Ledger) (event : AuditEvent) (result : Except AuditError Unit) : Prop :=
  (event, result) ∈ l.appends ∨
    ∃ context response tr q, (context, response) ∈ l.tasks ∧
      (responseTask X context response).Runs tr q ∧ (event, result) ∈ (Ledger.of tr).appends

/-- The request could not be audited: its identity was not allocated, or the audit had failed at
entry or at the forwarding gate. -/
def Unauditable (l : Ledger) : Prop :=
  l.unavailable = true ∨ ∃ error, .requestId error ∈ l.failures

/-- An audit event for a response of this target cannot be built. -/
def CannotRecord (target : AllowedTarget) : Prop :=
  ∃ input timestamp, input.target = target ∧ AuditEvent.forResponse X input timestamp = none

/-- The law of a request, over every run of its handler. -/
structure RequestLaw (config : GatewayConfig) (request : HttpRequest) : Prop where
  /-- At most one upstream send, of the accepted request with its accounted body. -/
  sentOnce : ∀ tr q, (proxy X config request).Runs tr q →
    (Ledger.of tr).sends = [] ∨ ∃ body upstreamRequest, (Ledger.of tr).bodies = [body] ∧
      (Ledger.of tr).sends = [upstreamRequest] ∧ ForwardedAs X config request body upstreamRequest
  /-- One append, by the handler or by the response task. -/
  auditedOnce : ∀ tr response, (proxy X config request).Runs tr (.ret response) →
    ¬ Unauditable (Ledger.of tr) →
      (∃ event result, (Ledger.of tr).appends = [(event, result)] ∧ (Ledger.of tr).tasks = []) ∨
        ∃ context upstreamResponse, (Ledger.of tr).appends = [] ∧
          (Ledger.of tr).tasks = [(context, upstreamResponse)] ∧
            TaskAuditedOnce X context upstreamResponse
  /-- No append for a request that could not be audited, which is answered with 500. -/
  unaudited : ∀ tr response, (proxy X config request).Runs tr (.ret response) →
    Unauditable (Ledger.of tr) →
      (Ledger.of tr).appends = [] ∧ (Ledger.of tr).tasks = [] ∧ (Ledger.of tr).sends = [] ∧
        response = statusResponse .internalServerError
  /-- The harness gets the status that was recorded. -/
  status : ∀ tr response, (proxy X config request).Runs tr (.ret response) →
    ∀ event, (event, .ok ()) ∈ (Ledger.of tr).appends → response.status = event.status
  /-- A recorded denial is one of a request that was not sent. -/
  denied : ∀ tr response, (proxy X config request).Runs tr (.ret response) →
    ∀ event result, RequestAppend X (Ledger.of tr) event result →
      (event.decision = .denied ↔ (Ledger.of tr).sends = [])
  /-- The handler panics only after the send, where an event of its target cannot be built. -/
  panicked : ∀ tr k, (proxy X config request).Runs tr (.call .panic k) →
    (Ledger.of tr).sends ≠ [] ∧ ∃ target,
      targetDecision config request.method request.uri = some (.ok target) ∧ CannotRecord X target
  /-- So does the response task. -/
  taskPanicked : ∀ tr q, (proxy X config request).Runs tr q → ∀ context response,
    (context, response) ∈ (Ledger.of tr).tasks → ∀ tr' k,
      (responseTask X context response).Runs tr' (.call .panic k) → CannotRecord X context.target

/-- Failures of a response task are reported once, and leave the harness without a further chunk. -/
structure TaskFailClosed (context : ResponseAuditContext) (response : UpstreamResponse) : Prop where
  /-- Each failure is reported once. -/
  reported : ∀ tr, (responseTask X context response).Runs tr (.ret ()) →
    (Ledger.of tr).reports = (Ledger.of tr).failures
  /-- A panic comes before any failure. -/
  panicked : ∀ tr k, (responseTask X context response).Runs tr (.call .panic k) →
    (Ledger.of tr).failures = [] ∧ (Ledger.of tr).reports = []
  /-- No chunk is sent after a failed append. -/
  silent : ∀ tr op k, (responseTask X context response).Runs tr (.call op k) → op.SendsChunk →
    ∀ event error, (event, .error error) ∉ (Ledger.of tr).appends
  /-- When an allowed completion was pending, the stream error was offered to the harness. -/
  told : ∀ tr, (responseTask X context response).Runs tr (.ret ()) →
    ∀ event error, (event, .error error) ∈ (Ledger.of tr).appends → event.decision = .allowed →
      0 < (Ledger.of tr).errorSends

/-- Failures of a request are reported once, and answered with 500 or with the end of the stream. -/
structure FailClosed (config : GatewayConfig) (request : HttpRequest) : Prop where
  /-- Each failure is reported once. The other report is of an audit that had failed before. -/
  reported : ∀ tr response, (proxy X config request).Runs tr (.ret response) →
    (Ledger.of tr).reports = (Ledger.of tr).failures ∨
      ((Ledger.of tr).failures = [] ∧ (Ledger.of tr).reports = [.auditUnavailable])
  /-- A panic comes before any failure. -/
  panicked : ∀ tr k, (proxy X config request).Runs tr (.call .panic k) →
    (Ledger.of tr).failures = [] ∧ (Ledger.of tr).reports = []
  /-- The harness gets 500, and not the status that the failed event has. -/
  answered : ∀ tr response, (proxy X config request).Runs tr (.ret response) →
    (Ledger.of tr).failures ≠ [] → response = statusResponse .internalServerError ∧
      ∀ event error, (event, .error error) ∈ (Ledger.of tr).appends →
        response.status ≠ event.status
  /-- The response task that was spawned fails closed. -/
  tasks : ∀ tr q, (proxy X config request).Runs tr q → ∀ context response,
    (context, response) ∈ (Ledger.of tr).tasks → TaskFailClosed X context response

end Statements

/-! ## The response task of a request -/

section Task

variable {X : Crates} {config : GatewayConfig} {requestBody : AccountedBody}
  {requestId : RequestId} {status : StatusCode} {target : AllowedTarget}

/-- The task of a request, without conditions on its panics. -/
lemma safe_task (response : UpstreamResponse) :
    (streamRules X config.maxResponseBytes response.body True).monitor.Safe
      (responseTask X (.initial config requestBody requestId status target) response)
      (fun _ => StreamExit) Ledger.empty :=
  safe_responseTask response fun _ _ _ _ => trivial

/-- A response task attempts one append, or none when the audit became unavailable. -/
lemma taskAuditedOnce (response : UpstreamResponse) :
    TaskAuditedOnce X (.initial config requestBody requestId status target) response := by
  intro tr q hrun
  refine ⟨(streamInv_of_runs response hrun).appends_length_le, ?_⟩
  rintro rfl
  exact ((safe_task response).returned hrun).appends_eq_nil_iff

/-- A response task panics only where its event cannot be built. -/
lemma cannotRecord_of_taskPanicked {response : UpstreamResponse}
    {tr : List (Event Call.Answer)} {k : Call.panic.Answer → Async Unit}
    (hrun : (responseTask X (.initial config requestBody requestId status target) response).Runs tr
      (.call .panic k)) : CannotRecord X target := by
  have hsafe : (streamRules X config.maxResponseBytes response.body
      (CannotRecord X target)).monitor.Safe
      (responseTask X (.initial config requestBody requestId status target) response)
      (fun _ => StreamExit) Ledger.empty :=
    safe_responseTask response fun input timestamp htarget hnone =>
      ⟨input, timestamp, htarget, hnone⟩
  exact (hsafe.ready hrun).1

/-- A response task fails closed. -/
lemma taskFailClosed (response : UpstreamResponse) :
    TaskFailClosed X (.initial config requestBody requestId status target) response := by
  refine ⟨?_, ?_, ?_, ?_⟩
  · intro tr hrun
    rcases (safe_task response).returned hrun with ⟨hquiet, -⟩ |
      ⟨_, -, -, hfailures, hreports⟩ | ⟨_, _, -, -, hfailures, hreports, -⟩
    · exact hquiet.2.2.trans hquiet.2.1.symm
    · exact hreports.trans hfailures.symm
    · exact hreports.trans hfailures.symm
  · intro tr k hrun
    exact ((safe_task response).ready hrun).2
  · intro tr op k hrun hsends event error hmem
    have hready := (safe_task response).ready hrun
    cases op with
    | sendChunk chunk =>
        rw [← Rules.after_empty, hready.1] at hmem
        cases hmem
    | sendReserved chunk =>
        obtain ⟨-, -, event', happends, -⟩ := hready
        rw [← Rules.after_empty, happends] at hmem
        simp at hmem
    | _ => exact hsends.elim
  · intro tr hrun event error hmem hallowed
    rcases (safe_task response).returned hrun with ⟨hquiet, -⟩ |
      ⟨_, -, happends, -⟩ | ⟨_, _, -, happends, -, -, -, htold⟩
    · rw [← Rules.after_empty, hquiet.1] at hmem
      cases hmem
    · rw [← Rules.after_empty, happends] at hmem
      simp at hmem
    · rw [← Rules.after_empty, happends, List.mem_singleton, Prod.mk.injEq] at hmem
      obtain ⟨rfl, -⟩ := hmem
      exact htold hallowed

/-- What a response task appends is no denial. -/
lemma task_append_ne_denied {response : UpstreamResponse} {tr : List (Event Call.Answer)}
    {q : Async Unit}
    (hrun : (responseTask X (.initial config requestBody requestId status target) response).Runs tr
      q) {event : AuditEvent} {result : Except AuditError Unit}
    (hmem : (event, result) ∈ (Ledger.of tr).appends) : event.decision ≠ .denied := by
  rcases (streamInv_of_runs response hrun).audited with hnone | ⟨event', result', hone, hterminal⟩
  · rw [hnone] at hmem
    cases hmem
  · rw [hone, List.mem_singleton, Prod.mk.injEq] at hmem
    obtain ⟨rfl, -⟩ := hmem
    exact hterminal.1

end Task

/-! ## The handler of a request -/

section Request

variable {X : Crates} {config : GatewayConfig} {request : HttpRequest}
  {tr : List (Event Call.Answer)}

/-- The handler, without conditions on its panics. -/
lemma safe_request (X : Crates) (config : GatewayConfig) (request : HttpRequest) :
    (requestRules X config request True).monitor.Safe (proxy X config request)
      (ProxyExit X config request) Ledger.empty :=
  safe_proxy fun _ _ _ _ _ _ => trivial

/-- What holds after every run of the handler. -/
lemma requestInv_of_runs {q : Async Response} (hrun : (proxy X config request).Runs tr q) :
    RequestInv X config request (Ledger.of tr) := by
  refine (safe_request X config request).invariant ⟨.inl rfl, Nat.zero_le _, ?_⟩ ?_ hrun
  · intro context response hmem
    cases hmem
  · exact fun l op r h hready => h.step r hready

/-- A run of the handler that returned ends in one of the five ways. -/
lemma proxyExit_of_runs {response : Response}
    (hrun : (proxy X config request).Runs tr (.ret response)) :
    ProxyExit X config request response (Ledger.of tr) :=
  (safe_request X config request).returned hrun

/-- The handler panics only after the send, where an event of its target cannot be built. -/
lemma cannotRecord_of_panicked {k : Call.panic.Answer → Async Response}
    (hrun : (proxy X config request).Runs tr (.call .panic k)) :
    (Ledger.of tr).sends ≠ [] ∧ ∃ target,
      targetDecision config request.method request.uri = some (.ok target) ∧
        CannotRecord X target := by
  have hsafe : (requestRules X config request (∃ target,
      targetDecision config request.method request.uri = some (.ok target) ∧
        CannotRecord X target)).monitor.Safe (proxy X config request)
      (ProxyExit X config request) Ledger.empty :=
    safe_proxy fun target hdecided input timestamp htarget hnone =>
      ⟨target, hdecided, input, timestamp, htarget, hnone⟩
  obtain ⟨hcannot, hsends, -⟩ := hsafe.ready hrun
  exact ⟨hsends, hcannot⟩

variable {l : Ledger} {event : AuditEvent}

/-- The statuses that a denial records are the client's fault. -/
lemma AuditDenialReason.status_ne (reason : AuditDenialReason) :
    reason.status ≠ .internalServerError := by
  cases reason <;> decide

/-- The event of a decided request is a denial exactly when nothing was sent, and has not the status
of an internal error. -/
lemma DecidedBy.spec (h : DecidedBy X config request l event) :
    (event.decision = .denied ↔ l.sends = []) ∧ event.status ≠ .internalServerError := by
  rcases h with ⟨hnone, denial, requestId, timestamp, -, hevent⟩ |
    ⟨hsome, input, timestamp, hevent, houtcome⟩
  · obtain ⟨hdecision, hstatus⟩ := AuditEvent.forDenial_eq_some hevent
    rw [hstatus]
    exact ⟨iff_of_true hdecision hnone, denial.reason.status_ne⟩
  · obtain ⟨hdecision, -, hstatus⟩ := AuditEvent.forResponse_eq_some hevent
    rw [hdecision, hstatus]
    rcases houtcome with ⟨error, herror⟩ | ⟨error, herror⟩
    · rw [herror]
      refine ⟨iff_of_false (by simp [ResponseAuditOutcome.decision]) hsome, ?_⟩
      cases error <;> decide
    · rw [herror]
      refine ⟨iff_of_false (by simp [ResponseAuditOutcome.decision]) hsome, ?_⟩
      cases error <;> decide

variable {response : Response}

/-- An auditable request leaves one append or one response task. -/
lemma ProxyExit.auditedOnce (h : ProxyExit X config request response l)
    (hauditable : ¬ Unauditable l) :
    (∃ event result, l.appends = [(event, result)] ∧ l.tasks = []) ∨
      ∃ context upstreamResponse, l.appends = [] ∧ l.tasks = [(context, upstreamResponse)] := by
  obtain ⟨result, before, hexit, rfl, rfl⟩ := h
  cases hexit with
  | noRequestId error unavailable sends appends tasks failures reports =>
      exact absurd (.inr ⟨error, by simp [failures]⟩) hauditable
  | unavailable unavailable sends tasks quiet => exact absurd (.inl unavailable) hauditable
  | audited event unavailable decided appends tasks failures reports =>
      exact .inl ⟨event, _, appends, tasks⟩
  | failed event error unavailable decided appends tasks failures reports closed =>
      exact .inl ⟨event, _, appends, tasks⟩
  | streamed _ context upstreamResponse unavailable sends quiet tasks answered =>
      exact .inr ⟨context, upstreamResponse, quiet.1, tasks⟩

/-- A request that is not auditable leaves nothing and is answered with 500. -/
lemma ProxyExit.unaudited (h : ProxyExit X config request response l)
    (hunauditable : Unauditable l) :
    l.appends = [] ∧ l.tasks = [] ∧ l.sends = [] ∧
      response = statusResponse .internalServerError := by
  obtain ⟨result, before, hexit, rfl, rfl⟩ := h
  cases hexit with
  | noRequestId error unavailable sends appends tasks failures reports =>
      exact ⟨appends, tasks, sends, rfl⟩
  | unavailable unavailable sends tasks quiet => exact ⟨quiet.1, tasks, sends, rfl⟩
  | audited event unavailable decided appends tasks failures reports =>
      simp [Unauditable, unavailable, failures] at hunauditable
  | failed event error unavailable decided appends tasks failures reports closed =>
      simp [Unauditable, unavailable, failures] at hunauditable
  | streamed _ context upstreamResponse unavailable sends quiet tasks answered =>
      simp [Unauditable, unavailable, quiet.2.1] at hunauditable

/-- The response after an append that was carried out has the recorded status. -/
lemma ProxyExit.status (h : ProxyExit X config request response l)
    (hmem : (event, .ok ()) ∈ l.appends) : response.status = event.status := by
  obtain ⟨result, before, hexit, rfl, rfl⟩ := h
  cases hexit with
  | noRequestId error unavailable sends appends tasks failures reports => simp [appends] at hmem
  | unavailable unavailable sends tasks quiet => simp [quiet.1] at hmem
  | audited event' unavailable decided appends tasks failures reports =>
      simp only [appends, List.mem_singleton, Prod.mk.injEq, and_true] at hmem
      rw [hmem]
      rfl
  | failed event' error unavailable decided appends tasks failures reports closed =>
      simp [appends] at hmem
  | streamed _ context upstreamResponse unavailable sends quiet tasks answered =>
      simp [quiet.1] at hmem

/-- What the handler appends decides the request, and a request with a task was sent. -/
lemma ProxyExit.decided (h : ProxyExit X config request response l) :
    (∀ event result, (event, result) ∈ l.appends → DecidedBy X config request l event) ∧
      (l.tasks ≠ [] → l.sends ≠ []) := by
  obtain ⟨result, before, hexit, rfl, rfl⟩ := h
  cases hexit with
  | noRequestId error unavailable sends appends tasks failures reports =>
      exact ⟨by simp [appends], fun h => absurd tasks h⟩
  | unavailable unavailable sends tasks quiet =>
      exact ⟨by simp [quiet.1], fun h => absurd tasks h⟩
  | audited event' unavailable decided appends tasks failures reports =>
      refine ⟨?_, fun h => absurd tasks h⟩
      intro event result hmem
      simp only [appends, List.mem_singleton, Prod.mk.injEq] at hmem
      rw [hmem.1]
      exact decided
  | failed event' error unavailable decided appends tasks failures reports closed =>
      refine ⟨?_, fun h => absurd tasks h⟩
      intro event result hmem
      simp only [appends, List.mem_singleton, Prod.mk.injEq] at hmem
      rw [hmem.1]
      exact decided
  | streamed _ context upstreamResponse unavailable sends quiet tasks answered =>
      exact ⟨by simp [quiet.1], fun _ => sends⟩

/-- Every failure of the handler is reported once. -/
lemma ProxyExit.reported (h : ProxyExit X config request response l) :
    l.reports = l.failures ∨ (l.failures = [] ∧ l.reports = [.auditUnavailable]) := by
  obtain ⟨result, before, hexit, rfl, rfl⟩ := h
  cases hexit with
  | noRequestId error unavailable sends appends tasks failures reports =>
      exact .inl (by simp [failures, reports, Custode.reported, isFatalRequestFailure])
  | unavailable unavailable sends tasks quiet =>
      exact .inr ⟨quiet.2.1, by simp [quiet.2.2, Custode.reported, isFatalRequestFailure]⟩
  | audited event' unavailable decided appends tasks failures reports =>
      exact .inl (by simp [failures, reports, Custode.reported])
  | failed event' error unavailable decided appends tasks failures reports closed =>
      exact .inl (by simp [failures, reports, Custode.reported, isFatalRequestFailure])
  | streamed result context upstreamResponse unavailable sends quiet tasks answered =>
      refine .inl ?_
      rcases answered with rfl | ⟨headers, rfl⟩
      · simp [quiet.2.1, quiet.2.2, Custode.reported, isFatalRequestFailure]
      · simp [quiet.2.1, quiet.2.2, Custode.reported]

/-- A failure of the handler is answered with 500, which no event of the handler records. -/
lemma ProxyExit.answered (h : ProxyExit X config request response l) (hfailed : l.failures ≠ []) :
    response = statusResponse .internalServerError := by
  obtain ⟨result, before, hexit, rfl, rfl⟩ := h
  cases hexit with
  | audited event' unavailable decided appends tasks failures reports =>
      exact absurd failures hfailed
  | streamed _ context upstreamResponse unavailable sends quiet tasks answered =>
      exact absurd quiet.2.1 hfailed
  | _ => rfl

end Request

/-- **One audit per request.** Every request is sent at most once, as it was accepted, and audited
once, with the status that the harness gets, as a denial exactly when it was not sent. No run panics
but where an event cannot be built. -/
theorem one_audit_per_request (X : Crates) (config : GatewayConfig) (request : HttpRequest) :
    RequestLaw X config request := by
  refine ⟨fun tr q hrun => (requestInv_of_runs hrun).sends, fun tr response hrun hauditable => ?_,
    fun tr response hrun => (proxyExit_of_runs hrun).unaudited,
    fun tr response hrun event => (proxyExit_of_runs hrun).status,
    fun tr response hrun event result happend => ?_,
    fun tr k hrun => cannotRecord_of_panicked hrun,
    fun tr q hrun context response hmem tr' k hrun' => ?_⟩
  · apply ((proxyExit_of_runs hrun).auditedOnce hauditable).imp id
    rintro ⟨context, upstreamResponse, happends, htasks⟩
    obtain ⟨body, requestId, target, -, -, rfl⟩ :=
      (requestInv_of_runs hrun).tasks context upstreamResponse (by simp [htasks])
    exact ⟨_, upstreamResponse, happends, htasks, taskAuditedOnce upstreamResponse⟩
  · obtain ⟨hdecided, hsent⟩ := (proxyExit_of_runs hrun).decided
    rcases happend with hmem | ⟨context, upstreamResponse, tr', q, hmem, hrun', happended⟩
    · exact (hdecided event result hmem).spec.1
    · obtain ⟨body, requestId, target, -, -, rfl⟩ :=
        (requestInv_of_runs hrun).tasks context upstreamResponse hmem
      exact iff_of_false (task_append_ne_denied hrun' happended)
        (hsent (List.ne_nil_of_mem hmem))
  · obtain ⟨body, requestId, target, -, -, rfl⟩ :=
      (requestInv_of_runs hrun).tasks context response hmem
    exact cannotRecord_of_taskPanicked hrun'

/-- **Fail-closed reporting.** Every failed append and every failed allocation of a request identity
is reported once; the harness gets 500, or a stream that ends without a further chunk. -/
theorem fail_closed (X : Crates) (config : GatewayConfig) (request : HttpRequest) :
    FailClosed X config request := by
  refine ⟨fun tr response hrun => (proxyExit_of_runs hrun).reported,
    fun tr k hrun => ((safe_request X config request).ready hrun).2.2,
    fun tr response hrun hfailed => ?_, fun tr q hrun context response hmem => ?_⟩
  · have hanswer := (proxyExit_of_runs hrun).answered hfailed
    refine ⟨hanswer, ?_⟩
    intro event error hmem
    rw [hanswer]
    exact (((proxyExit_of_runs hrun).decided.1 event _ hmem).spec.2).symm
  · obtain ⟨body, requestId, target, -, -, rfl⟩ :=
      (requestInv_of_runs hrun).tasks context response hmem
    exact taskFailClosed response

end Custode
