import Custode.Http.AuditCalls
import Custode.Http.Handler

/-!
# Fatal errors say what happened

A fatal error stops the server. A party reports one only for an answer that it was given: an append
that failed with that error, the flag of an earlier audit failure, or an identity that could not be
allocated (`Reported`). It raises the flag only after an append of its own failed.

* `safe_alarm_proxy`, `safe_alarm_responseTask` — so it is of handlers and of response tasks.
-/

namespace Custode

open Found

/-- The answer that an error was made of is among these. The two other errors do not stop the
server. -/
def Reported (tr : List (Event Call.Answer)) : GatewayError → Prop
  | .audit error => ∃ event, ⟨.appendEvent event, .error error⟩ ∈ tr
  | .auditUnavailable => ⟨.loadAuditFailed, true⟩ ∈ tr
  | .requestId error => ⟨.nextRequestId, .error error⟩ ∈ tr
  | .header _ | .responseBuild => False

/-- An error is reported for an answer, and the flag is raised for a failed append. -/
def AlarmReady (tr : List (Event Call.Answer)) : Call → Prop
  | .sendFatal error => Reported tr error
  | .storeAuditFailed => ∃ error, Reported tr (.audit error)
  | _ => True

/-- Remembers what was answered. -/
def alarmMonitor : Monitor Call.Answer (List (Event Call.Answer)) := Monitor.recorder AlarmReady

/-- An error that is returned was reported to the function that returns it. -/
def Truthful {α : Type} (result : Except GatewayError α) (tr : List (Event Call.Answer)) : Prop :=
  ∀ error, result = .error error → Reported tr error

/-- So it is, unless the error does not stop the server. -/
def Honest {α : Type} (result : Except GatewayError α) (tr : List (Event Call.Answer)) : Prop :=
  ∀ error, result = .error error → isFatalRequestFailure error = true → Reported tr error

section Results

variable {α β : Type} {tr tr' : List (Event Call.Answer)} {error : GatewayError} {a : α}
  {result : Except GatewayError α}

/-- What was reported stays reported. -/
lemma Reported.mono (h : Reported tr error) (hsub : tr ⊆ tr') : Reported tr' error := by
  cases error with
  | audit error =>
      obtain ⟨event, hmem⟩ := h
      exact ⟨event, hsub hmem⟩
  | auditUnavailable => exact hsub h
  | requestId error => exact hsub h
  | header error => exact h.elim
  | responseBuild => exact h.elim

/-- A result that is no error is truthful. -/
lemma truthful_ok : Truthful (.ok a : Except GatewayError α) tr := nofun

/-- An error that was reported is truthful. -/
lemma truthful_error (h : Reported tr error) :
    Truthful (.error error : Except GatewayError α) tr := by
  rintro _ ⟨⟩
  exact h

/-- A truthful result is honest. -/
lemma Truthful.honest (h : Truthful result tr) : Honest result tr := fun error hresult _ =>
  h error hresult

/-- A result that is no error is honest. -/
lemma honest_ok : Honest (.ok a : Except GatewayError α) tr := nofun

/-- An error that does not stop the server is honest. -/
lemma honest_of_not_fatal (h : isFatalRequestFailure error = false) :
    Honest (.error error : Except GatewayError α) tr := by
  rintro _ ⟨⟩ hfatal
  rw [h] at hfatal
  cases hfatal

/-- Honesty is about the error alone. -/
lemma Honest.passed (h : Honest (.error error : Except GatewayError α) tr) :
    Honest (.error error : Except GatewayError β) tr := by
  rintro _ ⟨⟩ hfatal
  exact h error rfl hfatal

/-- One more event leaves a result honest. -/
lemma Honest.snoc (h : Honest result tr) (e : Event Call.Answer) : Honest result (tr ++ [e]) :=
  fun error hresult hfatal => (h error hresult hfatal).mono (List.subset_append_left tr [e])

end Results

section Functions

variable {X : Crates} {config : GatewayConfig} {α β : Type} {tr : List (Event Call.Answer)}

/-- Expecting a value raises no alarm. -/
lemma safe_alarm_expect (value : Option α) :
    alarmMonitor.Safe (expect value) (fun _ _ => True) tr := by
  cases value with
  | none => exact ⟨trivial, fun r => r.elim⟩
  | some a => trivial

/-! ## Auditing -/

/-- Closing the gate raises the flag, after a failed append. -/
lemma safe_alarm_closeForwarding {error : AuditError} (h : Reported tr (.audit error)) :
    alarmMonitor.Safe Gateway.closeForwarding (fun _ tr' => tr <+: tr') tr := by
  refine ⟨⟨error, h⟩, fun _ => ⟨trivial, fun _ => ⟨trivial, fun _ => ⟨trivial, fun _ => ?_⟩⟩⟩⟩
  simp only [alarmMonitor, Monitor.recorder, Monitor.safe_ret, List.append_assoc]
  exact List.prefix_append _ _

/-- The gate is closed, and the error returned, for the answer of the append. -/
lemma safe_alarm_appendRequiredAuditEvent (event : AuditEvent) :
    alarmMonitor.Safe (Gateway.appendRequiredAuditEvent event) Truthful tr := by
  refine ⟨trivial, ?_⟩
  rintro (error | _)
  · have hreported : Reported (tr ++ [⟨.appendEvent event, .error error⟩]) (.audit error) :=
      ⟨event, List.mem_append_right _ (List.mem_singleton_self _)⟩
    refine (safe_alarm_closeForwarding hreported).bind fun _ tr' hprefix => ?_
    exact truthful_error (hreported.mono hprefix.subset)
  · exact truthful_ok

/-- Auditing a denial is truthful. -/
lemma safe_alarm_auditDenial (requestId : RequestId) (denial : AuditDenial)
    (requestBody : Option AccountedBody) :
    alarmMonitor.Safe (Gateway.auditDenial X config requestId denial requestBody) Truthful tr :=
  ⟨trivial, fun _ => (safe_alarm_expect _).bind fun event _ _ =>
    safe_alarm_appendRequiredAuditEvent event⟩

/-- Auditing a response is truthful. -/
lemma safe_alarm_auditResponse (input : ResponseAuditInput) :
    alarmMonitor.Safe (Gateway.auditResponse X input) Truthful tr :=
  (safe_alarm_expect _).bind fun _ _ _ => ⟨trivial, fun _ => (safe_alarm_expect _).bind
    fun event _ _ => safe_alarm_appendRequiredAuditEvent event⟩

/-- The check at entry is truthful. -/
lemma safe_alarm_requireAuditAvailable :
    alarmMonitor.Safe Gateway.requireAuditAvailable Truthful tr := by
  refine ⟨trivial, ?_⟩
  rintro (_ | _)
  · exact truthful_ok
  · exact truthful_error (List.mem_append_right tr (List.mem_singleton_self _))

/-- Beginning to forward is honest. -/
lemma safe_alarm_beginForwarding : alarmMonitor.Safe Gateway.beginForwarding Honest tr := by
  refine ⟨trivial, fun _ => safe_alarm_requireAuditAvailable.bind ?_⟩
  rintro (error | _) tr' h
  · exact ⟨trivial, fun _ => h.honest.snoc _⟩
  · exact honest_ok

/-! ## Reports -/

/-- A fatal error is reported after it was met. -/
lemma safe_alarm_reportFatalError {error : GatewayError} (h : Reported tr error) :
    alarmMonitor.Safe (reportFatalError error) (fun _ _ => True) tr := ⟨h, fun _ => trivial⟩

/-- A failed request is reported after it was met. -/
lemma safe_alarm_reportRequestFailure {error : GatewayError}
    (h : Honest (.error error : Except GatewayError α) tr) :
    alarmMonitor.Safe (reportRequestFailure error) (fun _ _ => True) tr := by
  rw [reportRequestFailure]
  split
  · rename_i hfatal
    exact (safe_alarm_reportFatalError (h error rfl hfatal)).bind fun _ _ _ => trivial
  · trivial

/-- An identity that was not allocated is reported at once, and not again. -/
lemma safe_alarm_allocateRequestId : alarmMonitor.Safe allocateRequestId Honest tr := by
  refine ⟨trivial, ?_⟩
  rintro (error | requestId)
  · exact (safe_alarm_reportFatalError (List.mem_append_right tr (List.mem_singleton_self _))).bind
      fun _ _ _ => honest_of_not_fatal rfl
  · exact honest_ok

/-! ## Response tasks -/

/-- The audit behind a started response raises no false alarm. -/
lemma safe_alarm_auditAfterResponseStarted (context : ResponseAuditContext)
    (outcome : ResponseStreamOutcome) :
    alarmMonitor.Safe (context.auditAfterResponseStarted X outcome) (fun _ _ => True) tr := by
  rw [ResponseAuditContext.auditAfterResponseStarted]
  split
  · trivial
  · refine (safe_alarm_auditResponse _).bind ?_
    rintro (error | _) tr' h
    · exact (safe_alarm_reportFatalError (h error rfl)).bind fun _ _ _ => trivial
    · trivial

/-- Neither does the end of an aborted stream. -/
lemma safe_alarm_handleResponseStreamAbort (context : ResponseAuditContext)
    (abort : ResponseStreamAbort) :
    alarmMonitor.Safe (handleResponseStreamAbort X context abort) (fun _ _ => True) tr := by
  refine (safe_alarm_auditAfterResponseStarted context abort.outcome).bind ?_
  rintro ⟨result, _⟩ tr' -
  split
  · exact ⟨trivial, fun _ => trivial⟩
  · trivial

/-- Neither does the conclusion of a stream. -/
lemma safe_alarm_concludeStream (context : ResponseAuditContext)
    (result : Except Interrupt ResponseStreamCompletion) :
    alarmMonitor.Safe (concludeStream X context result) (fun _ _ => True) tr := by
  rcases result with (_ | _) | (abort | _ | finalChunk)
  · exact ⟨trivial, fun _ => trivial⟩
  · exact safe_alarm_handleResponseStreamAbort context _
  · exact safe_alarm_handleResponseStreamAbort context _
  · refine (safe_alarm_auditAfterResponseStarted context _).bind ?_
    rintro ⟨_ | _, _⟩ tr' -
    · exact ⟨trivial, fun _ => trivial⟩
    · trivial
  · refine (safe_alarm_auditAfterResponseStarted context _).bind ?_
    rintro ⟨_ | _, _⟩ tr' -
    · exact ⟨trivial, fun _ => ⟨trivial, fun _ => trivial⟩⟩
    · exact ⟨trivial, fun _ => trivial⟩

/-- **Response tasks** report what they were answered. -/
theorem safe_alarm_responseTask (context : ResponseAuditContext) (response : UpstreamResponse) :
    alarmMonitor.Safe (responseTask X context response) (fun _ _ => True) tr := by
  have hstreams : ∀ op : Call, op.StreamsBody → ∀ tr', AlarmReady tr' op := by
    intro op hop _
    cases op with
    | sendFatal error => exact hop.elim
    | storeAuditFailed => exact hop.elim
    | _ => trivial
  refine Monitor.Safe.bind (Monitor.safe_recorder_of_makes
    (makes_streamUpstreamResponse _ context.responseAccount none)
    fun added _ op hop => hstreams op hop _) ?_
  rintro ⟨account, result⟩ tr' -
  exact (safe_alarm_concludeStream _ _).bind fun _ _ _ => ⟨trivial, fun _ => trivial⟩

/-! ## Handlers -/

/-- Dropping the permit leaves the result honest. -/
lemma safe_alarm_droppingPermit {result : Async (Except GatewayError Response)}
    (h : alarmMonitor.Safe result Honest tr) :
    alarmMonitor.Safe (droppingPermit result) Honest tr :=
  h.bind fun _ _ hhonest => ⟨trivial, fun _ => hhonest.snoc _⟩

/-- Denying a request is honest. -/
lemma safe_alarm_auditDenialStatus (requestId : RequestId) (denial : AuditDenial)
    (requestBody : Option AccountedBody) :
    alarmMonitor.Safe (auditDenialStatus X config requestId denial requestBody) Honest tr := by
  refine (safe_alarm_auditDenial requestId denial requestBody).bind ?_
  rintro (error | _) tr' h
  · exact h.honest.passed
  · exact honest_ok

/-- Answering with an audited status is honest. -/
lemma safe_alarm_auditResponseStatus (input : ResponseAuditInput) (status : StatusCode) :
    alarmMonitor.Safe (auditResponseStatus X input status) Honest tr := by
  refine (safe_alarm_auditResponse input).bind ?_
  rintro (error | _) tr' h
  · exact h.honest.passed
  · exact honest_ok

/-- The decision on the target is honest. -/
lemma safe_alarm_acceptAllowedTarget (requestId : RequestId) (method : Method) (uri : Uri) :
    alarmMonitor.Safe (acceptAllowedTarget X config requestId method uri) Honest tr := by
  refine (safe_alarm_expect _).bind ?_
  rintro (denial | target) tr' -
  · refine (safe_alarm_auditDenialStatus requestId denial none).bind ?_
    rintro (error | response) tr'' h
    · exact h.passed
    · exact honest_ok
  · exact honest_ok

/-- Forwarding the response is honest. -/
lemma safe_alarm_forwardResponse (input : ForwardRequestInput) (response : UpstreamResponse) :
    alarmMonitor.Safe (forwardResponse X config input response) Honest tr := by
  refine (safe_alarm_expect _).bind ?_
  rintro (error | headers) tr' -
  · exact safe_alarm_droppingPermit (safe_alarm_auditResponseStatus _ _)
  · refine ⟨trivial, fun _ => ?_⟩
    dsimp only
    split
    · exact honest_ok
    · exact honest_of_not_fatal rfl

/-- Forwarding the request is honest. -/
lemma safe_alarm_forwardRequest (input : ForwardRequestInput) :
    alarmMonitor.Safe (forwardRequest X config input) Honest tr := by
  refine safe_alarm_beginForwarding.bind ?_
  rintro (error | _) tr' h
  · exact safe_alarm_droppingPermit h.passed
  · refine ⟨trivial, fun _ => ⟨trivial, ?_⟩⟩
    rintro (error | response)
    · exact ⟨trivial, fun _ => safe_alarm_droppingPermit (safe_alarm_auditResponseStatus _ _)⟩
    · exact ⟨trivial, fun _ => safe_alarm_forwardResponse input response⟩

/-- Handling an allowed target is honest. -/
lemma safe_alarm_handleAllowedTarget (requestId : RequestId) (request : HttpRequest)
    (target : AllowedTarget) :
    alarmMonitor.Safe (handleAllowedTarget X config requestId request target) Honest tr := by
  refine (safe_alarm_expect _).bind ?_
  rintro (error | headers) tr' -
  · exact safe_alarm_droppingPermit (safe_alarm_auditDenialStatus _ _ _)
  · refine ⟨trivial, ?_⟩
    rintro (_ | (error | body))
    · exact safe_alarm_droppingPermit (safe_alarm_auditDenialStatus _ _ _)
    · exact safe_alarm_droppingPermit (safe_alarm_auditDenialStatus _ _ _)
    · exact safe_alarm_forwardRequest _

/-- Handling a request is honest. -/
lemma safe_alarm_handleRequest (request : HttpRequest) :
    alarmMonitor.Safe (handleRequest X config request) Honest tr := by
  refine safe_alarm_allocateRequestId.bind ?_
  rintro (error | requestId) tr' h
  · exact safe_alarm_droppingPermit h.passed
  · refine (safe_alarm_acceptAllowedTarget requestId _ _).bind ?_
    rintro (error | response | target) tr'' h
    · exact safe_alarm_droppingPermit h.passed
    · exact safe_alarm_droppingPermit honest_ok
    · exact safe_alarm_handleAllowedTarget requestId request target

/-- Refusing a request raises no false alarm. -/
lemma safe_alarm_rejectTooManyRequests (request : HttpRequest) :
    alarmMonitor.Safe (rejectTooManyRequests X config request) (fun _ _ => True) tr := by
  refine safe_alarm_allocateRequestId.bind ?_
  rintro (error | requestId) tr' -
  · trivial
  · refine (safe_alarm_expect _).bind fun target _ _ =>
      (safe_alarm_auditDenial requestId _ none).bind ?_
    rintro (error | _) tr'' h
    · exact (safe_alarm_reportRequestFailure h.honest).bind fun _ _ _ => trivial
    · trivial

/-- **Handlers** report what they were answered. -/
theorem safe_alarm_proxy (request : HttpRequest) :
    alarmMonitor.Safe (proxy X config request) (fun _ _ => True) tr := by
  refine safe_alarm_requireAuditAvailable.bind ?_
  rintro (error | _) tr' h
  · exact (safe_alarm_reportFatalError (h error rfl)).bind fun _ _ _ => trivial
  · refine ⟨trivial, ?_⟩
    rintro (_ | _)
    · exact safe_alarm_rejectTooManyRequests request
    · refine (safe_alarm_handleRequest request).bind ?_
      rintro (error | response) tr'' h
      · exact safe_alarm_reportRequestFailure h
      · trivial

end Functions

end Custode
