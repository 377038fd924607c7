import Custode.Audit.Agreement
import Custode.Audit.ReadBack

/-!
# Events that the script verifies

The events that the gateway builds pass the script whatever the request and the origin are: the
script asks for the strings of a target and of an origin only that they are strings. This is not so
of the startup validation (`denials_accepted_iff`, `origin_roundTrips_iff`).

* `AuditEvent.Concluded` — how the request of an event ended, in the fields of the event.
* `auditId_of_concluded` — an event with an outcome and a printed timestamp passes `audit_id`.
* `Decided.concluded` — the events that the gateway builds have an outcome.
-/

namespace Custode

open Found Found.Text Found.Serde

variable {X : Crates} {jq : Jq} {event : AuditEvent} {outcome : AuditOutcome}

/-! ## The outcome of an event -/

/-- The event has the decision, the error class, the response body and the upstream target of the
outcome; unless it is a denial its request body was observed. -/
structure AuditEvent.Concluded (event : AuditEvent) (outcome : AuditOutcome) : Prop where
  decision : event.decision = outcome.eventParts.1
  errorClass : event.errorClass = outcome.eventParts.2.1
  requestBody : event.decision ≠ .denied → event.requestBody ≠ .notObserved
  responseBody : event.responseBody = outcome.eventParts.2.2.1
  upstreamPath : event.upstreamPath =
    outcome.eventParts.2.2.2.2.map fun target => target.path.value
  upstreamQuery : event.upstreamQuery =
    outcome.eventParts.2.2.2.2.bind fun target => target.query.map fun query => query.value

/-- An event takes its outcome over from its input. -/
lemma concluded_of_newAt {input : AuditEventInput} {timestamp : AuditTimestamp}
    (h : AuditEvent.newAt X input timestamp = some event)
    (hbody : input.outcome.eventParts.1 ≠ .denied → input.request.body ≠ .notObserved) :
    event.Concluded input.outcome := by
  obtain ⟨method, -, rfl⟩ := Option.map_eq_some_iff.mp h
  exact ⟨rfl, rfl, hbody, rfl, rfl, rfl⟩

/-- The events that the gateway builds have an outcome. -/
lemma Decided.concluded {config : GatewayConfig} {request : HttpRequest}
    (h : Decided X config request event) : ∃ outcome, event.Concluded outcome := by
  cases h with
  | denied recordable built => exact ⟨_, concluded_of_newAt built fun hne => (hne rfl).elim⟩
  | @response input timestamp decided built =>
      obtain ⟨observed, hobserved, hevent⟩ := Option.bind_eq_some_iff.mp built
      refine ⟨_, concluded_of_newAt hevent fun _ => ?_⟩
      rw [(eventParts_of_concludes (input.outcome.concludes observed)).1,
        request_of_new hobserved]
      exact AuditBodySummary.fromRequestBody_ne _

/-! ## The checks of the script -/

/-- A body was observed unless its summary says that it was not. -/
lemma observedBody_json {summary : AuditBodySummary} (h : summary ≠ .notObserved) :
    Script.observedBody summary.json = true := by
  cases summary with
  | empty => decide
  | nonEmpty blake3 bytes => rfl
  | notObserved => exact absurd rfl h

/-- The state of a body with bytes. -/
lemma isText_nonEmpty_json (blake3 : Hash) (bytes : NonZeroU64) :
    ((AuditBodySummary.nonEmpty blake3 bytes).json.field "state").isText "non_empty" = true := rfl

/-- The summary of a body is verified. -/
lemma validBodySummary_json (summary : AuditBodySummary) :
    Script.validBodySummary jq summary.json = true := by
  obtain ⟨read, hread, -⟩ := ExistingAuditBodySummary.read_total summary
  exact (bodySummary_verified_iff (ExistingAuditBodySummary.deserialize_json hread)).mpr
    (plainSummary_json summary)

/-- The script lists the error classes of denials. -/
lemma errorClass_mem_denied (reason : AuditDenialReason) :
    reason.errorClass ∈ Script.deniedErrorClasses := by
  cases reason <;> decide

/-- The script lists the error classes of response errors. -/
lemma errorClass_mem_response (error : AuditResponseError) :
    error.intoParts.1 ∈ Script.responseErrorClasses := by
  cases error with
  | responseHeader error => cases error <;> decide
  | _ => simp [AuditResponseError.intoParts, Script.responseErrorClasses]

/-- The script lists the error classes of upstream errors. -/
lemma errorClass_mem_upstream (error : AuditUpstreamError) :
    error.errorClass ∈ Script.upstreamErrorClasses := by
  cases error <;> decide

/-- The error class is one of the decision's. -/
lemma AuditEvent.Concluded.validErrorClass (h : event.Concluded outcome) :
    Script.validErrorClass event.json = true := by
  have hdecision : event.json.field "decision" = .string event.decision.name := rfl
  have hclass : event.json.field "error_class" =
    optionalText (event.errorClass.map String.toList) := rfl
  unfold Script.validErrorClass
  rw [hdecision, hclass, h.decision, h.errorClass]
  cases outcome with
  | allowed responseBody status upstream => rfl
  | denied reason => exact containsValue_of_mem (errorClass_mem_denied reason)
  | responseError error upstream => exact containsValue_of_mem (errorClass_mem_response error)
  | upstreamError error upstream => exact containsValue_of_mem (errorClass_mem_upstream error)

/-- There is an upstream target unless the event is a denial. -/
lemma AuditEvent.Concluded.validTargetState (h : event.Concluded outcome) :
    Script.validTargetState event.json = true := by
  have hdecision : event.json.field "decision" = .string event.decision.name := rfl
  have hpath : event.json.field "upstream_path" = optionalText event.upstreamPath := rfl
  have hquery : event.json.field "upstream_query" = optionalText event.upstreamQuery := rfl
  unfold Script.validTargetState
  rw [hdecision, hpath, hquery, h.decision, h.upstreamPath, h.upstreamQuery]
  cases outcome with
  | denied reason => rfl
  | allowed responseBody status upstream => obtain ⟨path, _ | query⟩ := upstream <;> rfl
  | responseError error upstream => obtain ⟨path, _ | query⟩ := upstream <;> rfl
  | upstreamError error upstream => obtain ⟨path, _ | query⟩ := upstream <;> rfl

/-- The response body of a response error is the one that its class asks for. -/
lemma responseErrorBody_json (error : AuditResponseError) :
    (if (Json.string error.intoParts.1.toList).isText "invalid_response_connection_header" ||
        (Json.string error.intoParts.1.toList).isText "response_headers_too_large" then
      (error.intoParts.2.1.json.field "state").isText "not_observed"
    else if (Json.string error.intoParts.1.toList).isText "response_body_too_large" then
      (error.intoParts.2.1.json.field "state").isText "non_empty"
    else Script.observedBody error.intoParts.2.1.json) = true := by
  simp only [isText_toList]
  cases error with
  | responseHeader error => cases error <;> decide
  | responseBodyTooLarge responseBody status =>
      exact isText_nonEmpty_json responseBody.observation.blake3 responseBody.observation.bytes
  | downstreamClosed responseBody status => exact observedBody_json responseBody.intoSummary_ne
  | responseStreamTimeout responseBody status =>
      exact observedBody_json responseBody.intoSummary_ne
  | upstreamResponseStreamFailed responseBody status =>
      exact observedBody_json responseBody.intoSummary_ne
  | upstreamResponseTimeout responseBody status =>
      exact observedBody_json responseBody.intoSummary_ne

/-- The bodies were observed where the outcome says so. -/
lemma AuditEvent.Concluded.validBodyState (h : event.Concluded outcome) :
    Script.validBodyState event.json = true := by
  have hdecision : event.json.field "decision" = .string event.decision.name := rfl
  have hclass : event.json.field "error_class" =
    optionalText (event.errorClass.map String.toList) := rfl
  have hrequest : event.json.field "request_body" = event.requestBody.json := rfl
  have hresponse : event.json.field "response_body" = event.responseBody.json := rfl
  have hobserved : event.decision ≠ .denied →
      Script.observedBody event.requestBody.json = true := fun hsent =>
    observedBody_json (h.requestBody hsent)
  simp only [Script.validBodyState, hdecision, hclass, hrequest, hresponse, h.responseBody,
    h.errorClass]
  rw [h.decision] at hobserved ⊢
  cases outcome with
  | denied reason => rfl
  | upstreamError error upstream =>
      rw [hobserved (by simp [AuditOutcome.eventParts])]
      rfl
  | allowed responseBody status upstream =>
      rw [hobserved (by simp [AuditOutcome.eventParts])]
      exact observedBody_json responseBody.intoSummary_ne
  | responseError error upstream =>
      rw [hobserved (by simp [AuditOutcome.eventParts])]
      exact responseErrorBody_json error

/-- The status is one that the script reads. -/
lemma validStatus_json (status : StatusCode) :
    Script.validStatus jq (.number (.natural status.code)) = true := by
  have hlow : (100 : ℚ) ≤ status.code := by exact_mod_cast status.valid.1
  have hhigh : (status.code : ℚ) ≤ 999 := by exact_mod_cast Nat.le_of_lt_succ status.valid.2
  have hwhole : (status.code : ℚ) = ((status.code : ℚ).floor : ℚ) := by
    rw [← Int.cast_natCast, Rat.floor_intCast]
  rw [Script.validStatus, jq.exact _ ((Nat.le_of_lt status.valid.2).trans (by decide))]
  exact decide_eq_true ⟨hwhole, hlow, hhigh⟩

/-- An optional text is null or a string. -/
lemma isNull_or_isString_optionalText (text : Option Text) :
    (optionalText text).isNull = true ∨ (optionalText text).isString = true := by
  cases text with
  | none => exact .inl rfl
  | some text => exact .inr rfl

/-- An event with an outcome and a printed timestamp passes every check in front of its identity. -/
lemma AuditEvent.Concluded.eventChecks (h : event.Concluded outcome)
    (htime : fits nanosTimestamp event.timestamp.text = true) :
    ∀ check ∈ Script.eventChecks jq event.json, check.1 = true := by
  have hversion : Script.validVersion jq (.number (.natural AuditSchemaVersion.asU8)) = true := by
    rw [Script.validVersion, jq.exact _ (by decide)]
    decide
  have hdecision : Script.validDecision (.string event.decision.name) = true := by
    cases event.decision <;> decide
  simp only [Script.eventChecks, List.forall_mem_cons, Bool.and_eq_true, Bool.or_eq_true]
  exact ⟨rfl, rfl, hversion, jqTest_of_fits htime, ⟨rfl, hdecision⟩, rfl, rfl,
    isNull_or_isString_optionalText event.query, rfl, validStatus_json event.status,
    validBodySummary_json event.requestBody, validBodySummary_json event.responseBody,
    h.validErrorClass, h.validTargetState, h.validBodyState, List.forall_mem_nil _⟩

/-- The script accepts it, under its identity. -/
lemma auditId_of_concluded (h : event.Concluded outcome)
    (htime : fits nanosTimestamp event.timestamp.text = true) :
    Script.auditId jq event.json = .ok event.requestId.display :=
  auditId_eq_ok_iff.mpr ⟨h.eventChecks htime, rfl,
    requestId_verified (isExistingRequestId_display event.requestId)⟩

/-- The script answers the identities of events that the gateway built. -/
lemma mapM_auditId_json {events : List AuditEvent}
    (h : ∀ event ∈ events, (∃ outcome, event.Concluded outcome) ∧
      fits nanosTimestamp event.timestamp.text = true) :
    (events.map AuditEvent.json).mapM (Script.auditId jq) =
      .ok (events.map fun event => event.requestId.display) := by
  induction events with
  | nil => rfl
  | cons event events ih =>
      rw [List.forall_mem_cons] at h
      obtain ⟨⟨⟨outcome, hconcluded⟩, htime⟩, hevents⟩ := h
      rw [List.map_cons, List.mapM_cons, auditId_of_concluded hconcluded htime, ih hevents]
      rfl

/-- The values of events have the written shape. -/
lemma plain_of_mem_json (events : List AuditEvent) :
    ∀ value ∈ events.map AuditEvent.json, Plain value := by
  intro value hvalue
  obtain ⟨event, -, rfl⟩ := List.mem_map.mp hvalue
  exact plain_json event

/-- The checks of the script hold for events that the gateway built, if no two have one identity. -/
lemma verifyAuditLog_json {events : List AuditEvent}
    (h : ∀ event ∈ events, (∃ outcome, event.Concluded outcome) ∧
      fits nanosTimestamp event.timestamp.text = true)
    (hdistinct : (events.map fun event => event.requestId).Nodup) :
    Script.verifyAuditLog jq (events.map AuditEvent.json) = .ok () := by
  have hnodup : (events.map fun event => event.requestId.display).Nodup := by
    have hshown := hdistinct.map RequestId.display_injective
    rwa [List.map_map] at hshown
  unfold Script.verifyAuditLog Script.requireValidAuditEvents
  rw [requireValidNdjson_of_plain (plain_of_mem_json events) 1, mapM_auditId_json h]
  exact if_pos (by rw [List.dedup_eq_self.mpr hnodup])

end Custode
