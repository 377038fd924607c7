import Custode.Http.StreamLaw

/-!
# Events after upstream I/O survive a restart

`Upstream` is about one of the startup checks, the recorded upstream target. Here are all of them:
an event that the gateway writes about an upstream exchange passes the whole validation of
`AuditWriter::open`, for every outcome of the exchange and of the response stream.

* `validateBeforeUpstream_of_attempted` — the checks that do not look at the upstream target;
* `response_event_accepted` — the whole validation.
-/

namespace Custode

open Found Found.Text

variable {X : Crates}

/-! ## Bodies -/

/-- A body summary is read as observed when it is. -/
lemma isObserved_of_read {body : AuditBodySummary} {summary : ExistingAuditBodySummary}
    (h : ExistingAuditBodySummary.read body = .ok summary) (hbody : body ≠ .notObserved) :
    summary.isObserved = true := by
  obtain ⟨observed, hobserved, hsame⟩ := ExistingAuditBodySummary.read_total body
  obtain rfl : observed = summary := Except.ok.inj (hobserved.symm.trans h)
  cases observed with
  | notObserved => exact absurd (hsame.mpr rfl) hbody
  | _ => rfl

/-- A request body that was read is observed. -/
lemma AuditBodySummary.fromRequestBody_ne (body : AccountedBody) :
    AuditBodySummary.fromRequestBody X body ≠ .notObserved := by
  unfold AuditBodySummary.fromRequestBody
  cases body.observation X <;> exact nofun

/-- A response body that was streamed is observed. -/
lemma ObservedBodySummary.intoSummary_ne (body : ObservedBodySummary) :
    body.intoSummary ≠ .notObserved := by
  cases body <;> exact nofun

/-! ## Classes -/

/-- The class that the reader makes of a response header error. -/
def AuditResponseHeaderError.existing : AuditResponseHeaderError → ExistingAuditErrorClass
  | invalidConnectionHeader => .invalidResponseConnectionHeader
  | tooLarge => .responseHeadersTooLarge

/-- The class that the reader makes of a response error. -/
def AuditResponseError.existing : AuditResponseError → ExistingAuditErrorClass
  | downstreamClosed _ _ => .downstreamClosed
  | responseBodyTooLarge _ _ => .responseBodyTooLarge
  | responseHeader error => error.existing
  | responseStreamTimeout _ _ => .responseStreamTimeout
  | upstreamResponseStreamFailed _ _ => .upstreamResponseStreamFailed
  | upstreamResponseTimeout _ _ => .upstreamResponseTimeout

/-- The class that the reader makes of an upstream error. -/
def AuditUpstreamError.existing : AuditUpstreamError → ExistingAuditErrorClass
  | connect => .upstreamConnectFailed
  | request => .upstreamRequestFailed
  | timeout => .upstreamTimeout

/-- The class that the reader makes of an outcome. -/
def AuditOutcome.existing : AuditOutcome → Option ExistingAuditErrorClass
  | allowed _ _ _ => none
  | denied reason => some reason.existing
  | responseError error _ => some error.existing
  | upstreamError error _ => some error.existing

/-- The class of every outcome is read back. -/
lemma AuditOutcome.read_errorClass (outcome : AuditOutcome) :
    readOptional ExistingAuditErrorClass.ofName outcome.eventParts.2.1 = .ok outcome.existing := by
  cases outcome with
  | allowed responseBody status upstream => rfl
  | denied reason =>
      obtain ⟨hname, -⟩ := reason.existing_spec
      rw [AuditOutcome.eventParts, readOptional, hname]
      rfl
  | responseError error upstream =>
      cases error with
      | responseHeader error => cases error <;> rfl
      | _ => rfl
  | upstreamError error upstream => cases error <;> rfl

/-- A response error is of its own kind of class, and has the class's status if there is one. -/
lemma AuditResponseError.existing_spec (error : AuditResponseError) :
    error.existing.isResponseError = true ∧ error.existing.isDenial = false ∧
      ∀ status ∈ error.existing.fixedStatus, error.intoParts.2.2 = status := by
  cases error with
  | responseHeader error => cases error <;> exact ⟨rfl, rfl, fun _ h => Option.some.inj h⟩
  | _ => exact ⟨rfl, rfl, nofun⟩

/-- An upstream error is of its own kind of class, and has the class's status. -/
lemma AuditUpstreamError.existing_spec (error : AuditUpstreamError) :
    error.existing.isUpstreamError = true ∧ error.existing.isDenial = false ∧
      ∀ status ∈ error.existing.fixedStatus, error.status = status := by
  cases error <;> exact ⟨rfl, rfl, fun _ h => Option.some.inj h⟩

/-! ## The checks in front of the upstream target -/

section Checks

variable {fields : ExistingAuditEventFields} {errorClass : Option ExistingAuditErrorClass}

/-- The checks of an event that is no denial come down to those of its class, its response body and
its status. -/
lemma validateBeforeUpstream_of_attempted (hclass : fields.validateErrorClass = .ok errorClass)
    (hdecision : fields.decision ≠ .denied) (hdenial : ∀ c ∈ errorClass, c.isDenial = false)
    (hmethod : fields.method ≠ Method.connect.text)
    (hrequest : fields.requestBody.isObserved = true)
    (hresponse : fields.validateResponseBody errorClass = .ok ())
    (hstatus : ∀ status ∈ errorClass.bind ExistingAuditErrorClass.fixedStatus,
      fields.status = status) :
    fields.validateBeforeUpstream X = .ok () := by
  have htarget : fields.validateDeniedTarget X errorClass = .ok () := by
    unfold ExistingAuditEventFields.validateDeniedTarget
    cases errorClass with
    | none => rfl
    | some c => exact if_pos hdecision
  have hconnect : fields.validateMethod errorClass = .ok () := by
    unfold ExistingAuditEventFields.validateMethod
    rcases errorClass with _ | c
    · simp [hmethod]
    · have hc := hdenial c rfl
      cases c <;> first | (simp [hmethod]; done) | cases hc
  have hbody : fields.validateRequestBody errorClass = .ok () := by
    have hobserved :
        errorClass.any ExistingAuditErrorClass.requiresUnobservedRequestBody = false := by
      rcases errorClass with _ | c
      · rfl
      · have hc := hdenial c rfl
        cases c <;> first | rfl | cases hc
    rw [ExistingAuditEventFields.validateRequestBody, hobserved, if_neg Bool.false_ne_true]
    exact if_pos (.inr hrequest)
  have hfixed : fields.validateStatus errorClass = .ok () := by
    unfold ExistingAuditEventFields.validateStatus
    rcases hexpected : errorClass.bind ExistingAuditErrorClass.fixedStatus with _ | status
    · rfl
    · exact if_neg (not_not.mpr (hstatus status hexpected))
  rw [ExistingAuditEventFields.validateBeforeUpstream, hclass]
  simp only [bind, Except.bind, htarget, hconnect, hbody, hresponse, hfixed]

end Checks

section Outcomes

variable {observed : ObservedAuditRequestInput} {input : AuditEventInput}

/-- The response body of a response error is as its class says. -/
lemma validateResponseErrorBody_of_read {error : AuditResponseError}
    {fields : ExistingAuditEventFields}
    (h : ExistingAuditBodySummary.read error.intoParts.2.1 = .ok fields.responseBody) :
    fields.validateResponseErrorBody (some error.existing) = .ok () := by
  have hobserved : error.intoParts.2.1 ≠ .notObserved → fields.responseBody.isObserved = true :=
    isObserved_of_read h
  cases error with
  | responseHeader error =>
      have hnone : fields.responseBody = .notObserved := (Except.ok.inj h).symm
      cases error <;> simp [ExistingAuditEventFields.validateResponseErrorBody,
        AuditResponseError.existing, AuditResponseHeaderError.existing, hnone,
        ExistingAuditBodySummary.isNotObserved]
  | responseBodyTooLarge body status =>
      have hbody := hobserved nofun
      rw [AuditResponseError.intoParts, ExistingAuditBodySummary.read,
        deserializeBlake3Hex_toHexString] at h
      have hnonEmpty := (Except.ok.inj h).symm
      simp [ExistingAuditEventFields.validateResponseErrorBody, AuditResponseError.existing,
        hnonEmpty]
  | downstreamClosed body status =>
      have hbody := hobserved body.intoSummary_ne
      simp [ExistingAuditEventFields.validateResponseErrorBody, AuditResponseError.existing, hbody]
  | responseStreamTimeout body status =>
      have hbody := hobserved body.intoSummary_ne
      simp [ExistingAuditEventFields.validateResponseErrorBody, AuditResponseError.existing, hbody]
  | upstreamResponseStreamFailed body status =>
      have hbody := hobserved body.intoSummary_ne
      simp [ExistingAuditEventFields.validateResponseErrorBody, AuditResponseError.existing, hbody]
  | upstreamResponseTimeout body status =>
      have hbody := hobserved body.intoSummary_ne
      simp [ExistingAuditEventFields.validateResponseErrorBody, AuditResponseError.existing, hbody]

/-- The event of a concluded request passes the checks in front of the upstream target. -/
lemma validateBeforeUpstream_readFields (h : observed.Concludes input) {method : Text}
    {requestBody responseBody : ExistingAuditBodySummary} (timestamp : AuditTimestamp)
    (readOrigin : UpstreamOrigin) (hmethod : method ≠ Method.connect.text)
    (hrequest : requestBody.isObserved = true)
    (hresponse : ExistingAuditBodySummary.read input.outcome.eventParts.2.2.1 = .ok responseBody) :
    (input.readFields input.outcome.existing method requestBody responseBody timestamp
      readOrigin).validateBeforeUpstream X = .ok () := by
  cases h with
  | allowed body status =>
      have hbody : responseBody.isObserved = true :=
        isObserved_of_read hresponse body.intoSummary_ne
      exact @validateBeforeUpstream_of_attempted X _ none rfl nofun nofun hmethod
        hrequest (if_pos hbody) nofun
  | responseError error =>
      obtain ⟨hclass, hdenial, hstatus⟩ := error.existing_spec
      refine @validateBeforeUpstream_of_attempted X _ (some error.existing) ?_ nofun ?_
        hmethod hrequest ?_ hstatus
      · exact if_pos hclass
      · rintro c ⟨⟩
        exact hdenial
      · exact @validateResponseErrorBody_of_read error _ hresponse
  | upstreamError error =>
      obtain ⟨hclass, hdenial, hstatus⟩ := error.existing_spec
      obtain rfl : responseBody = .notObserved := (Except.ok.inj hresponse).symm
      refine @validateBeforeUpstream_of_attempted X _ (some error.existing) ?_ nofun ?_
        hmethod hrequest rfl hstatus
      · exact if_pos hclass
      · rintro c ⟨⟩
        exact hdenial

end Outcomes

/-! ## The whole validation -/

/-- The request that an observed request records. -/
lemma request_of_new {allowed : AllowedTarget} {requestId : RequestId} {body : AccountedBody}
    {observed : ObservedAuditRequestInput}
    (h : ObservedAuditRequestInput.new X allowed requestId body = some observed) :
    observed.request = ⟨AuditBodySummary.fromRequestBody X body, allowed.method.method, requestId,
      AuditTarget.fromAccepted allowed.target, allowed.upstreamOrigin⟩ := by
  rw [observed_new, Option.map_eq_some_iff] at h
  obtain ⟨upstream, -, rfl⟩ := h
  rfl

/-- What is read of the event of a response, and that it passes the validation. -/
lemma read_forResponse {input : ResponseAuditInput} {timestamp : AuditTimestamp}
    (readOrigin : UpstreamOrigin) {event : AuditEvent}
    (h : AuditEvent.forResponse X input timestamp = some event) :
    ∃ fields, ExistingAuditEventFields.read event readOrigin = .ok fields ∧
      fields.validate X = some (.ok ()) := by
  have hroom := (AuditEvent.forResponse_ne_none_iff input timestamp).mp
    (Option.ne_none_iff_exists'.mpr ⟨event, h⟩)
  obtain ⟨observed, hobserved, hupstream⟩ := (upstreamAuditAccepted_iff_hasRoom (X := X)
    input.target input.requestId input.requestBody).mpr hroom
  have hconcludes := input.outcome.concludes observed
  rw [AuditEvent.forResponse, hobserved, Option.bind_eq_bind, Option.bind_some] at h
  generalize input.outcome.eventInput observed = eventInput at hconcludes h
  obtain ⟨event', fields, hevent, hread, htarget⟩ := hupstream eventInput hconcludes timestamp
    readOrigin
  obtain rfl : event' = event := Option.some.inj (hevent.symm.trans h)
  have hrequest := (eventParts_of_concludes hconcludes).1.trans (request_of_new hobserved)
  have hbounded : eventInput.request.target.Bounded := by
    rw [hrequest]
    exact AuditTarget.bounded_fromAccepted input.target.target
  obtain ⟨event'', method, requestBody, responseBody, hevent', hread', hconnect, hbody,
    hresponse⟩ := read_newAt (X := X) eventInput hbounded (AuditOutcome.read_errorClass _)
      timestamp readOrigin
  obtain rfl : event'' = event' := Option.some.inj (hevent'.symm.trans hevent)
  obtain rfl : _ = fields := Except.ok.inj (hread'.symm.trans hread)
  refine ⟨_, hread, ?_⟩
  rw [hrequest] at hconnect hbody
  have hmethod : method ≠ Method.connect.text :=
    fun heq => input.target.method.supported (hconnect.mp heq)
  rw [ExistingAuditEventFields.validate, validateBeforeUpstream_readFields hconcludes timestamp
    readOrigin hmethod (isObserved_of_read hbody (AuditBodySummary.fromRequestBody_ne _)) hresponse]
  exact htarget

/-- **Events after upstream I/O.** For every outcome of an upstream exchange, the event is built and
passes the whole startup validation, however its origin is read, exactly when the accepted query has
room for its apostrophes. -/
theorem response_event_accepted (X : Crates) (input : ResponseAuditInput)
    (timestamp : AuditTimestamp) :
    (∃ event, AuditEvent.forResponse X input timestamp = some event ∧
        ∀ readOrigin, ∃ fields, ExistingAuditEventFields.read event readOrigin = .ok fields ∧
          fields.validate X = some (.ok ())) ↔
      ∀ query ∈ input.target.target.query,
        byteLen query.value + 2 * query.value.count '\'' ≤ maxOriginFormQueryBytes := by
  have hbuilt : AuditEvent.forResponse X input timestamp ≠ none ↔
      ∀ query ∈ input.target.target.query, HasRoom query.value :=
    AuditEvent.forResponse_ne_none_iff input timestamp
  rw [show (∀ query ∈ input.target.target.query, byteLen query.value + 2 * query.value.count '\'' ≤
    maxOriginFormQueryBytes) ↔ AuditEvent.forResponse X input timestamp ≠ none from hbuilt.symm]
  constructor
  · rintro ⟨event, hevent, -⟩
    rw [hevent]
    exact Option.some_ne_none event
  · intro h
    obtain ⟨event, hevent⟩ := Option.ne_none_iff_exists'.mp h
    exact ⟨event, hevent, fun readOrigin => read_forResponse readOrigin hevent⟩

end Custode
