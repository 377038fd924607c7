import Custode.Audit.RequestIds

/-!
# Written events are read back

What the startup reader makes of the fields that the writer records: digests and methods are always
read back (as request identities are), and a denied event is read as `deniedFields`. From there
`DenialAccepted` — the startup validator accepts the event written for a denial — comes down to its
two checks of the recorded target and method (`denialAccepted_iff`).
-/

namespace Custode

open Found Found.Text

/-! ## Digests -/

/-- A recorded digest is read back. -/
lemma deserializeBlake3Hex_toHexString (hash : Hash) :
    deserializeBlake3Hex hash.toHexString = .ok hash.toHexString := by
  obtain ⟨hlen, hall, -⟩ := hexBytes_lowerHex hash.bytes
  rw [hash.size] at hlen
  exact if_pos ⟨hlen, hall⟩

/-- Every body summary that is written is read back, as observed as it was. -/
lemma ExistingAuditBodySummary.read_total (body : AuditBodySummary) :
    ∃ summary, ExistingAuditBodySummary.read body = .ok summary ∧
      (body = .notObserved ↔ summary = .notObserved) := by
  cases body with
  | empty => exact ⟨.empty, rfl, by simp⟩
  | nonEmpty blake3 bytes =>
      refine ⟨.nonEmpty blake3.toHexString bytes, ?_, by simp⟩
      rw [ExistingAuditBodySummary.read, deserializeBlake3Hex_toHexString]
      rfl
  | notObserved => exact ⟨.notObserved, rfl, by simp⟩

/-! ## Methods -/

/-- A non-empty cut of a method is a method. -/
lemma Method.fromBytes_takeBytes (method : Method) {n : Nat}
    (hne : takeBytes n method.text ≠ []) : (Method.fromBytes (takeBytes n method.text)).isSome := by
  have hkept : isToken (takeBytes n method.text) = true := by
    apply isToken_iff.mpr
    refine ⟨hne, ?_⟩
    exact fun c hc => method.isTokenChar_of_mem c ((takeBytes_isPrefix _ _).subset hc)
  have hfits : byteLen (takeBytes n method.text) ≤ isizeMax :=
    (byteLen_mono (takeBytes_isPrefix _ _)).trans method.fits
  rw [Method.fromBytes, dif_pos ⟨hkept, hfits⟩]
  rfl

/-- An over-long method is read back cut. -/
lemma isExistingAuditMethod_of_lt {method : Method}
    (hlong : maxAllowedMethodBytes < byteLen method.text) :
    isExistingAuditMethod (takeBytes (cutOffset method.text maxAllowedMethodBytes) method.text ++
      truncationMarker (byteLen method.text)) = true := by
  have hroom : maxAllowedMethodBytes = 64 := rfl
  have hmarker := byteLen_truncationMarker_bounds (method.fits.trans isizeMax_le_usizeMax)
  have hboundary : IsBoundary method.text (cutOffset method.text maxAllowedMethodBytes) := by
    apply isBoundary_of_oneByte method.utf8Size_of_mem
    unfold cutOffset
    omega
  have hread := truncatedAuditTextPrefix_of_lt method.space_notMem hlong method.fits (by decide)
  rw [if_pos hboundary] at hread
  have hkept := byteLen_takeBytes_eq_iff.mpr hboundary
  have hne : takeBytes (cutOffset method.text maxAllowedMethodBytes) method.text ≠ [] := by
    intro hnil
    rw [hnil, byteLen_nil, cutOffset] at hkept
    omega
  rw [isExistingAuditMethod, isTruncatedAuditMethod, hread, Option.any_some,
    method.fromBytes_takeBytes hne, Bool.or_true]

/-- The recorded method is read back, whole or cut, and it reads `CONNECT` only for `CONNECT`. -/
lemma fromMethod_readBack (method : Method) :
    ∃ audited, AuditMethod.fromMethod method = some audited ∧
      deserializeExistingMethod audited.value = .ok audited.value ∧
      (audited.value = Method.connect.text ↔ method = Method.connect) := by
  obtain ⟨audited, haudited, hbound⟩ := AuditMethod.fromMethod_total method
  have hshape : isExistingAuditMethod audited.value = true ∧
      (audited.value = Method.connect.text ↔ method = Method.connect) := by
    rcases Nat.lt_or_ge maxAllowedMethodBytes (byteLen method.text) with hlong | hshort
    · rw [AuditMethod.fromMethod, boundedAuditText_of_lt hlong method.fits (by decide),
        Option.map_some, Option.some.injEq] at haudited
      subst haudited
      refine ⟨isExistingAuditMethod_of_lt hlong, iff_of_false (fun heq => ?_) ?_⟩
      · have hspace : ' ' ∈ Method.connect.text := by
          rw [← heq]
          exact List.mem_append_right _ (space_mem_truncationMarker _)
        exact absurd hspace (by decide)
      · rintro rfl
        exact absurd hlong (by decide)
    · rw [AuditMethod.fromMethod, boundedAuditText_of_le hshort, Option.map_some,
        Option.some.injEq] at haudited
      subst haudited
      constructor
      · rw [isExistingAuditMethod, Method.fromBytes, dif_pos ⟨method.token, method.fits⟩]
        rfl
      · constructor
        · intro htext
          cases method
          cases htext
          rfl
        · rintro rfl
          rfl
  refine ⟨audited, haudited, ?_, hshape.2⟩
  rw [deserializeExistingMethod, deserializeExistingStringBounded, if_pos hbound]
  exact if_pos hshape.1

/-! ## Events of this program -/

/-- The recorded texts are within the bounds of the audit fields. -/
def AuditTarget.Bounded (target : AuditTarget) : Prop :=
  byteLen target.path ≤ maxAuditTargetPathBytes ∧
    ∀ q ∈ target.query, byteLen q ≤ maxAuditTargetQueryBytes

/-- The audit target of an accepted target is bounded. -/
lemma AuditTarget.bounded_fromAccepted (target : AcceptedTarget) :
    (AuditTarget.fromAccepted target).Bounded := by
  refine ⟨target.path.byteLen_le, ?_⟩
  intro q hq
  obtain ⟨query, -, rfl⟩ := Option.map_eq_some_iff.mp hq
  exact query.byteLen_le

/-- A bounded target is read back. -/
lemma AuditTarget.Bounded.readBack {target : AuditTarget} (h : target.Bounded) :
    deserializeExistingPath target.path = .ok target.path ∧
      deserializeExistingQuery target.query = .ok target.query := by
  obtain ⟨hpath, hquery⟩ := h
  refine ⟨if_pos hpath, ?_⟩
  rw [deserializeExistingQuery]
  rcases hq : target.query with _ | query
  · rfl
  · rw [readOptional, deserializeExistingStringBounded, if_pos (hquery query hq)]
    rfl

/-- The upstream texts are read back. -/
lemma upstreamTarget_readBack (upstream : Option AuditUpstreamTarget) :
    readOptional deserializeExistingOriginPath (upstream.map fun target => target.path.value) =
        .ok (upstream.map fun target => target.path.value) ∧
      readOptional deserializeExistingOriginQuery
          (upstream.bind fun target => target.query.map fun query => query.value) =
        .ok (upstream.bind fun target => target.query.map fun query => query.value) := by
  rcases upstream with _ | ⟨path, query⟩
  · exact ⟨rfl, rfl⟩
  · constructor
    · have hlen : byteLen path.value ≤ maxAuditTargetPathBytes := path.byteLen_le
      rw [Option.map_some, readOptional, deserializeExistingOriginPath,
        deserializeExistingStringBounded, if_pos hlen]
      simp [path.accepted, Except.bind, bind, pure, Except.pure, Except.map]
    · rcases query with _ | query
      · rfl
      · have hlen : byteLen query.value ≤ maxAuditTargetQueryBytes := query.byteLen_le
        rw [Option.bind_some, Option.map_some, readOptional, deserializeExistingOriginQuery,
          deserializeExistingStringBounded, if_pos hlen]
        simp [query.accepted, Except.bind, bind, pure, Except.pure, Except.map]

/-- The fields read from the event of an input. -/
def AuditEventInput.readFields (input : AuditEventInput)
    (errorClass : Option ExistingAuditErrorClass) (method : Text)
    (requestBody responseBody : ExistingAuditBodySummary) (timestamp : AuditTimestamp)
    (readOrigin : UpstreamOrigin) : ExistingAuditEventFields :=
  let (decision, _, _, status, upstream) := input.outcome.eventParts
  { decision := .ofDecision decision
    errorClass := errorClass
    method := method
    path := input.request.target.path
    query := input.request.target.query
    requestBody := requestBody
    requestId := input.request.requestId.display
    responseBody := responseBody
    status := status
    timestamp := timestamp.text
    upstreamOrigin := readOrigin
    upstreamPath := upstream.map fun target => target.path.value
    upstreamQuery := upstream.bind fun target => target.query.map fun query => query.value
    version := .current }

variable {X : Crates}

/-- The event of an input with a bounded target is built, and passes the startup field checks. -/
lemma read_newAt (input : AuditEventInput) (hbounded : input.request.target.Bounded)
    {errorClass : Option ExistingAuditErrorClass}
    (hclass : readOptional ExistingAuditErrorClass.ofName input.outcome.eventParts.2.1 =
      .ok errorClass)
    (timestamp : AuditTimestamp) (readOrigin : UpstreamOrigin) :
    ∃ event method requestBody responseBody,
      AuditEvent.newAt X input timestamp = some event ∧
      ExistingAuditEventFields.read event readOrigin = .ok
        (input.readFields errorClass method requestBody responseBody timestamp readOrigin) ∧
      (method = Method.connect.text ↔ input.request.method = Method.connect) ∧
      ExistingAuditBodySummary.read input.request.body = .ok requestBody ∧
      ExistingAuditBodySummary.read input.outcome.eventParts.2.2.1 = .ok responseBody := by
  obtain ⟨audited, haudited, hmethod, hconnect⟩ := fromMethod_readBack input.request.method
  obtain ⟨hpath, hquery⟩ := hbounded.readBack
  obtain ⟨requestBody, hrequestBody, -⟩ :=
    ExistingAuditBodySummary.read_total input.request.body
  obtain ⟨responseBody, hresponseBody, -⟩ :=
    ExistingAuditBodySummary.read_total input.outcome.eventParts.2.2.1
  obtain ⟨hupstreamPath, hupstreamQuery⟩ :=
    upstreamTarget_readBack input.outcome.eventParts.2.2.2.2
  have hid : deserializeExistingRequestId input.request.requestId.display =
      .ok input.request.requestId.display := if_pos (isExistingRequestId_display _)
  refine ⟨_, audited.value, requestBody, responseBody,
    by rw [AuditEvent.newAt, haudited, Option.map_some], ?_, hconnect, hrequestBody, hresponseBody⟩
  simp only [ExistingAuditEventFields.read, hclass, hmethod, hpath, hquery, hrequestBody,
    hresponseBody, hid, deserializeExistingStatus, StatusCode.fromU16_code, hupstreamPath,
    hupstreamQuery]
  rfl

/-! ## Denied events -/

/-- The class that the reader makes of a denial reason. -/
def AuditDenialReason.existing : AuditDenialReason → ExistingAuditErrorClass
  | absoluteFormUnsupported => .absoluteFormUnsupported
  | connectUnsupported => .connectUnsupported
  | dotSegment => .dotSegment
  | encodedSeparator => .encodedSeparator
  | invalidPercentEncoding => .invalidPercentEncoding
  | invalidRequestConnectionHeader => .invalidRequestConnectionHeader
  | methodDenied => .methodDenied
  | nonOriginForm => .nonOriginForm
  | pathDenied => .pathDenied
  | pathTooLong => .pathTooLong
  | queryTooLong => .queryTooLong
  | requestBodyReadFailed => .requestBodyReadFailed
  | requestBodyTimeout => .requestBodyTimeout
  | requestBodyTooLarge => .requestBodyTooLarge
  | requestHeadersTooLarge => .requestHeadersTooLarge
  | tooManyRequests => .tooManyRequests

/-- Every denial reason is read back, as a denial class with the status of the reason. -/
lemma AuditDenialReason.existing_spec (reason : AuditDenialReason) :
    ExistingAuditErrorClass.ofName reason.errorClass = .ok reason.existing ∧
      reason.existing.isDenial = true ∧ reason.existing.fixedStatus = some reason.status := by
  cases reason <;> exact ⟨rfl, rfl, rfl⟩

/-- The fields read from the event of a denial. -/
def deniedFields (denial : AuditDenial) (method : Text) (requestId : RequestId)
    (timestamp : AuditTimestamp) (readOrigin : UpstreamOrigin) : ExistingAuditEventFields where
  decision := .denied
  errorClass := some denial.reason.existing
  method := method
  path := denial.target.path
  query := denial.target.query
  requestBody := .notObserved
  requestId := requestId.display
  responseBody := .notObserved
  status := denial.reason.status
  timestamp := timestamp.text
  upstreamOrigin := readOrigin
  upstreamPath := none
  upstreamQuery := none
  version := .current

/-- The event of a denial is built, and its fields pass the startup field checks. -/
lemma read_forDenial {denial : AuditDenial} (hbounded : denial.target.Bounded)
    (requestId : RequestId) (origin readOrigin : UpstreamOrigin) (timestamp : AuditTimestamp) :
    ∃ event method, AuditEvent.forDenial X denial requestId none origin timestamp = some event ∧
      ExistingAuditEventFields.read event readOrigin =
        .ok (deniedFields denial method requestId timestamp readOrigin) ∧
      (method = Method.connect.text ↔ denial.method = Method.connect) := by
  obtain ⟨hclass, -, -⟩ := denial.reason.existing_spec
  have hread : readOptional ExistingAuditErrorClass.ofName (some denial.reason.errorClass) =
      .ok (some denial.reason.existing) := by
    rw [readOptional, hclass]
    rfl
  obtain ⟨event, method, requestBody, responseBody, hevent, hfields, hconnect, hrequestBody,
    hresponseBody⟩ := read_newAt (X := X) (AuditEventInput.denied
      (AuditRequestInput.forDenial X denial requestId none origin)) hbounded hread timestamp
      readOrigin
  cases hrequestBody
  cases hresponseBody
  exact ⟨event, method, hevent, hfields, hconnect⟩

/-- The checks of a denied event that do not look at its target and method pass. -/
lemma validate_deniedFields_iff {denial : AuditDenial} {method : Text} {requestId : RequestId}
    {timestamp : AuditTimestamp} {readOrigin : UpstreamOrigin} :
    (deniedFields denial method requestId timestamp readOrigin).validate X = some (.ok ()) ↔
      (deniedFields denial method requestId timestamp readOrigin).validateDeniedTarget X
          (some denial.reason.existing) = .ok () ∧
        (deniedFields denial method requestId timestamp readOrigin).validateMethod
          (some denial.reason.existing) = .ok () := by
  obtain ⟨-, hdenial, hstatus⟩ := denial.reason.existing_spec
  generalize hfields : deniedFields denial method requestId timestamp readOrigin = fields
  have hclass : fields.validateErrorClass = .ok (some denial.reason.existing) := by
    subst hfields
    simp [ExistingAuditEventFields.validateErrorClass, deniedFields, hdenial]
  have hrequest : fields.validateRequestBody (some denial.reason.existing) = .ok () := by
    subst hfields
    rw [ExistingAuditEventFields.validateRequestBody]
    split
    · rfl
    · exact if_pos (.inl rfl)
  have hresponse : fields.validateResponseBody (some denial.reason.existing) = .ok () := by
    subst hfields
    rfl
  have hstatusOk : fields.validateStatus (some denial.reason.existing) = .ok () := by
    subst hfields
    simp [ExistingAuditEventFields.validateStatus, hstatus, deniedFields]
  have hupstream : fields.validateUpstreamTarget X = some (.ok ()) := by
    subst hfields
    rfl
  rw [ExistingAuditEventFields.validate, ExistingAuditEventFields.validateBeforeUpstream, hclass]
  simp only [Except.bind, bind, hrequest, hresponse, hstatusOk]
  rcases fields.validateDeniedTarget X (some denial.reason.existing) with message | ⟨⟩
  · simp
  · rcases fields.validateMethod (some denial.reason.existing) with message | ⟨⟩
    · simp
    · simp [hupstream]

/-- The startup validator accepts the event written for a denial: the event is built, its fields are
read back, and their cross-field validation succeeds. -/
def DenialAccepted (X : Crates) (denial : AuditDenial) (requestId : RequestId)
    (origin readOrigin : UpstreamOrigin) (timestamp : AuditTimestamp) : Prop :=
  ∃ event fields, AuditEvent.forDenial X denial requestId none origin timestamp = some event ∧
    ExistingAuditEventFields.read event readOrigin = .ok fields ∧
    fields.validate X = some (.ok ())

/-- The method of a denial is one that its reason admits: `CONNECT` for a `CONNECT` denial, and
otherwise only for a denial before admission. -/
def AuditDenial.MethodFits (denial : AuditDenial) : Prop :=
  (denial.reason = .connectUnsupported → denial.method = Method.connect) ∧
    (denial.reason ≠ .connectUnsupported → denial.reason ≠ .tooManyRequests →
      denial.method ≠ Method.connect)

/-- The method of a denial passes validation. -/
lemma validateMethod_deniedFields {denial : AuditDenial} {method : Text} (requestId : RequestId)
    (timestamp : AuditTimestamp) (readOrigin : UpstreamOrigin)
    (hconnect : method = Method.connect.text ↔ denial.method = Method.connect)
    (hmethod : denial.MethodFits) :
    (deniedFields denial method requestId timestamp readOrigin).validateMethod
      (some denial.reason.existing) = .ok () := by
  obtain ⟨reason, requestMethod, target⟩ := denial
  simp only [ExistingAuditEventFields.validateMethod, deniedFields, hconnect]
  obtain ⟨hwhen, hunless⟩ := hmethod
  cases reason <;> simp_all [AuditDenialReason.existing]

/-- **Acceptance of a denial.** For a denial with bounded texts and a fitting method, what the
startup validator decides is whether the recorded target matches the reason. -/
lemma denialAccepted_iff {denial : AuditDenial} (hbounded : denial.target.Bounded)
    (hmethod : denial.MethodFits) {requestId : RequestId} {origin readOrigin : UpstreamOrigin}
    {timestamp : AuditTimestamp} :
    DenialAccepted X denial requestId origin readOrigin timestamp ↔
      (deniedFields denial [] requestId timestamp readOrigin).validateDeniedTarget X
        (some denial.reason.existing) = .ok () := by
  obtain ⟨event, method, hevent, hread, hconnect⟩ :=
    read_forDenial (X := X) hbounded requestId origin readOrigin timestamp
  have hmethodOk :=
    validateMethod_deniedFields requestId timestamp readOrigin hconnect hmethod
  constructor
  · rintro ⟨event', fields, hevent', hread', hvalid⟩
    rw [hevent, Option.some.injEq] at hevent'
    subst hevent'
    rw [hread, Except.ok.injEq] at hread'
    subst hread'
    exact (validate_deniedFields_iff.mp hvalid).1
  · intro htarget
    exact ⟨event, _, hevent, hread, validate_deniedFields_iff.mpr ⟨htarget, hmethodOk⟩⟩

end Custode
