import Custode.Audit.AbsoluteForm
import Custode.Audit.LongTargets
import Custode.Audit.Origins
import Custode.Audit.Responses
import Custode.Audit.Wire

/-!
# What a running gateway writes is read back by the next one

The startup checks, for everything that can be recorded of a request at once.

* `TargetReadsBack` — the request targets for which no denial is refused at the next start:
  `CONNECT` requests, targets whose cut keeps their authority, and targets without an authority
  whose cuts fall on character boundaries.
* `denials_accepted_iff` — these are exactly the targets for which no denial is refused.
* `Decided` — the events that the gateway builds for a request, before or after upstream I/O.
* `Decided.readsBack` — their JSON is read at startup as valid fields of the same request.
-/

namespace Custode

open Found Found.Text Found.Checks

/-! ## Targets -/

/-- If the text has to be cut, the cut is recognised. -/
def CutReadsBack (text : Text) (maxBytes : Nat) : Prop :=
  maxBytes < byteLen text → ' ' ∉ text ∧ IsBoundary text (cutOffset text maxBytes)

/-- The request targets whose denials are accepted at startup. -/
inductive TargetReadsBack (X : Crates) (method : Method) (uri : Uri) : Prop
  | connect (isConnect : method = Method.connect)
  | authority {authority : Text} (admits : X.http.Admits uri.toUriParts authority)
      (keeps : uri.toUriParts.KeepsAuthority X.http authority)
  | origin (bare : uri.authority = none) (path : IsOriginPath uri.path)
      (cutPath : CutReadsBack uri.path maxAuditTargetPathBytes)
      (cutQuery : pathError uri.path = none →
        ∀ query ∈ uri.query, CutReadsBack query maxAuditTargetQueryBytes)

section Targets

variable {X : Crates} {config : GatewayConfig} {method : Method} {uri : Uri}

/-- Without an authority, and not `CONNECT`, the target is one of the third kind. -/
lemma TargetReadsBack.of_origin (h : TargetReadsBack X method uri)
    (hmethod : method ≠ Method.connect) (hauthority : uri.authority = none) :
    IsOriginPath uri.path ∧ CutReadsBack uri.path maxAuditTargetPathBytes ∧
      (pathError uri.path = none →
        ∀ query ∈ uri.query, CutReadsBack query maxAuditTargetQueryBytes) := by
  cases h with
  | connect isConnect => exact absurd isConnect hmethod
  | authority admits keeps =>
      rw [admits.has] at hauthority
      cases hauthority
  | origin bare path cutPath cutQuery => exact ⟨path, cutPath, cutQuery⟩

/-- With an authority, and not `CONNECT`, the target keeps it. -/
lemma TargetReadsBack.of_authority (h : TargetReadsBack X method uri)
    (hmethod : method ≠ Method.connect) (hauthority : uri.authority.isSome) :
    ∃ authority, X.http.Admits uri.toUriParts authority ∧
      uri.toUriParts.KeepsAuthority X.http authority := by
  cases h with
  | connect isConnect => exact absurd isConnect hmethod
  | authority admits keeps => exact ⟨_, admits, keeps⟩
  | origin bare path cutPath cutQuery =>
      rw [bare] at hauthority
      cases hauthority

variable {requestId : RequestId} {origin readOrigin : UpstreamOrigin} {timestamp : AuditTimestamp}

/-- The denial of a target that the parser rejects is accepted when its cuts are recognised. -/
lemma denialAccepted_targetRejected (hmethod : method ≠ Method.connect)
    (hauthority : uri.authority = none) (hpath : IsOriginPath uri.path)
    (hcutPath : CutReadsBack uri.path maxAuditTargetPathBytes)
    (hcutQuery : pathError uri.path = none →
      ∀ query ∈ uri.query, CutReadsBack query maxAuditTargetQueryBytes)
    {reason : TargetRejectionReason}
    (hreject : AcceptedTarget.new uri.path uri.query = .error reason) {target : AuditTarget}
    (htarget : AuditTarget.fromRequestUri uri = some target) :
    DenialAccepted X (.targetRejected method ⟨reason, target⟩) requestId origin readOrigin
      timestamp := by
  by_cases hlongPath : reason = .pathTooLong
  · subst hlongPath
    have hlong : maxAuditTargetPathBytes < byteLen uri.path := by
      rcases AcceptedTarget.new_eq_error hreject with ⟨error, herror, hreason⟩ | ⟨_, _, _, _, _, h⟩
      · cases error <;> first | exact pathError_eq_tooLong_iff.mp herror | cases hreason
      · rename_i error _ _ _
        cases error <;> cases h
    have hslash : ['/'] <+: uri.path := by
      rcases hpath with hslash | hasterisk
      · exact hslash
      · rw [hasterisk] at hlong
        exact absurd hlong (by decide)
    obtain ⟨hspace, hboundary⟩ := hcutPath hlong
    exact (pathTooLong_accepted_iff requestId origin readOrigin timestamp hauthority htarget hmethod
      hslash hspace hlong).mpr hboundary
  by_cases hlongQuery : reason = .queryTooLong
  · subst hlongQuery
    rcases AcceptedTarget.new_eq_error hreject with ⟨error, _, h⟩ | ⟨query, error, hnone, hsome,
      herror, hreason⟩
    · cases error <;> cases h
    · have hlong : maxAuditTargetQueryBytes < byteLen query := by
        cases error <;> first | exact queryError_eq_tooLong_iff.mp herror | cases hreason
      obtain ⟨hspace, hboundary⟩ := hcutQuery hnone query hsome hlong
      exact (queryTooLong_accepted_iff requestId origin readOrigin timestamp hauthority htarget
        hmethod hnone hsome hspace hlong).mpr hboundary
  exact denialAccepted_of_rejected hpath hauthority hreject hlongPath hlongQuery htarget hmethod

/-- Every denial that the gateway can record for such a target is accepted at startup. -/
lemma denialAccepted_of_readsBack (h : TargetReadsBack X method uri) {denial : AuditDenial}
    (hrecordable : RecordableDenial config method uri denial) :
    DenialAccepted X denial requestId origin readOrigin timestamp := by
  have hafter : ∀ {reason : AuditDenialReason} {allowed : AllowedTarget},
      targetDecision config method uri = some (.ok allowed) → reason.AfterAcceptance →
      DenialAccepted X ⟨reason, method, AuditTarget.fromAccepted allowed.target⟩ requestId origin
        readOrigin timestamp :=
    fun hdecided hreason => denialAccepted_of_accepted hreason (targetDecision_eq_ok hdecided).1 _
  cases hrecordable with
  | @tooManyRequests target read =>
      obtain ⟨raw, hraw, rfl⟩ := Option.map_eq_some_iff.mp read
      exact (denialAccepted_iff (AuditTarget.bounded_of_uri hraw)
        ⟨by simp [AuditDenial.tooManyRequests], fun _ hne => absurd rfl hne⟩).mpr rfl
  | target decided =>
      rcases targetDecision_eq_error decided with
        ⟨-, target, htarget, rfl⟩ | ⟨hmethod, hsome, target, htarget, rfl⟩ |
        ⟨hmethod, hnone, reason, target, hreject, htarget, rfl⟩ |
        ⟨hmethod, -, accepted, rejection, -, hallow, rfl⟩
      · exact (denialAccepted_iff (AuditTarget.bounded_of_uri htarget)
          ⟨fun _ => rfl, fun hne => absurd rfl hne⟩).mpr rfl
      · obtain ⟨authority, hadmits, hkeeps⟩ := h.of_authority hmethod hsome
        obtain ⟨event, fields, hevent, hread, -, hvalid⟩ := (absoluteForm_accepted_iff hmethod
          hadmits htarget requestId origin readOrigin timestamp).mpr hkeeps
        exact ⟨event, fields, hevent, hread, hvalid⟩
      · obtain ⟨hpath, hcutPath, hcutQuery⟩ := h.of_origin hmethod hnone
        exact denialAccepted_targetRejected hmethod hnone hpath hcutPath hcutQuery hreject htarget
      · obtain ⟨hrejectedMethod, -⟩ := allowTarget_eq_error hallow
        obtain ⟨rejectedMethod, reason, rejectedTarget⟩ := rejection
        subst hrejectedMethod
        cases reason with
        | methodDenied => exact denialAccepted_of_accepted (.inl rfl) hmethod rejectedTarget
        | pathDenied => exact denialAccepted_of_accepted (.inr (.inl rfl)) hmethod rejectedTarget
  | requestHeader decided error =>
      cases error with
      | invalidConnectionHeader =>
          exact hafter decided (by simp [AuditDenialReason.AfterAcceptance])
      | tooLarge => exact hafter decided (by simp [AuditDenialReason.AfterAcceptance])
  | requestBody decided error =>
      cases error with
      | read => exact hafter decided (by simp [AuditDenialReason.AfterAcceptance])
      | tooLarge => exact hafter decided (by simp [AuditDenialReason.AfterAcceptance])
  | requestBodyTimeout decided =>
      exact hafter decided (by simp [AuditDenialReason.AfterAcceptance])

/-- What the `http` crate promises of a URI that it parsed. -/
structure Uri.Parsed (X : Crates) (uri : Uri) : Prop where
  /-- Without an authority, it is origin-form or `*`, and has no space. -/
  bare : uri.authority = none →
    IsOriginPath uri.path ∧ ' ' ∉ uri.path ∧ ∀ query ∈ uri.query, ' ' ∉ query
  /-- With one, it is one that the parser takes. -/
  admits : ∀ authority, uri.authority = some authority → X.http.Admits uri.toUriParts authority

/-- A denied absolute-form target that is accepted keeps its authority. -/
lemma keepsAuthority_of_accepted (hmethod : method ≠ Method.connect) {authority : Text}
    (hadmits : X.http.Admits uri.toUriParts authority) {target : AuditTarget}
    (htarget : AuditTarget.fromRequestUri uri = some target)
    (haccepted : DenialAccepted X ⟨.absoluteFormUnsupported, method, target⟩ requestId origin
      readOrigin timestamp) :
    uri.toUriParts.KeepsAuthority X.http authority := by
  rw [denialAccepted_iff (AuditTarget.bounded_of_uri htarget) ⟨by simp, fun _ _ => hmethod⟩]
    at haccepted
  apply (recordedAuthority_iff hadmits htarget
    (show (deniedFields ⟨.absoluteFormUnsupported, method, target⟩ [] requestId timestamp
      readOrigin).path = target.path from rfl) rfl).mp
  by_contra hnone
  have hrefused : (deniedFields ⟨.absoluteFormUnsupported, method, target⟩ [] requestId timestamp
      readOrigin).validateDeniedTarget X (some .absoluteFormUnsupported) =
      .error "audit target does not match absolute-form denial" := if_neg hnone
  rw [AuditDenialReason.existing, hrefused] at haccepted
  cases haccepted

/-- A target reads back when its denials are accepted. -/
lemma readsBack_of_accepted (huri : uri.Parsed X)
    (h : ∀ denial, RecordableDenial config method uri denial →
      DenialAccepted X denial requestId origin readOrigin timestamp) :
    TargetReadsBack X method uri := by
  by_cases hmethod : method = Method.connect
  · exact .connect hmethod
  rcases hauthority : uri.authority with _ | authority
  · obtain ⟨hpath, hspace, hquerySpace⟩ := huri.bare hauthority
    refine .origin hauthority hpath ?_ ?_
    · intro hlong
      have hslash : ['/'] <+: uri.path := by
        rcases hpath with hslash | hasterisk
        · exact hslash
        · rw [hasterisk] at hlong
          exact absurd hlong (by decide)
      obtain ⟨target, htarget, hdecision⟩ := targetDecision_of_rejected config hmethod hauthority
        (AcceptedTarget.new_of_pathError (pathError_eq_tooLong_iff.mpr hlong) uri.query)
      exact ⟨hspace, (pathTooLong_accepted_iff requestId origin readOrigin timestamp hauthority
        htarget hmethod hslash hspace hlong).mp (h _ (.target hdecision))⟩
    · intro haccepted query hquery hlong
      have hreject : AcceptedTarget.new uri.path uri.query = .error .queryTooLong := by
        rw [Option.mem_def.mp hquery]
        exact AcceptedTarget.new_of_queryError haccepted (queryError_eq_tooLong_iff.mpr hlong)
      obtain ⟨target, htarget, hdecision⟩ :=
        targetDecision_of_rejected config hmethod hauthority hreject
      exact ⟨hquerySpace query hquery, (queryTooLong_accepted_iff requestId origin readOrigin
        timestamp hauthority htarget hmethod haccepted hquery (hquerySpace query hquery)
        hlong).mp (h _ (.target hdecision))⟩
  · obtain ⟨target, htarget, hdecision⟩ :=
      targetDecision_of_authority config hmethod (Option.isSome_iff_exists.mpr ⟨_, hauthority⟩)
    have hadmits := huri.admits authority hauthority
    exact .authority hadmits
      (keepsAuthority_of_accepted hmethod hadmits htarget (h _ (.target hdecision)))

end Targets

/-- **Denials across a restart.** The next start of the gateway accepts every denial that can be
recorded for a request exactly when the target of the request reads back. -/
theorem denials_accepted_iff (X : Crates) (config : GatewayConfig) (method : Method) (uri : Uri)
    (huri : uri.Parsed X) (requestId : RequestId) (origin readOrigin : UpstreamOrigin)
    (timestamp : AuditTimestamp) :
    (∀ denial, RecordableDenial config method uri denial →
        DenialAccepted X denial requestId origin readOrigin timestamp) ↔
      TargetReadsBack X method uri :=
  ⟨readsBack_of_accepted huri, fun h _ hrecordable => denialAccepted_of_readsBack h hrecordable⟩

/-- The request target `/v1/../models` is one that the `http` crate can parse. -/
lemma dotSegmentUri_parsed : dotSegmentUri.Parsed Reference.crates where
  bare := fun _ => ⟨.inl (List.prefix_append ['/'] _), by decide, nofun⟩
  admits := nofun

/-- A URI with a dot segment reads back. -/
lemma dotSegmentUri_readsBack : TargetReadsBack Reference.crates Method.get dotSegmentUri :=
  .origin rfl (.inl (List.prefix_append ['/'] _))
    (fun hlong => absurd hlong (by decide)) (fun _ => nofun)

/-- The denial of `GET /v1/../models` is accepted. -/
theorem denials_accepted_dotSegment : ∃ denial,
    RecordableDenial Reference.config Method.get dotSegmentUri denial ∧
      DenialAccepted Reference.crates denial Reference.requestId Reference.origin Reference.origin
        Reference.timestamp := by
  have hreject : AcceptedTarget.new dotSegmentUri.path dotSegmentUri.query = .error .dotSegment :=
    AcceptedTarget.new_of_pathError
      (show pathError dotSegmentUri.path = some .dotSegment by decide +kernel) none
  obtain ⟨target, -, hdecision⟩ :=
    targetDecision_of_rejected Reference.config (by decide : Method.get ≠ .connect) rfl hreject
  refine ⟨_, .target hdecision, ?_⟩
  exact (denials_accepted_iff Reference.crates Reference.config Method.get dotSegmentUri
    dotSegmentUri_parsed Reference.requestId Reference.origin Reference.origin
    Reference.timestamp).mpr dotSegmentUri_readsBack _ (.target hdecision)

/-! ## Events -/

/-- The event's JSON is read at startup as valid fields of the same request. -/
def AuditEvent.ReadsBack (X : Crates) (time : Humantime) (event : AuditEvent) : Prop :=
  ∃ fields, ExistingAuditEventFields.deserialize X time event.json = .ok fields ∧
    fields.requestId = event.requestId.display ∧ fields.validate X = some (.ok ())

/-- What the gateway can append for a request: one of its denials, or how the exchange of its
allowed target ended. -/
inductive Decided (X : Crates) (config : GatewayConfig) (request : HttpRequest)
    (event : AuditEvent) : Prop
  | denied {denial : AuditDenial} {requestId : RequestId} {timestamp : AuditTimestamp}
      (recordable : RecordableDenial config request.method request.uri denial)
      (built : AuditEvent.forDenial X denial requestId none config.upstreamOrigin timestamp =
        some event)
  | response {input : ResponseAuditInput} {timestamp : AuditTimestamp}
      (decided : targetDecision config request.method request.uri = some (.ok input.target))
      (built : AuditEvent.forResponse X input timestamp = some event)

section Events

variable {X : Crates} {time : Humantime} {config : GatewayConfig} {request : HttpRequest}
  {event : AuditEvent}

/-- The identity is read as it was written. -/
lemma requestId_of_read {origin : UpstreamOrigin} {fields : ExistingAuditEventFields}
    (h : ExistingAuditEventFields.read event origin = .ok fields) :
    fields.requestId = event.requestId.display := by
  obtain ⟨errorClass, -, h⟩ := exists_of_bind_eq_ok h
  obtain ⟨method, -, h⟩ := exists_of_bind_eq_ok h
  obtain ⟨path, -, h⟩ := exists_of_bind_eq_ok h
  obtain ⟨query, -, h⟩ := exists_of_bind_eq_ok h
  obtain ⟨requestBody, -, h⟩ := exists_of_bind_eq_ok h
  obtain ⟨requestId, hid, h⟩ := exists_of_bind_eq_ok h
  obtain ⟨responseBody, -, h⟩ := exists_of_bind_eq_ok h
  obtain ⟨status, -, h⟩ := exists_of_bind_eq_ok h
  obtain ⟨upstreamPath, -, h⟩ := exists_of_bind_eq_ok h
  obtain ⟨upstreamQuery, -, h⟩ := exists_of_bind_eq_ok h
  have hsame : requestId = event.requestId.display := by
    rw [deserializeExistingRequestId, if_pos (isExistingRequestId_display _)] at hid
    exact (Except.ok.inj hid).symm
  rw [← Except.ok.inj h]
  exact hsame

/-- Every decided event is built from an input with the configured origin, and is accepted. -/
lemma Decided.accepted (h : Decided X config request event)
    (htarget : TargetReadsBack X request.method request.uri) (readOrigin : UpstreamOrigin) :
    (∃ input timestamp, AuditEvent.newAt X input timestamp = some event ∧
      input.request.upstreamOrigin = config.upstreamOrigin) ∧
    ∃ fields, ExistingAuditEventFields.read event readOrigin = .ok fields ∧
      fields.validate X = some (.ok ()) := by
  cases h with
  | @denied denial requestId timestamp recordable built =>
      refine ⟨⟨_, timestamp, built, rfl⟩, ?_⟩
      have haccepted :
          DenialAccepted X denial requestId config.upstreamOrigin readOrigin timestamp :=
        denialAccepted_of_readsBack htarget recordable
      obtain ⟨event', fields, hevent, hread, hvalid⟩ := haccepted
      obtain rfl : event' = event := Option.some.inj (hevent.symm.trans built)
      exact ⟨fields, hread, hvalid⟩
  | @response input timestamp decided built =>
      constructor
      · obtain ⟨observed, hobserved, hevent⟩ := Option.bind_eq_some_iff.mp built
        refine ⟨_, timestamp, hevent, ?_⟩
        rw [(eventParts_of_concludes (input.outcome.concludes observed)).1,
          request_of_new hobserved]
        exact (allowTarget_eq_ok (targetDecision_eq_ok decided).2.2.2).2.2
      · exact read_forResponse readOrigin built

/-- A decided event reads back when the target does and the origin does, and its timestamp was
printed by `humantime`. -/
lemma Decided.readsBack (h : Decided X config request event)
    (htarget : TargetReadsBack X request.method request.uri)
    (horigin : UpstreamOrigin.RoundTrips X config.upstreamOrigin)
    (htime : deserializeExistingTimestamp time event.timestamp.text = .ok event.timestamp.text) :
    event.ReadsBack X time := by
  obtain ⟨⟨input, timestamp, hevent, hsame⟩, fields, hread, hvalid⟩ :=
    h.accepted htarget config.upstreamOrigin
  refine ⟨fields, ?_, requestId_of_read hread, hvalid⟩
  exact ExistingAuditEventFields.deserialize_json (horigin.recorded input timestamp event hevent
    hsame) htime hread

end Events

end Custode
