import Custode.Audit.Text
import Custode.Allowlist
import Custode.Body

/-!
# Audit events

The values `audit.rs` builds for one audit event, from the request's target and denial or outcome to
`AuditEvent.newAt`. A denial is its reason, method and target; its constructors pair them as the
source's do. A constructor that reaches an `expect` of the source answers `none` there:

* `AuditTarget.fromUriParts` and `AuditMethod.fromMethod` bound their text;
* `AuditUpstreamTarget.fromUrl` parses the path and query of the joined URL again.
-/

namespace Custode

open Found Found.Text

/-! ## Identities, timestamps, body summaries -/

/-- Bounded per-run token used in request identities.
Source: `audit.rs` `RunToken` -/
structure RunToken where
  entropy : List UInt8
  size : entropy.length = 16
  deriving DecidableEq

/-- Request identity used in audit events.
Source: `audit.rs` `RequestId` -/
structure RequestId where
  runToken : RunToken
  sequence : NonZeroU64
  deriving DecidableEq

/-- RFC 3339 UTC audit timestamp.
Source: `audit.rs` `AuditTimestamp` -/
structure AuditTimestamp where
  text : Text
  deriving DecidableEq

/-- Body accounting summary recorded in audit events.
Source: `audit.rs` `AuditBodySummary`, `AuditBodySummaryKind` -/
inductive AuditBodySummary where
  | empty
  | nonEmpty (blake3 : Hash) (bytes : NonZeroU64)
  | notObserved
  deriving DecidableEq

/-- Creates a body summary from an observed body.
Source: `audit.rs` `AuditBodySummary::from_observation` -/
def AuditBodySummary.fromObservation : BodyObservation → AuditBodySummary
  | .empty => .empty
  | .nonEmpty observation => .nonEmpty observation.blake3 observation.bytes

/-- Creates an observed body summary from a request body.
Source: `audit.rs` `AuditBodySummary::from_request_body` -/
def AuditBodySummary.fromRequestBody (X : Crates) (body : AccountedBody) : AuditBodySummary :=
  fromObservation (body.observation X)

/-- Body summary after bytes were observed.
Source: `audit.rs` `ObservedBodySummary` -/
inductive ObservedBodySummary where
  | empty
  | nonEmpty (observation : NonEmptyBodyObservation)
  deriving DecidableEq

/-- Creates an observed body summary from a response body account.
Source: `audit.rs` `ObservedBodySummary::from_response_account` -/
def ObservedBodySummary.fromResponseAccount (X : Crates) (account : ResponseAccount) :
    ObservedBodySummary :=
  match account.observation X with
  | .empty => .empty
  | .nonEmpty observation => .nonEmpty observation

/-- The underlying audit body summary.
Source: `audit.rs` `ObservedBodySummary::into_summary` -/
def ObservedBodySummary.intoSummary : ObservedBodySummary → AuditBodySummary
  | .empty => .empty
  | .nonEmpty observation => .nonEmpty observation.blake3 observation.bytes

/-! ## Targets and methods -/

/-- Request target recorded in the audit log.
Source: `audit.rs` `AuditTarget` -/
structure AuditTarget where
  path : Text
  query : Option Text
  deriving DecidableEq

namespace AuditTarget

/-- Bounds an optional query. -/
def boundedQuery : Option Text → Option (Option Text)
  | none => some none
  | some query => (boundedAuditText query maxAuditTargetQueryBytes).map some

/-- Creates an audit target from raw request URI parts.
Source: `audit.rs` `AuditTarget::from_uri_parts` -/
def fromUriParts (path : Text) (query : Option Text) : Option AuditTarget := do
  let normalizedPath := if path = [] then ['/'] else path
  let boundedPath ← boundedAuditText normalizedPath maxAuditTargetPathBytes
  let bounded ← boundedQuery query
  return ⟨boundedPath, bounded⟩

/-- Creates an audit target from the raw request URI. A URI with an authority records its whole
text in front of the query as the path.
Source: `audit.rs` `AuditTarget::from_request_uri` -/
def fromRequestUri (uri : Uri) : Option AuditTarget :=
  match uri.authority with
  | none => fromUriParts uri.path uri.query
  | some authority =>
      let rawTarget :=
        match uri.scheme with
        | none => authority
        | some scheme => scheme ++ "://".toList ++ authority ++ uri.path
      fromUriParts rawTarget uri.query

/-- The audit target of an accepted target.
Source: `audit.rs` `From<&AcceptedTarget> for AuditTarget` -/
def fromAccepted (target : AcceptedTarget) : AuditTarget := ⟨target.path.value, target.queryText⟩

end AuditTarget

/-- Audit target proven to come from an accepted origin-form request target.
Source: `audit.rs` `AcceptedAuditTarget` -/
structure AcceptedAuditTarget where
  target : AuditTarget

/-- Source: `audit.rs` `AcceptedAuditTarget::from_accepted` -/
def AcceptedAuditTarget.fromAccepted (target : AcceptedTarget) : AcceptedAuditTarget :=
  ⟨AuditTarget.fromAccepted target⟩

/-- Audit target proven to carry an authority component.
Source: `audit.rs` `AuthorityAuditTarget` -/
structure AuthorityAuditTarget where
  target : AuditTarget

/-- Creates an authority-bearing audit target from the raw request URI.
Source: `audit.rs` `AuthorityAuditTarget::from_request_uri` -/
def AuthorityAuditTarget.fromRequestUri (uri : Uri) : Option (Option AuthorityAuditTarget) :=
  match uri.authority with
  | none => some none
  | some _ => (AuditTarget.fromRequestUri uri).map fun target => some ⟨target⟩

/-- Audit target captured before target parsing or admission succeeds.
Source: `audit.rs` `PreparsedAuditTarget` -/
structure PreparsedAuditTarget where
  target : AuditTarget

/-- Source: `audit.rs` `PreparsedAuditTarget::from_request_uri` -/
def PreparsedAuditTarget.fromRequestUri (uri : Uri) : Option PreparsedAuditTarget :=
  (AuditTarget.fromRequestUri uri).map fun target => ⟨target⟩

/-- Audit target paired with the target parser rejection that produced it.
Source: `audit.rs` `RejectedAuditTarget` -/
structure RejectedAuditTarget where
  reason : TargetRejectionReason
  target : AuditTarget

/-- Parses a request URI into an accepted target or a rejected audit target.
Source: `audit.rs` `RejectedAuditTarget::accept_request_uri` -/
def RejectedAuditTarget.acceptRequestUri (uri : Uri) :
    Option (Except RejectedAuditTarget AcceptedTarget) :=
  match AcceptedTarget.new uri.path uri.query with
  | .ok target => some (.ok target)
  | .error reason => (AuditTarget.fromRequestUri uri).map fun target => .error ⟨reason, target⟩

/-- Request method recorded in the audit log.
Source: `audit.rs` `AuditMethod` -/
structure AuditMethod where
  value : Text
  deriving DecidableEq

/-- Creates a bounded audit method from an HTTP method.
Source: `audit.rs` `AuditMethod::from_method` -/
def AuditMethod.fromMethod (method : Method) : Option AuditMethod :=
  (boundedAuditText method.text maxAllowedMethodBytes).map fun value => ⟨value⟩

/-- Upstream target recorded when upstream I/O was attempted.
Source: `audit.rs` `AuditUpstreamTarget` -/
structure AuditUpstreamTarget where
  path : OriginFormPath
  query : Option OriginFormQuery
  deriving DecidableEq

/-- Creates an upstream target from the actual forwarded URL.
Source: `audit.rs` `AuditUpstreamTarget::from_url` -/
def AuditUpstreamTarget.fromUrl (url : Url) : Option AuditUpstreamTarget := do
  let path ← (OriginFormPath.parse url.path).toOption
  let query ← (parseOptionalQuery url.query).toOption
  return ⟨path, query⟩

/-! ## Denials -/

/-- Closed reason for a denied request audit event.
Source: `audit.rs` `AuditDenialReason` -/
inductive AuditDenialReason where
  | absoluteFormUnsupported
  | connectUnsupported
  | dotSegment
  | encodedSeparator
  | invalidPercentEncoding
  | invalidRequestConnectionHeader
  | methodDenied
  | nonOriginForm
  | pathDenied
  | pathTooLong
  | queryTooLong
  | requestBodyReadFailed
  | requestBodyTimeout
  | requestBodyTooLarge
  | requestHeadersTooLarge
  | tooManyRequests
  deriving DecidableEq

namespace AuditDenialReason

/-- The stable audit error class.
Source: `audit.rs` `AuditDenialReason::error_class` -/
def errorClass : AuditDenialReason → String
  | absoluteFormUnsupported => "absolute_form_unsupported"
  | connectUnsupported => "connect_unsupported"
  | dotSegment => "dot_segment"
  | encodedSeparator => "encoded_path_separator"
  | invalidPercentEncoding => "invalid_percent_encoding"
  | invalidRequestConnectionHeader => "invalid_request_connection_header"
  | methodDenied => "method_denied"
  | nonOriginForm => "non_origin_form"
  | pathDenied => "path_denied"
  | pathTooLong => "path_too_long"
  | queryTooLong => "query_too_long"
  | requestBodyReadFailed => "request_body_read_failed"
  | requestBodyTimeout => "request_body_timeout"
  | requestBodyTooLarge => "request_body_too_large"
  | requestHeadersTooLarge => "request_headers_too_large"
  | tooManyRequests => "too_many_requests"

/-- The response status for this denial.
Source: `audit.rs` `AuditDenialReason::status` -/
def status : AuditDenialReason → StatusCode
  | absoluteFormUnsupported | dotSegment | encodedSeparator | invalidPercentEncoding
  | invalidRequestConnectionHeader | nonOriginForm | requestBodyReadFailed => .badRequest
  | connectUnsupported => .methodNotAllowed
  | methodDenied | pathDenied => .forbidden
  | pathTooLong | queryTooLong => .uriTooLong
  | requestBodyTimeout => .requestTimeout
  | requestBodyTooLarge => .payloadTooLarge
  | requestHeadersTooLarge => .requestHeaderFieldsTooLarge
  | tooManyRequests => .tooManyRequests

end AuditDenialReason

/-- Closed denied request audit input, as its parts: the source's sixteen variants carry a method
and a target each, except that a `CONNECT` denial carries no method.
Source: `audit.rs` `AuditDenial`, `AuditDenialKind`, `AuditDenial::into_parts` -/
structure AuditDenial where
  reason : AuditDenialReason
  method : Method
  target : AuditTarget
  deriving DecidableEq

namespace AuditDenial

/-- The response status for this denial.
Source: `audit.rs` `AuditDenial::status` -/
def status (denial : AuditDenial) : StatusCode := denial.reason.status

/-- Source: `audit.rs` `AuditDenial::absolute_form_unsupported` -/
def absoluteFormUnsupported (method : Method) (authorityTarget : AuthorityAuditTarget) :
    AuditDenial := ⟨.absoluteFormUnsupported, method, authorityTarget.target⟩

/-- Source: `audit.rs` `AuditDenial::allowlist_rejected` -/
def allowlistRejected (rejection : RejectedAllowedTarget) : AuditDenial :=
  let target := (AcceptedAuditTarget.fromAccepted rejection.target).target
  match rejection.reason with
  | .methodDenied => ⟨.methodDenied, rejection.method, target⟩
  | .pathDenied => ⟨.pathDenied, rejection.method, target⟩

/-- Source: `audit.rs` `AuditDenial::connect_unsupported` -/
def connectUnsupported (preparsedTarget : PreparsedAuditTarget) : AuditDenial :=
  ⟨.connectUnsupported, Method.connect, preparsedTarget.target⟩

/-- Source: `audit.rs` `AuditDenial::invalid_request_connection_header` -/
def invalidRequestConnectionHeader (method : Method) (acceptedTarget : AcceptedAuditTarget) :
    AuditDenial := ⟨.invalidRequestConnectionHeader, method, acceptedTarget.target⟩

/-- Source: `audit.rs` `AuditDenial::request_body_read_failed` -/
def requestBodyReadFailed (method : Method) (acceptedTarget : AcceptedAuditTarget) : AuditDenial :=
  ⟨.requestBodyReadFailed, method, acceptedTarget.target⟩

/-- Source: `audit.rs` `AuditDenial::request_body_timeout` -/
def requestBodyTimeout (method : Method) (acceptedTarget : AcceptedAuditTarget) : AuditDenial :=
  ⟨.requestBodyTimeout, method, acceptedTarget.target⟩

/-- Source: `audit.rs` `AuditDenial::request_body_too_large` -/
def requestBodyTooLarge (method : Method) (acceptedTarget : AcceptedAuditTarget) : AuditDenial :=
  ⟨.requestBodyTooLarge, method, acceptedTarget.target⟩

/-- Source: `audit.rs` `AuditDenial::request_headers_too_large` -/
def requestHeadersTooLarge (method : Method) (acceptedTarget : AcceptedAuditTarget) :
    AuditDenial := ⟨.requestHeadersTooLarge, method, acceptedTarget.target⟩

/-- Creates a target parser rejection denial.
Source: `audit.rs` `AuditDenial::target_rejected` -/
def targetRejected (method : Method) (rejection : RejectedAuditTarget) : AuditDenial :=
  match rejection.reason with
  | .dotSegment => ⟨.dotSegment, method, rejection.target⟩
  | .encodedSeparator => ⟨.encodedSeparator, method, rejection.target⟩
  | .invalidPercentEncoding => ⟨.invalidPercentEncoding, method, rejection.target⟩
  | .nonOriginForm => ⟨.nonOriginForm, method, rejection.target⟩
  | .pathTooLong => ⟨.pathTooLong, method, rejection.target⟩
  | .queryTooLong => ⟨.queryTooLong, method, rejection.target⟩

/-- Source: `audit.rs` `AuditDenial::too_many_requests` -/
def tooManyRequests (method : Method) (preparsedTarget : PreparsedAuditTarget) : AuditDenial :=
  ⟨.tooManyRequests, method, preparsedTarget.target⟩

end AuditDenial

/-! ## Response and upstream errors -/

/-- Closed response-header audit error.
Source: `audit.rs` `AuditResponseHeaderError` -/
inductive AuditResponseHeaderError where
  | invalidConnectionHeader
  | tooLarge
  deriving DecidableEq

/-- Source: `audit.rs` `AuditResponseHeaderError::error_class` -/
def AuditResponseHeaderError.errorClass : AuditResponseHeaderError → String
  | invalidConnectionHeader => "invalid_response_connection_header"
  | tooLarge => "response_headers_too_large"

/-- Source: `audit.rs` `AuditResponseHeaderError::status` -/
def AuditResponseHeaderError.status : AuditResponseHeaderError → StatusCode
  | invalidConnectionHeader | tooLarge => .badGateway

/-- Closed upstream request audit error.
Source: `audit.rs` `AuditUpstreamError` -/
inductive AuditUpstreamError where
  | connect
  | request
  | timeout
  deriving DecidableEq

/-- Source: `audit.rs` `AuditUpstreamError::error_class` -/
def AuditUpstreamError.errorClass : AuditUpstreamError → String
  | connect => "upstream_connect_failed"
  | request => "upstream_request_failed"
  | timeout => "upstream_timeout"

/-- Source: `audit.rs` `AuditUpstreamError::status` -/
def AuditUpstreamError.status : AuditUpstreamError → StatusCode
  | connect | request => .badGateway
  | timeout => .gatewayTimeout

/-- Closed response-error audit event.
Source: `audit.rs` `AuditResponseError`, `AuditResponseErrorKind` -/
inductive AuditResponseError where
  | downstreamClosed (responseBody : ObservedBodySummary) (status : StatusCode)
  | responseBodyTooLarge (responseBody : OversizedResponseBody) (status : StatusCode)
  | responseHeader (error : AuditResponseHeaderError)
  | responseStreamTimeout (responseBody : ObservedBodySummary) (status : StatusCode)
  | upstreamResponseStreamFailed (responseBody : ObservedBodySummary) (status : StatusCode)
  | upstreamResponseTimeout (responseBody : ObservedBodySummary) (status : StatusCode)
  deriving DecidableEq

/-- The serialized audit parts of a response error.
Source: `audit.rs` `AuditResponseError::into_parts` -/
def AuditResponseError.intoParts : AuditResponseError → String × AuditBodySummary × StatusCode
  | downstreamClosed responseBody status => ("downstream_closed", responseBody.intoSummary, status)
  | responseBodyTooLarge responseBody status =>
      ("response_body_too_large",
        .nonEmpty responseBody.observation.blake3 responseBody.observation.bytes, status)
  | responseHeader error => (error.errorClass, .notObserved, error.status)
  | responseStreamTimeout responseBody status =>
      ("response_stream_timeout", responseBody.intoSummary, status)
  | upstreamResponseStreamFailed responseBody status =>
      ("upstream_response_stream_failed", responseBody.intoSummary, status)
  | upstreamResponseTimeout responseBody status =>
      ("upstream_response_timeout", responseBody.intoSummary, status)

/-! ## Event inputs -/

/-- Closed audit outcome.
Source: `audit.rs` `AuditOutcome`, `AuditOutcomeKind` -/
inductive AuditOutcome where
  | allowed (responseBody : ObservedBodySummary) (status : StatusCode)
      (upstream : AuditUpstreamTarget)
  | denied (reason : AuditDenialReason)
  | responseError (error : AuditResponseError) (upstream : AuditUpstreamTarget)
  | upstreamError (error : AuditUpstreamError) (upstream : AuditUpstreamTarget)
  deriving DecidableEq

/-- Request context common to every audit event.
Source: `audit.rs` `AuditRequestInput` -/
structure AuditRequestInput where
  body : AuditBodySummary
  method : Method
  requestId : RequestId
  target : AuditTarget
  upstreamOrigin : UpstreamOrigin
  deriving DecidableEq

/-- Request context for a denied audit event.
Source: `audit.rs` `DeniedAuditRequestInput` -/
structure DeniedAuditRequestInput where
  reason : AuditDenialReason
  request : AuditRequestInput
  deriving DecidableEq

/-- Request context for an audit event after the request body was observed.
Source: `audit.rs` `ObservedAuditRequestInput` -/
structure ObservedAuditRequestInput where
  request : AuditRequestInput
  upstream : AuditUpstreamTarget
  deriving DecidableEq

/-- Input used to construct an audit event.
Source: `audit.rs` `AuditEventInput` -/
structure AuditEventInput where
  outcome : AuditOutcome
  request : AuditRequestInput
  deriving DecidableEq

/-- Creates request context for denial events.
Source: `audit.rs` `AuditRequestInput::for_denial` -/
def AuditRequestInput.forDenial (X : Crates) (denial : AuditDenial) (requestId : RequestId)
    (body : Option AccountedBody) (upstreamOrigin : UpstreamOrigin) : DeniedAuditRequestInput where
  reason := denial.reason
  request :=
    { body := body.elim .notObserved (AuditBodySummary.fromRequestBody X)
      method := denial.method
      requestId := requestId
      target := denial.target
      upstreamOrigin := upstreamOrigin }

/-- Creates request context after the request body was observed.
Source: `audit.rs` `ObservedAuditRequestInput::new` -/
def ObservedAuditRequestInput.new (X : Crates) (target : AllowedTarget) (requestId : RequestId)
    (body : AccountedBody) : Option ObservedAuditRequestInput := do
  let upstreamUrl := target.upstreamOrigin.joinPathQuery X target.target.path target.target.query
  let upstream ← AuditUpstreamTarget.fromUrl upstreamUrl
  return {
    request :=
      { body := AuditBodySummary.fromRequestBody X body
        method := target.method.method
        requestId := requestId
        target := AuditTarget.fromAccepted target.target
        upstreamOrigin := target.upstreamOrigin }
    upstream := upstream }

namespace AuditEventInput

/-- Source: `audit.rs` `AuditEventInput::allowed` -/
def allowed (observed : ObservedAuditRequestInput) (responseBody : ObservedBodySummary)
    (status : StatusCode) : AuditEventInput :=
  ⟨.allowed responseBody status observed.upstream, observed.request⟩

/-- Source: `audit.rs` `AuditEventInput::denied` -/
def denied (deniedRequest : DeniedAuditRequestInput) : AuditEventInput :=
  ⟨.denied deniedRequest.reason, deniedRequest.request⟩

/-- Source: `audit.rs` `AuditEventInput::response_error` -/
def responseError (observed : ObservedAuditRequestInput) (error : AuditResponseError) :
    AuditEventInput :=
  ⟨.responseError error observed.upstream, observed.request⟩

/-- Source: `audit.rs` `AuditEventInput::upstream_error` -/
def upstreamError (observed : ObservedAuditRequestInput) (error : AuditUpstreamError) :
    AuditEventInput :=
  ⟨.upstreamError error observed.upstream, observed.request⟩

end AuditEventInput

/-! ## Events -/

/-- Audit decision.
Source: `audit.rs` `AuditDecision` -/
inductive AuditDecision where
  | allowed
  | denied
  | responseError
  | upstreamError
  deriving DecidableEq

/-- Current audit event schema version; its number is 3.
Source: `audit.rs` `AuditSchemaVersion` -/
inductive AuditSchemaVersion where
  | current
  deriving DecidableEq

/-- Structured audit event.
Source: `audit.rs` `AuditEvent` -/
structure AuditEvent where
  decision : AuditDecision
  errorClass : Option String
  method : AuditMethod
  path : Text
  query : Option Text
  requestBody : AuditBodySummary
  requestId : RequestId
  responseBody : AuditBodySummary
  status : StatusCode
  timestamp : AuditTimestamp
  upstreamOrigin : Text
  upstreamPath : Option Text
  upstreamQuery : Option Text
  version : AuditSchemaVersion
  deriving DecidableEq

/-- The five parts of an event that the outcome decides.
Source: `audit.rs` `AuditEvent::new_at` -/
def AuditOutcome.eventParts : AuditOutcome →
    AuditDecision × Option String × AuditBodySummary × StatusCode × Option AuditUpstreamTarget
  | allowed responseBody status upstream =>
      (.allowed, none, responseBody.intoSummary, status, some upstream)
  | denied reason => (.denied, some reason.errorClass, .notObserved, reason.status, none)
  | responseError error upstream =>
      (.responseError, some error.intoParts.1, error.intoParts.2.1, error.intoParts.2.2,
        some upstream)
  | upstreamError error upstream =>
      (.upstreamError, some error.errorClass, .notObserved, error.status, some upstream)

/-- Creates an audit event for a request decision at a supplied timestamp.
Source: `audit.rs` `AuditEvent::new_at` -/
def AuditEvent.newAt (X : Crates) (input : AuditEventInput) (timestamp : AuditTimestamp) :
    Option AuditEvent :=
  (AuditMethod.fromMethod input.request.method).map fun method =>
    let (decision, errorClass, responseBody, status, upstream) := input.outcome.eventParts
    { decision := decision
      errorClass := errorClass
      method := method
      path := input.request.target.path
      query := input.request.target.query
      requestBody := input.request.body
      requestId := input.request.requestId
      responseBody := responseBody
      status := status
      timestamp := timestamp
      upstreamOrigin := input.request.upstreamOrigin.asStr X
      upstreamPath := upstream.map fun target => target.path.value
      upstreamQuery := upstream.bind fun target => target.query.map fun query => query.value
      version := .current }

/-- The event of a denied request.
Source: `gateway.rs` `Gateway::audit_denial` -/
def AuditEvent.forDenial (X : Crates) (denial : AuditDenial) (requestId : RequestId)
    (body : Option AccountedBody) (upstreamOrigin : UpstreamOrigin) (timestamp : AuditTimestamp) :
    Option AuditEvent :=
  AuditEvent.newAt X
    (AuditEventInput.denied (AuditRequestInput.forDenial X denial requestId body upstreamOrigin))
    timestamp

/-! ## The constructors return -/

/-- An audited method is always built. -/
lemma AuditMethod.fromMethod_total (method : Method) :
    ∃ audited, AuditMethod.fromMethod method = some audited ∧
      byteLen audited.value ≤ maxAllowedMethodBytes := by
  obtain ⟨text, htext, hlen⟩ := boundedAuditText_total maxAllowedMethodBytes method.fits (by decide)
  exact ⟨⟨text⟩, by rw [fromMethod, htext, Option.map_some], hlen⟩

/-- A query in memory is always bounded. -/
lemma AuditTarget.boundedQuery_total {query : Option Text}
    (hquery : ∀ q ∈ query, byteLen q ≤ isizeMax) :
    ∃ bounded, boundedQuery query = some bounded ∧
      ∀ q ∈ bounded, byteLen q ≤ maxAuditTargetQueryBytes := by
  cases query with
  | none => exact ⟨none, rfl, by simp⟩
  | some q =>
      obtain ⟨text, htext, hlen⟩ :=
        boundedAuditText_total maxAuditTargetQueryBytes (hquery q rfl) (by decide)
      exact ⟨some text, by rw [boundedQuery, htext, Option.map_some], by simpa using hlen⟩

/-- An audited target is always built from texts in memory, within its bounds. -/
lemma AuditTarget.fromUriParts_total {path : Text} {query : Option Text}
    (hpath : byteLen path ≤ isizeMax) (hquery : ∀ q ∈ query, byteLen q ≤ isizeMax) :
    ∃ target, fromUriParts path query = some target ∧
      byteLen target.path ≤ maxAuditTargetPathBytes ∧
      ∀ q ∈ target.query, byteLen q ≤ maxAuditTargetQueryBytes := by
  have hnormalized : byteLen (if path = [] then ['/'] else path) ≤ isizeMax := by
    split
    · decide
    · exact hpath
  obtain ⟨boundedPath, hbounded, hlen⟩ :=
    boundedAuditText_total maxAuditTargetPathBytes hnormalized (by decide)
  obtain ⟨bounded, hboundedQuery, hqlen⟩ := boundedQuery_total hquery
  refine ⟨⟨boundedPath, bounded⟩, ?_, hlen, hqlen⟩
  simp [fromUriParts, hbounded, hboundedQuery]

/-- Every part of a URI fits in memory, as the URI does. -/
lemma Uri.byteLen_parts (uri : Uri) :
    byteLen uri.path ≤ isizeMax ∧ (∀ q ∈ uri.query, byteLen q ≤ isizeMax) ∧
      byteLen uri.beforeQuery ≤ isizeMax := by
  have hfits := uri.fits
  rw [UriParts.text, byteLen_append] at hfits
  refine ⟨?_, ?_, by omega⟩
  · have hpath : byteLen uri.path ≤ byteLen uri.beforeQuery := by
      unfold UriParts.beforeQuery
      split
      · exact le_rfl
      · split
        · rw [byteLen_append]
          omega
        · rw [byteLen_append]
          omega
    omega
  · intro q hq
    rw [Option.mem_def] at hq
    simp only [hq, Option.map_some, Option.getD_some, byteLen_cons] at hfits
    omega

/-- The path part recorded for a URI.
Source: `audit.rs` `AuditTarget::from_request_uri` -/
lemma AuditTarget.fromRequestUri_eq (uri : Uri)
    (hbare : uri.authority.isSome → uri.scheme = none → uri.path = []) :
    fromRequestUri uri = fromUriParts uri.beforeQuery uri.query := by
  unfold fromRequestUri UriParts.beforeQuery
  rcases hauthority : uri.authority with _ | authority
  · rfl
  · rcases hscheme : uri.scheme with _ | scheme
    · rw [hauthority] at hbare
      simp only [hbare rfl hscheme, List.append_nil]
    · rfl

/-- The audit target of a URI is always built. -/
lemma AuditTarget.fromRequestUri_total (uri : Uri) :
    ∃ target, fromRequestUri uri = some target ∧
      byteLen target.path ≤ maxAuditTargetPathBytes ∧
      ∀ q ∈ target.query, byteLen q ≤ maxAuditTargetQueryBytes := by
  obtain ⟨hpath, hquery, hbefore⟩ := uri.byteLen_parts
  unfold fromRequestUri
  rcases hauthority : uri.authority with _ | authority
  · exact fromUriParts_total hpath hquery
  · refine fromUriParts_total ?_ hquery
    rcases hscheme : uri.scheme with _ | scheme
    · simp only [UriParts.beforeQuery, hauthority, hscheme, byteLen_append] at hbefore
      exact le_trans (Nat.le_add_right _ _) hbefore
    · simpa only [UriParts.beforeQuery, hauthority, hscheme] using hbefore

end Custode
