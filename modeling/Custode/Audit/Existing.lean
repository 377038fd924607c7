import Custode.Audit.Event
import Custode.Found.Hex

/-!
# Existing audit events

The startup side of `audit.rs`: reading the fields of a recorded event back, and the cross-field
validation that every line of an existing log has to pass. `ExistingAuditEventFields.read` is what
the field deserializers make of an event that this program wrote; the two fields that other crates
read (the timestamp by `humantime`, the origin by `url`) are taken as already read.

`validate` answers `none` where the source would panic: joining an accepted target onto an origin
parses the joined URL again.
-/

namespace Custode

open Found Found.Text

/-! ## Existing field values -/

/-- Existing audit decision parsed at startup.
Source: `audit.rs` `ExistingAuditDecision` -/
inductive ExistingAuditDecision where
  | allowed
  | denied
  | responseError
  | upstreamError
  deriving DecidableEq

/-- Existing audit error class parsed at startup.
Source: `audit.rs` `ExistingAuditErrorClass` -/
inductive ExistingAuditErrorClass where
  | absoluteFormUnsupported
  | connectUnsupported
  | dotSegment
  | downstreamClosed
  | encodedSeparator
  | invalidPercentEncoding
  | invalidRequestConnectionHeader
  | invalidResponseConnectionHeader
  | methodDenied
  | nonOriginForm
  | pathDenied
  | pathTooLong
  | queryTooLong
  | requestBodyReadFailed
  | requestBodyTimeout
  | requestBodyTooLarge
  | requestHeadersTooLarge
  | responseBodyTooLarge
  | responseHeadersTooLarge
  | responseStreamTimeout
  | tooManyRequests
  | upstreamConnectFailed
  | upstreamRequestFailed
  | upstreamResponseStreamFailed
  | upstreamResponseTimeout
  | upstreamTimeout
  deriving DecidableEq

/-- Existing audit body summary parsed at startup.
Source: `audit.rs` `ExistingAuditBodySummary` -/
inductive ExistingAuditBodySummary where
  | empty
  | nonEmpty (blake3 : Text) (bytes : NonZeroU64)
  | notObserved
  deriving DecidableEq

/-- Existing audit event fields parsed at startup before appending.
Source: `audit.rs` `ExistingAuditEventFields` -/
structure ExistingAuditEventFields where
  decision : ExistingAuditDecision
  errorClass : Option ExistingAuditErrorClass
  method : Text
  path : Text
  query : Option Text
  requestBody : ExistingAuditBodySummary
  requestId : Text
  responseBody : ExistingAuditBodySummary
  status : StatusCode
  timestamp : Text
  upstreamOrigin : UpstreamOrigin
  upstreamPath : Option Text
  upstreamQuery : Option Text
  version : AuditSchemaVersion
  deriving DecidableEq

/-! ## Reading the fields -/

/-- Why a field was not read: a value of the wrong kind (serde's `invalid_value`, with what was
expected; its `unknown_variant`) or a message of the gateway. -/
inductive ExistingFieldError where
  | invalidValue (expected : String)
  | unknownVariant (name : String)
  | custom (message : String)
  deriving DecidableEq

/-- Reads the recorded name of a decision (`rename_all = "snake_case"` on both sides). -/
def ExistingAuditDecision.ofDecision : AuditDecision → ExistingAuditDecision
  | .allowed => .allowed
  | .denied => .denied
  | .responseError => .responseError
  | .upstreamError => .upstreamError

/-- Reads the recorded name of an error class (`rename_all = "snake_case"`, with
`encoded_path_separator` renamed). -/
def ExistingAuditErrorClass.ofName : String → Except ExistingFieldError ExistingAuditErrorClass
  | "absolute_form_unsupported" => .ok .absoluteFormUnsupported
  | "connect_unsupported" => .ok .connectUnsupported
  | "dot_segment" => .ok .dotSegment
  | "downstream_closed" => .ok .downstreamClosed
  | "encoded_path_separator" => .ok .encodedSeparator
  | "invalid_percent_encoding" => .ok .invalidPercentEncoding
  | "invalid_request_connection_header" => .ok .invalidRequestConnectionHeader
  | "invalid_response_connection_header" => .ok .invalidResponseConnectionHeader
  | "method_denied" => .ok .methodDenied
  | "non_origin_form" => .ok .nonOriginForm
  | "path_denied" => .ok .pathDenied
  | "path_too_long" => .ok .pathTooLong
  | "query_too_long" => .ok .queryTooLong
  | "request_body_read_failed" => .ok .requestBodyReadFailed
  | "request_body_timeout" => .ok .requestBodyTimeout
  | "request_body_too_large" => .ok .requestBodyTooLarge
  | "request_headers_too_large" => .ok .requestHeadersTooLarge
  | "response_body_too_large" => .ok .responseBodyTooLarge
  | "response_headers_too_large" => .ok .responseHeadersTooLarge
  | "response_stream_timeout" => .ok .responseStreamTimeout
  | "too_many_requests" => .ok .tooManyRequests
  | "upstream_connect_failed" => .ok .upstreamConnectFailed
  | "upstream_request_failed" => .ok .upstreamRequestFailed
  | "upstream_response_stream_failed" => .ok .upstreamResponseStreamFailed
  | "upstream_response_timeout" => .ok .upstreamResponseTimeout
  | "upstream_timeout" => .ok .upstreamTimeout
  | name => .error (.unknownVariant name)

/-- Reads an optional field. -/
def readOptional {α β : Type} (read : α → Except ExistingFieldError β) :
    Option α → Except ExistingFieldError (Option β)
  | none => .ok none
  | some value => (read value).map some

/-- Validates bounded audit text from an existing log line.
Source: `audit.rs` `deserialize_existing_string_bounded` -/
def deserializeExistingStringBounded (value : Text) (maxBytes : Nat) (fieldName : String) :
    Except ExistingFieldError Text :=
  if byteLen value ≤ maxBytes then .ok value
  else .error (.custom (fieldName ++ " must be at most " ++ toString maxBytes ++ " bytes"))

/-- Writer-shaped truncated method strings.
Source: `audit.rs` `is_truncated_audit_method` -/
def isTruncatedAuditMethod (value : Text) : Bool :=
  (truncatedAuditTextPrefix value maxAllowedMethodBytes).any fun kept =>
    (Method.fromBytes kept).isSome

/-- Method strings emitted by the current audit schema.
Source: `audit.rs` `is_existing_audit_method` -/
def isExistingAuditMethod (value : Text) : Bool :=
  (Method.fromBytes value).isSome || isTruncatedAuditMethod value

/-- Validates the existing audit method string.
Source: `audit.rs` `deserialize_existing_method` -/
def deserializeExistingMethod (rawValue : Text) : Except ExistingFieldError Text := do
  let boundedValue ←
    deserializeExistingStringBounded rawValue maxAllowedMethodBytes "audited method"
  if isExistingAuditMethod boundedValue then return boundedValue
  else .error (.invalidValue "a valid or truncated audited HTTP method")

/-- Validates the existing audit path string.
Source: `audit.rs` `deserialize_existing_path` -/
def deserializeExistingPath (value : Text) : Except ExistingFieldError Text :=
  deserializeExistingStringBounded value maxAuditTargetPathBytes "audit path"

/-- Validates the existing audit query field.
Source: `audit.rs` `deserialize_existing_query` -/
def deserializeExistingQuery (value : Option Text) : Except ExistingFieldError (Option Text) :=
  readOptional (fun query =>
    deserializeExistingStringBounded query maxAuditTargetQueryBytes "audit query") value

/-- Validates an existing audit upstream path string.
Source: `audit.rs` `deserialize_existing_origin_path` -/
def deserializeExistingOriginPath (rawValue : Text) : Except ExistingFieldError Text := do
  let boundedValue ←
    deserializeExistingStringBounded rawValue maxAuditTargetPathBytes "upstream path"
  if (pathError boundedValue).isNone then return boundedValue
  else .error (.invalidValue "an origin-form path accepted by the gateway")

/-- Validates an existing audit upstream query string.
Source: `audit.rs` `deserialize_existing_origin_query` -/
def deserializeExistingOriginQuery (rawValue : Text) : Except ExistingFieldError Text := do
  let boundedValue ←
    deserializeExistingStringBounded rawValue maxAuditTargetQueryBytes "upstream query"
  if (queryError boundedValue).isNone then return boundedValue
  else .error (.invalidValue "an origin-form query accepted by the gateway")

/-- Validates a lowercase BLAKE3 hex digest.
Source: `audit.rs` `deserialize_blake3_hex` -/
def deserializeBlake3Hex (value : Text) : Except ExistingFieldError Text :=
  if byteLen value = 64 ∧ (bytes value).all isLowerHexByte then .ok value
  else .error (.invalidValue "a 64-byte lowercase hexadecimal BLAKE3 digest")

/-- Request ids emitted by the current audit schema.
Source: `audit.rs` `is_existing_request_id` -/
def isExistingRequestId (value : Text) : Bool :=
  match stripPrefix "req-".toList value with
  | none => false
  | some rest =>
      match rest.splitOn '-' with
      | [first, second, sequence] =>
          ([first, second].all fun part => byteLen part == 16 && (bytes part).all isLowerHexByte)
            && byteLen sequence == 16
            && (bytes sequence).all isLowerHexByte
            && ((fromStrRadix16 sequence).bind nonZeroU64).isSome
      | _ => false

/-- Validates the existing audit request identity.
Source: `audit.rs` `deserialize_existing_request_id` -/
def deserializeExistingRequestId (value : Text) : Except ExistingFieldError Text :=
  if isExistingRequestId value then .ok value
  else .error (.invalidValue "a request id formatted as req-<16 hex>-<16 hex>-<16 hex>")

/-- Validates the existing audit status code.
Source: `audit.rs` `deserialize_existing_status` -/
def deserializeExistingStatus (value : Nat) : Except ExistingFieldError StatusCode :=
  match StatusCode.fromU16 value with
  | some status => .ok status
  | none => .error (.invalidValue "a valid HTTP status")

/-! ## What the writer prints -/

/-- The digest as lowercase BLAKE3 hex.
Source: `body.rs` `BodyDigest::to_hex_string` -/
def Hash.toHexString (hash : Hash) : Text := hash.bytes.flatMap fun byte => hexDigits 2 byte.toNat

/-- The run token text: two halves of eight bytes.
Source: `audit.rs` `Display for RunToken` -/
def RunToken.halves (token : RunToken) : Text × Text :=
  let half := fun entropy : List UInt8 => entropy.flatMap fun byte => hexDigits 2 byte.toNat
  (half (token.entropy.take 8), half (token.entropy.drop 8))

/-- The request identity text.
Source: `audit.rs` `Display for RequestId` -/
def RequestId.display (id : RequestId) : Text :=
  "req-".toList ++ List.intercalate ['-']
    [id.runToken.halves.1, id.runToken.halves.2, hexDigits 16 id.sequence.get]

/-! ## Reading an event -/

/-- Reads a recorded body summary. -/
def ExistingAuditBodySummary.read :
    AuditBodySummary → Except ExistingFieldError ExistingAuditBodySummary
  | .empty => .ok .empty
  | .nonEmpty blake3 bytes => (deserializeBlake3Hex blake3.toHexString).map fun digest =>
      .nonEmpty digest bytes
  | .notObserved => .ok .notObserved

/-- Reads the fields of an event that was written by this program, with its origin field read as
`origin`.
Source: `audit.rs` `ExistingAuditEventWireFields` -/
def ExistingAuditEventFields.read (event : AuditEvent) (origin : UpstreamOrigin) :
    Except ExistingFieldError ExistingAuditEventFields := do
  let errorClass ← readOptional ExistingAuditErrorClass.ofName event.errorClass
  let method ← deserializeExistingMethod event.method.value
  let path ← deserializeExistingPath event.path
  let query ← deserializeExistingQuery event.query
  let requestBody ← ExistingAuditBodySummary.read event.requestBody
  let requestId ← deserializeExistingRequestId event.requestId.display
  let responseBody ← ExistingAuditBodySummary.read event.responseBody
  let status ← deserializeExistingStatus event.status.code
  let upstreamPath ← readOptional deserializeExistingOriginPath event.upstreamPath
  let upstreamQuery ← readOptional deserializeExistingOriginQuery event.upstreamQuery
  return {
    decision := .ofDecision event.decision
    errorClass := errorClass
    method := method
    path := path
    query := query
    requestBody := requestBody
    requestId := requestId
    responseBody := responseBody
    status := status
    timestamp := event.timestamp.text
    upstreamOrigin := origin
    upstreamPath := upstreamPath
    upstreamQuery := upstreamQuery
    version := event.version }

/-! ## Cross-field validation -/

/-- The body bytes were not observed.
Source: `audit.rs` `ExistingAuditBodySummary::is_not_observed` -/
def ExistingAuditBodySummary.isNotObserved : ExistingAuditBodySummary → Bool
  | .notObserved => true
  | .empty | .nonEmpty _ _ => false

/-- The body bytes were observed.
Source: `audit.rs` `ExistingAuditBodySummary::is_observed` -/
def ExistingAuditBodySummary.isObserved : ExistingAuditBodySummary → Bool
  | .empty | .nonEmpty _ _ => true
  | .notObserved => false

namespace ExistingAuditErrorClass

/-- The fixed status for error classes that choose the response.
Source: `audit.rs` `ExistingAuditErrorClass::fixed_status` -/
def fixedStatus : ExistingAuditErrorClass → Option StatusCode
  | absoluteFormUnsupported | dotSegment | encodedSeparator | invalidPercentEncoding
  | invalidRequestConnectionHeader | nonOriginForm | requestBodyReadFailed => some .badRequest
  | connectUnsupported => some .methodNotAllowed
  | invalidResponseConnectionHeader | responseHeadersTooLarge | upstreamConnectFailed
  | upstreamRequestFailed => some .badGateway
  | methodDenied | pathDenied => some .forbidden
  | pathTooLong | queryTooLong => some .uriTooLong
  | requestBodyTimeout => some .requestTimeout
  | requestBodyTooLarge => some .payloadTooLarge
  | requestHeadersTooLarge => some .requestHeaderFieldsTooLarge
  | tooManyRequests => some .tooManyRequests
  | upstreamTimeout => some .gatewayTimeout
  | downstreamClosed | responseBodyTooLarge | responseStreamTimeout | upstreamResponseStreamFailed
  | upstreamResponseTimeout => none

/-- The error class belongs to denied decisions.
Source: `audit.rs` `ExistingAuditErrorClass::is_denial` -/
def isDenial : ExistingAuditErrorClass → Bool
  | absoluteFormUnsupported | connectUnsupported | dotSegment | encodedSeparator
  | invalidPercentEncoding | invalidRequestConnectionHeader | methodDenied | nonOriginForm
  | pathDenied | pathTooLong | queryTooLong | requestBodyReadFailed | requestBodyTimeout
  | requestBodyTooLarge | requestHeadersTooLarge | tooManyRequests => true
  | _ => false

/-- The error class belongs to response-error decisions.
Source: `audit.rs` `ExistingAuditErrorClass::is_response_error` -/
def isResponseError : ExistingAuditErrorClass → Bool
  | downstreamClosed | invalidResponseConnectionHeader | responseBodyTooLarge
  | responseStreamTimeout | responseHeadersTooLarge | upstreamResponseStreamFailed
  | upstreamResponseTimeout => true
  | _ => false

/-- The error class belongs to upstream-error decisions.
Source: `audit.rs` `ExistingAuditErrorClass::is_upstream_error` -/
def isUpstreamError : ExistingAuditErrorClass → Bool
  | upstreamConnectFailed | upstreamRequestFailed | upstreamTimeout => true
  | _ => false

/-- The request body cannot have been observed.
Source: `audit.rs` `ExistingAuditErrorClass::requires_unobserved_request_body` -/
def requiresUnobservedRequestBody : ExistingAuditErrorClass → Bool
  | requestBodyReadFailed | requestBodyTimeout | requestBodyTooLarge => true
  | _ => false

end ExistingAuditErrorClass

namespace ExistingAuditEventFields

variable (X : Crates) (fields : ExistingAuditEventFields)

/-- The audited request target as it appeared on the wire.
Source: `audit.rs` `ExistingAuditEventFields::raw_target_text` -/
def rawTargetText : Text :=
  match fields.query with
  | none => fields.path
  | some query => fields.path ++ '?' :: query

/-- The complete audited target parses with an authority.
Source: `audit.rs` `ExistingAuditEventFields::parsed_target_has_authority` -/
def parsedTargetHasAuthority : Bool := X.http.hasAuthority fields.rawTargetText

/-- Writer-shaped truncation preserves an authority prefix.
Source: `audit.rs` `ExistingAuditEventFields::truncated_target_has_authority` -/
def truncatedTargetHasAuthority : Bool :=
  (truncatedAuditTextPrefix fields.path maxAuditTargetPathBytes).any X.http.hasAuthority

/-- The audited target carries an HTTP authority.
Source: `audit.rs` `ExistingAuditEventFields::target_has_authority` -/
def targetHasAuthority : Bool :=
  fields.parsedTargetHasAuthority X || fields.truncatedTargetHasAuthority X

/-- Validates that the audit target is authority-bearing.
Source: `audit.rs` `ExistingAuditEventFields::expect_authority_target` -/
def expectAuthorityTarget (message : String) : Except String Unit :=
  if fields.targetHasAuthority X then .ok () else .error message

/-- Validates that the audit target reproduces the expected parser rejection.
Source: `audit.rs` `ExistingAuditEventFields::expect_target_rejection` -/
def expectTargetRejection (expected : TargetRejectionReason) (message : String) :
    Except String Unit :=
  match AcceptedTarget.new fields.path fields.query with
  | .error actual => if actual = expected then .ok () else .error message
  | .ok _ => .error message

/-- Validates that the audit target is rejected without carrying authority.
Source: `audit.rs` `ExistingAuditEventFields::expect_non_authority_target_rejection` -/
def expectNonAuthorityTargetRejection (expected : TargetRejectionReason) (message : String) :
    Except String Unit :=
  if fields.targetHasAuthority X then .error message
  else fields.expectTargetRejection expected message

/-- The upstream URL target implied by the accepted request target.
Source: `audit.rs` `ExistingAuditEventFields::expected_upstream_target` -/
def expectedUpstreamTarget : Option (Except String AuditUpstreamTarget) :=
  match AcceptedTarget.new fields.path fields.query with
  | .error _ => some (.error "upstream-attempted audit target must be accepted")
  | .ok accepted =>
      (AuditUpstreamTarget.fromUrl
        (fields.upstreamOrigin.joinPathQuery X accepted.path accepted.query)).map .ok

/-- Validates denial error classes against the audited request target.
Source: `audit.rs` `ExistingAuditEventFields::validate_denied_target` -/
def validateDeniedTarget (maybeErrorClass : Option ExistingAuditErrorClass) :
    Except String Unit :=
  match maybeErrorClass with
  | none => .ok ()
  | some errorClass =>
      if fields.decision ≠ .denied then .ok ()
      else
        match errorClass with
        | .absoluteFormUnsupported =>
            fields.expectAuthorityTarget X "audit target does not match absolute-form denial"
        | .nonOriginForm =>
            fields.expectNonAuthorityTargetRejection X .nonOriginForm
              "audit target does not match non-origin-form denial"
        | .dotSegment =>
            fields.expectTargetRejection .dotSegment
              "audit target does not match dot-segment denial"
        | .encodedSeparator =>
            fields.expectTargetRejection .encodedSeparator
              "audit target does not match encoded-separator denial"
        | .invalidPercentEncoding =>
            fields.expectTargetRejection .invalidPercentEncoding
              "audit target does not match invalid-percent denial"
        | .pathTooLong =>
            if !fields.targetHasAuthority X
                && isTruncatedAuditText fields.path maxAuditTargetPathBytes then .ok ()
            else .error "audit target does not match path-too-long denial"
        | .queryTooLong =>
            if (pathError fields.path).isNone
                && fields.query.any fun query =>
                  isTruncatedAuditText query maxAuditTargetQueryBytes then .ok ()
            else .error "audit target does not match query-too-long denial"
        | .methodDenied | .pathDenied | .invalidRequestConnectionHeader | .requestBodyReadFailed
        | .requestBodyTimeout | .requestBodyTooLarge | .requestHeadersTooLarge =>
            match AcceptedTarget.new fields.path fields.query with
            | .ok _ => .ok ()
            | .error _ => .error "audit target must be accepted before this denial"
        | .connectUnsupported | .tooManyRequests => .ok ()
        | .downstreamClosed | .invalidResponseConnectionHeader | .responseBodyTooLarge
        | .responseStreamTimeout | .responseHeadersTooLarge | .upstreamConnectFailed
        | .upstreamRequestFailed | .upstreamResponseStreamFailed | .upstreamResponseTimeout
        | .upstreamTimeout => .error "audit error class does not match decision"

/-- Validates that the decision and error class agree.
Source: `audit.rs` `ExistingAuditEventFields::validate_error_class` -/
def validateErrorClass : Except String (Option ExistingAuditErrorClass) :=
  match fields.decision, fields.errorClass with
  | .allowed, none => .ok none
  | .allowed, some _ => .error "allowed audit events must not have an error class"
  | _, none => .error "failed audit events must have an error class"
  | .denied, some errorClass =>
      if errorClass.isDenial then .ok (some errorClass)
      else .error "audit error class does not match decision"
  | .responseError, some errorClass =>
      if errorClass.isResponseError then .ok (some errorClass)
      else .error "audit error class does not match decision"
  | .upstreamError, some errorClass =>
      if errorClass.isUpstreamError then .ok (some errorClass)
      else .error "audit error class does not match decision"

/-- Validates the method for decision-specific terminal states.
Source: `audit.rs` `ExistingAuditEventFields::validate_method` -/
def validateMethod (errorClass : Option ExistingAuditErrorClass) : Except String Unit :=
  let isConnect := decide (fields.method = Method.connect.text)
  match errorClass with
  | some .connectUnsupported =>
      if isConnect then .ok () else .error "connect denials must record CONNECT"
  | some .tooManyRequests => .ok ()
  | _ => if isConnect then .error "CONNECT can only be denied before admission" else .ok ()

/-- Validates the request body summary for the decision.
Source: `audit.rs` `ExistingAuditEventFields::validate_request_body` -/
def validateRequestBody (errorClass : Option ExistingAuditErrorClass) : Except String Unit :=
  if errorClass.any ExistingAuditErrorClass.requiresUnobservedRequestBody then
    if fields.requestBody.isNotObserved then .ok ()
    else .error "audit request body summary does not match error class"
  else if fields.decision = .denied ∨ fields.requestBody.isObserved then .ok ()
  else .error "upstream-attempted audit events must observe the request body"

/-- Validates the response body summary for response-error decisions.
Source: `audit.rs` `ExistingAuditEventFields::validate_response_error_body` -/
def validateResponseErrorBody (errorClass : Option ExistingAuditErrorClass) :
    Except String Unit :=
  let matched :=
    match errorClass, fields.responseBody with
    | some .invalidResponseConnectionHeader, body | some .responseHeadersTooLarge, body =>
        body.isNotObserved
    | some .responseBodyTooLarge, .nonEmpty _ _ => true
    | some .downstreamClosed, body | some .responseStreamTimeout, body
    | some .upstreamResponseStreamFailed, body | some .upstreamResponseTimeout, body =>
        body.isObserved
    | _, _ => false
  if matched then .ok () else .error "audit response body summary does not match decision"

/-- Validates the response body summary for the decision.
Source: `audit.rs` `ExistingAuditEventFields::validate_response_body` -/
def validateResponseBody (errorClass : Option ExistingAuditErrorClass) : Except String Unit :=
  match fields.decision with
  | .allowed =>
      if fields.responseBody.isObserved then .ok ()
      else .error "audit response body summary does not match decision"
  | .denied | .upstreamError =>
      if fields.responseBody.isNotObserved then .ok ()
      else .error "audit response body summary does not match decision"
  | .responseError => fields.validateResponseErrorBody errorClass

/-- Validates fixed statuses implied by the error class.
Source: `audit.rs` `ExistingAuditEventFields::validate_status` -/
def validateStatus (errorClass : Option ExistingAuditErrorClass) : Except String Unit :=
  match errorClass.bind ExistingAuditErrorClass.fixedStatus with
  | some expected =>
      if fields.status ≠ expected then .error "audit status does not match error class" else .ok ()
  | none => .ok ()

/-- Validates the upstream target relationship for the decision.
Source: `audit.rs` `ExistingAuditEventFields::validate_upstream_target` -/
def validateUpstreamTarget : Option (Except String Unit) :=
  match fields.decision with
  | .denied =>
      if fields.upstreamPath = none ∧ fields.upstreamQuery = none then some (.ok ())
      else some (.error "denied audit events must not record an upstream target")
  | .allowed | .responseError | .upstreamError =>
      (fields.expectedUpstreamTarget X).map fun result => do
        let expected ← result
        if fields.upstreamPath = some expected.path.value
            ∧ fields.upstreamQuery = expected.query.map fun query => query.value then return ()
        else .error "upstream audit target must match the joined upstream URL"

/-- The checks of `validate` in front of the upstream target. -/
def validateBeforeUpstream : Except String Unit := do
  let errorClass ← fields.validateErrorClass
  fields.validateDeniedTarget X errorClass
  fields.validateMethod errorClass
  fields.validateRequestBody errorClass
  fields.validateResponseBody errorClass
  fields.validateStatus errorClass

/-- Validates cross-field invariants that JSON shape alone cannot encode.
Source: `audit.rs` `ExistingAuditEventFields::validate` -/
def validate : Option (Except String Unit) :=
  match fields.validateBeforeUpstream X with
  | .error message => some (.error message)
  | .ok () => fields.validateUpstreamTarget X

end ExistingAuditEventFields

end Custode
