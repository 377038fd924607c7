import Custode.Crates

/-!
# Parsed configuration

The parsed configuration values of `config.rs`. Each value type carries what its parser checked:

* `AllowedMethod` — at most 64 bytes, not `CONNECT`;
* `AllowedPath` — an accepted path, and for a prefix no trailing `/`;
* `NonZeroUpTo max` — the shared shape of the numeric bounds;
* `AuditEventBytes` — a number with a lower bound too;
* `UpstreamOrigin` — a URL that passed the checks of `UpstreamOrigin::parse`.

`GatewayConfig` holds the fields that request handling reads; the listen address and the audit log
path are not among them.
-/

namespace Custode

open Found Found.Text

/-! ## Bounds

The constants of `config.rs`, under their names there. -/

/-- Maximum serialized audit event bytes, with the newline. -/
def maxAuditEventBytes : Nat := 0x100000

/-- Minimum serialized audit event bytes, which every admitted target needs. -/
def minAuditEventBytes : Nat := 0x10000

/-- Maximum HTTP method bytes for allowlisted and audited methods. -/
def maxAllowedMethodBytes : Nat := 64

/-- Maximum configured allowed operation bytes. -/
def maxAllowedOperationBytes : Nat := maxOriginFormPathBytes + maxAllowedMethodBytes

/-- Maximum configured allowed operations. -/
def maxAllowedOperations : Nat := 256

/-- Maximum concurrent requests: `Semaphore::MAX_PERMITS` of Tokio. -/
def maxConcurrentRequests : Nat := usizeMax / 8

/-- Maximum incoming request body bytes. -/
def maxRequestBytes : Nat := 0x40000000

/-- Maximum incoming request header bytes, of names and values. -/
def maxRequestHeaderBytes : Nat := 0x100000

/-- Maximum upstream response body bytes. -/
def maxResponseBytes : Nat := 0x40000000

/-- Maximum upstream response header bytes, of names and values. -/
def maxResponseHeaderBytes : Nat := 0x100000

/-- Maximum request timeout in seconds. -/
def maxRequestTimeoutSecs : Nat := 3600

/-- Maximum upstream origin bytes. -/
def maxUpstreamOriginBytes : Nat := 255

/-- Configuration parsing error, for the modelled parsers.
Source: `config.rs` `ConfigError` -/
inductive ConfigError where
  | allowedOperationTooLong (max value : Nat)
  | boundTooLarge (name : String) (max value : Nat)
  | boundTooSmall (name : String) (min value : Nat)
  | duplicateAllowedOperation (operation : Text)
  | emptyOperations
  | invalidAllowedOperation (operation : Text)
  | invalidAllowedPath (path : Text)
  | invalidAllowedPrefix (path : Text)
  | invalidMethod (method : Text)
  | invalidOperationKind (kind : Text)
  | invalidUpstreamOrigin (raw : Text)
  | methodTooLong (max value : Nat)
  | tooManyAllowedOperations (max value : Nat)
  | unsupportedMethod (method : Text)
  | unsupportedUpstreamScheme (scheme : Text)
  | upstreamOriginHasComponents
  | upstreamOriginHasCredentials
  | upstreamOriginHasZeroPort
  | upstreamOriginTooLong (max value : Nat)
  | wildcardUpstreamHost
  | zeroBound (name : String)
  deriving DecidableEq

/-! ## Numeric values -/

/-- A non-zero number of at most `max`. -/
structure NonZeroUpTo (max : Nat) where
  get : Nat
  nonZero : 0 < get
  bounded : get ≤ max

/-- A bounded number is its value. -/
lemma NonZeroUpTo.eq_iff {max : Nat} {a b : NonZeroUpTo max} : a = b ↔ a.get = b.get := by
  cases a
  cases b
  simp

instance {max : Nat} : DecidableEq (NonZeroUpTo max) := fun _ _ =>
  decidable_of_iff' _ NonZeroUpTo.eq_iff

/-- Parses a bounded non-zero number.
Source: `config.rs` `bounded_non_zero_usize`, `bounded_non_zero_u64` -/
def boundedNonZero (max : Nat) (name : String) (rawValue : Nat) :
    Except ConfigError (NonZeroUpTo max) :=
  if hzero : rawValue = 0 then .error (.zeroBound name)
  else if hmax : max < rawValue then .error (.boundTooLarge name max rawValue)
  else .ok ⟨rawValue, by omega, by omega⟩

/-- Parsed maximum concurrent gateway requests.
Source: `config.rs` `ConcurrentRequests` -/
abbrev ConcurrentRequests := NonZeroUpTo maxConcurrentRequests

/-- Parsed maximum incoming request body bytes.
Source: `config.rs` `RequestBodyBytes` -/
abbrev RequestBodyBytes := NonZeroUpTo maxRequestBytes

/-- Parsed maximum incoming request header bytes.
Source: `config.rs` `RequestHeaderBytes` -/
abbrev RequestHeaderBytes := NonZeroUpTo maxRequestHeaderBytes

/-- Parsed maximum upstream response body bytes.
Source: `config.rs` `ResponseBodyBytes` -/
abbrev ResponseBodyBytes := NonZeroUpTo maxResponseBytes

/-- Parsed maximum upstream response header bytes.
Source: `config.rs` `ResponseHeaderBytes` -/
abbrev ResponseHeaderBytes := NonZeroUpTo maxResponseHeaderBytes

/-- Parsed request timeout, in seconds.
Source: `config.rs` `RequestTimeout` -/
abbrev RequestTimeout := NonZeroUpTo maxRequestTimeoutSecs

/-- Parsed maximum audit event bytes.
Source: `config.rs` `AuditEventBytes` -/
structure AuditEventBytes where
  get : Nat
  large : minAuditEventBytes ≤ get
  bounded : get ≤ maxAuditEventBytes

/-- Parses and bounds audit event bytes.
Source: `config.rs` `AuditEventBytes::parse` -/
def AuditEventBytes.parse (name : String) (rawValue : Nat) : Except ConfigError AuditEventBytes :=
  match boundedNonZero maxAuditEventBytes name rawValue with
  | .error error => .error error
  | .ok value =>
      if hsmall : value.get < minAuditEventBytes then
        .error (.boundTooSmall name minAuditEventBytes rawValue)
      else .ok ⟨value.get, not_lt.mp hsmall, value.bounded⟩

/-! ## Allowed operations -/

/-- A configured HTTP method accepted by the gateway protocol.
Source: `config.rs` `AllowedMethod` -/
structure AllowedMethod where
  method : Method
  short : byteLen method.text ≤ maxAllowedMethodBytes
  supported : method ≠ Method.connect
  deriving DecidableEq

/-- Parses a configured HTTP method.
Source: `config.rs` `AllowedMethod::parse` -/
def AllowedMethod.parse (raw : Text) : Except ConfigError AllowedMethod :=
  if hlong : maxAllowedMethodBytes < byteLen raw then
    .error (.methodTooLong maxAllowedMethodBytes (byteLen raw))
  else
    match hmethod : Method.fromBytes raw with
    | none => .error (.invalidMethod raw)
    | some method =>
        if hconnect : method = Method.connect then .error (.unsupportedMethod raw)
        else .ok ⟨method, by rw [Method.text_of_fromBytes hmethod]; exact not_lt.mp hlong, hconnect⟩

/-- The configured method equals the supplied method.
Source: `config.rs` `AllowedMethod::matches` -/
def AllowedMethod.matches (allowed : AllowedMethod) (method : Method) : Bool :=
  decide (allowed.method = method)

/-- Allowed path match mode.
Source: `config.rs` `AllowedPathKind` -/
inductive AllowedPathKind where
  | exactPath
  | prefixPath
  deriving DecidableEq

/-- A configured allowed path.
Source: `config.rs` `AllowedPath` -/
structure AllowedPath where
  kind : AllowedPathKind
  value : OriginFormPath
  segment : kind = .prefixPath → ¬ ['/'] <:+ value.value
  deriving DecidableEq

/-- Parses an allowed path string.
Source: `config.rs` `parse_allowed_path` -/
def parseAllowedPath (path : Text) : Except ConfigError OriginFormPath :=
  (OriginFormPath.parse path).mapError fun _ => .invalidAllowedPath path

/-- Parses an exact allowed path.
Source: `config.rs` `AllowedPath::exact` -/
def AllowedPath.exact (raw : Text) : Except ConfigError AllowedPath :=
  (parseAllowedPath raw).map fun value => ⟨.exactPath, value, by simp⟩

/-- Parses an allowed path prefix. The source also rejects `/` by itself, which ends in `/`.
Source: `config.rs` `AllowedPath::prefix`, `parse_allowed_prefix` -/
def AllowedPath.prefixOf (raw : Text) : Except ConfigError AllowedPath :=
  match parseAllowedPath raw with
  | .error error => .error error
  | .ok path =>
      if h : path.value = ['/'] ∨ ['/'] <:+ path.value then .error (.invalidAllowedPrefix raw)
      else .ok ⟨.prefixPath, path, fun _ => fun hsuffix => h (.inr hsuffix)⟩

/-- The allowed path accepts the incoming path.
Source: `config.rs` `AllowedPath::matches` -/
def AllowedPath.matches (allowed : AllowedPath) (path : OriginFormPath) : Bool :=
  match allowed.kind with
  | .exactPath => decide (path.value = allowed.value.value)
  | .prefixPath =>
      decide (path.value = allowed.value.value)
        || (stripPrefix allowed.value.value path.value).any fun suffix => decide (['/'] <+: suffix)

/-- A configured method-path operation.
Source: `config.rs` `AllowedOperation` -/
structure AllowedOperation where
  method : AllowedMethod
  path : AllowedPath
  deriving DecidableEq

/-- This operation has the supplied method.
Source: `config.rs` `AllowedOperation::has_method` -/
def AllowedOperation.hasMethod (operation : AllowedOperation) (method : Method) : Bool :=
  operation.method.matches method

/-- This operation accepts the method and path.
Source: `config.rs` `AllowedOperation::matches` -/
def AllowedOperation.matches (operation : AllowedOperation) (method : Method)
    (path : OriginFormPath) : Bool :=
  operation.method.matches method && operation.path.matches path

/-! ## The upstream origin -/

/-- The first check of `UpstreamOrigin::parse` that a parsed URL fails.
Source: `config.rs` `UpstreamOrigin::parse` -/
def originError (url : Url) : Option ConfigError :=
  if ¬ (url.scheme = "http".toList ∨ url.scheme = "https".toList) then
    some (.unsupportedUpstreamScheme url.scheme)
  else if url.host.any fun host => host.contains '*' then some .wildcardUpstreamHost
  else if url.port = some 0 then some .upstreamOriginHasZeroPort
  else if url.path ≠ ['/'] ∨ url.query.isSome ∨ url.fragment.isSome then
    some .upstreamOriginHasComponents
  else if url.username ≠ [] ∨ url.password.isSome then some .upstreamOriginHasCredentials
  else none

/-- Configured upstream origin.
Source: `config.rs` `UpstreamOrigin` -/
structure UpstreamOrigin where
  url : Url
  accepted : originError url = none
  deriving DecidableEq

namespace UpstreamOrigin

/-- Parses an upstream origin from a raw string.
Source: `config.rs` `UpstreamOrigin::parse` -/
def parse (X : Crates) (raw : Text) : Except ConfigError UpstreamOrigin :=
  if maxUpstreamOriginBytes < byteLen raw then
    .error (.upstreamOriginTooLong maxUpstreamOriginBytes (byteLen raw))
  else
    match X.url.parse raw with
    | none => .error (.invalidUpstreamOrigin raw)
    | some url =>
        match h : originError url with
        | some error => .error error
        | none => .ok ⟨url, h⟩

/-- The origin as a string (`as_str().trim_end_matches('/')`).
Source: `config.rs` `UpstreamOrigin::as_str` -/
def asStr (X : Crates) (origin : UpstreamOrigin) : Text :=
  ((X.url.asStr origin.url).reverse.dropWhile (· == '/')).reverse

/-- Joins an accepted origin-form path and query onto this origin.
Source: `config.rs` `UpstreamOrigin::join_path_query` -/
def joinPathQuery (X : Crates) (origin : UpstreamOrigin) (path : OriginFormPath)
    (query : Option OriginFormQuery) : Url :=
  X.url.setQuery (X.url.setPath origin.url path.value) (query.map (·.value))

/-- A raw text is accepted iff it is short and its URL passes the checks. -/
lemma parse_eq_ok_iff {X : Crates} {raw : Text} {origin : UpstreamOrigin} :
    parse X raw = .ok origin ↔
      byteLen raw ≤ maxUpstreamOriginBytes ∧ X.url.parse raw = some origin.url := by
  obtain ⟨url, haccepted⟩ := origin
  unfold parse
  by_cases hlong : maxUpstreamOriginBytes < byteLen raw
  · simp [hlong, not_le.mpr hlong]
  · rw [if_neg hlong]
    rcases hurl : X.url.parse raw with _ | read
    · simp
    · simp only [not_lt.mp hlong, true_and, Option.some.injEq]
      split
      · rename_i error herror
        refine iff_of_false (by simp) ?_
        rintro rfl
        rw [haccepted] at herror
        cases herror
      · simp

/-- A configured origin is an HTTP URL. -/
lemma isHttp (origin : UpstreamOrigin) : origin.url.isHttp = true := by
  have h := origin.accepted
  unfold originError at h
  by_contra hscheme
  rw [if_pos (by simpa [Url.isHttp] using hscheme)] at h
  cases h

end UpstreamOrigin

/-! ## The configuration -/

/-- Fully parsed gateway configuration.
Source: `config.rs` `GatewayConfig` -/
structure GatewayConfig where
  allowedOperations : List AllowedOperation
  maxConcurrentRequests : ConcurrentRequests
  maxRequestBytes : RequestBodyBytes
  maxRequestHeaderBytes : RequestHeaderBytes
  maxResponseBytes : ResponseBodyBytes
  maxResponseHeaderBytes : ResponseHeaderBytes
  requestTimeout : RequestTimeout
  upstreamOrigin : UpstreamOrigin

end Custode
