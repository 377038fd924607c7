import Custode.Operations

/-!
# The serve arguments

`GatewayConfig::try_from` of `config.rs`: the arguments of the serve command become a configuration,
or the first refused one is reported. The log path and the bind address pass through it unparsed and
are left out; the audit event limit, which only the writer reads, is returned beside the rest.

* `GatewayConfig.tryFrom_eq_ok_iff` — a configuration holds what the arguments say.
* `GatewayConfig.tryFrom_defaults` — the default limits are accepted.
-/

namespace Custode

open Found Found.Text Found.Checks

/-- Raw serve command arguments before fail-closed parsing. There is no default allowlist.
Source: `config.rs` `ServeArgs` -/
structure ServeArgs where
  allowedOperations : List Text
  maxAuditEventBytes : Nat := minAuditEventBytes
  maxConcurrentRequests : Nat := 8
  maxRequestBytes : Nat := 10485760
  maxRequestHeaderBytes : Nat := 32768
  maxResponseBytes : Nat := 104857600
  maxResponseHeaderBytes : Nat := 65536
  requestTimeoutSecs : Nat := 120
  upstreamOrigin : Text

/-! ## Bounded numbers -/

/-- Source: `config.rs` `ConcurrentRequests::parse` -/
def ConcurrentRequests.parse (name : String) (rawValue : Nat) :
    Except ConfigError ConcurrentRequests :=
  boundedNonZero Custode.maxConcurrentRequests name rawValue

/-- Source: `config.rs` `RequestBodyBytes::parse` -/
def RequestBodyBytes.parse (name : String) (rawValue : Nat) : Except ConfigError RequestBodyBytes :=
  boundedNonZero Custode.maxRequestBytes name rawValue

/-- Source: `config.rs` `RequestHeaderBytes::parse` -/
def RequestHeaderBytes.parse (name : String) (rawValue : Nat) :
    Except ConfigError RequestHeaderBytes :=
  boundedNonZero Custode.maxRequestHeaderBytes name rawValue

/-- Source: `config.rs` `ResponseBodyBytes::parse` -/
def ResponseBodyBytes.parse (name : String) (rawValue : Nat) :
    Except ConfigError ResponseBodyBytes :=
  boundedNonZero Custode.maxResponseBytes name rawValue

/-- Source: `config.rs` `ResponseHeaderBytes::parse` -/
def ResponseHeaderBytes.parse (name : String) (rawValue : Nat) :
    Except ConfigError ResponseHeaderBytes :=
  boundedNonZero Custode.maxResponseHeaderBytes name rawValue

/-- Source: `config.rs` `RequestTimeout::parse_seconds` -/
def RequestTimeout.parseSeconds (name : String) (rawSeconds : Nat) :
    Except ConfigError RequestTimeout :=
  boundedNonZero maxRequestTimeoutSecs name rawSeconds

/-- A number is accepted as itself, when it is in its bounds. -/
lemma boundedNonZero_eq_ok_iff {max : Nat} {name : String} {rawValue : Nat}
    {value : NonZeroUpTo max} :
    boundedNonZero max name rawValue = .ok value ↔ value.get = rawValue := by
  unfold boundedNonZero
  constructor
  · intro h
    split_ifs at h
    cases h
    rfl
  · rintro rfl
    rw [dif_neg value.nonZero.ne', dif_neg (not_lt.mpr value.bounded)]

/-- The size of an event is read as itself. -/
lemma AuditEventBytes.parse_eq_ok_iff {name : String} {rawValue : Nat} {value : AuditEventBytes} :
    AuditEventBytes.parse name rawValue = .ok value ↔ value.get = rawValue := by
  unfold AuditEventBytes.parse
  constructor
  · intro h
    cases hbounded : boundedNonZero Custode.maxAuditEventBytes name rawValue with
    | error error =>
        rw [hbounded] at h
        cases h
    | ok bounded =>
        rw [hbounded] at h
        dsimp only at h
        split_ifs at h
        cases h
        exact boundedNonZero_eq_ok_iff.mp hbounded
  · rintro rfl
    have hpositive : 0 < value.get := lt_of_lt_of_le (by decide) value.large
    rw [boundedNonZero_eq_ok_iff.mpr
      (show (⟨value.get, hpositive, value.bounded⟩ : NonZeroUpTo _).get = value.get from rfl)]
    exact dif_neg (not_lt.mpr value.large)

/-! ## The configuration -/

namespace GatewayConfig

variable (X : Crates)

/-- Parses the arguments, in the order of the source.
Source: `config.rs` `impl TryFrom<ServeArgs> for GatewayConfig` -/
def tryFrom (args : ServeArgs) : Except ConfigError (GatewayConfig × AuditEventBytes) := do
  let allowedOperations ← AllowedOperations.parse args.allowedOperations
  let requestTimeout ← RequestTimeout.parseSeconds "CUSTODE_REQUEST_TIMEOUT_SECS"
    args.requestTimeoutSecs
  let maxAuditEventBytes ← AuditEventBytes.parse "CUSTODE_MAX_AUDIT_EVENT_BYTES"
    args.maxAuditEventBytes
  let maxConcurrentRequests ← ConcurrentRequests.parse "CUSTODE_MAX_CONCURRENT_REQUESTS"
    args.maxConcurrentRequests
  let maxRequestBytes ← RequestBodyBytes.parse "CUSTODE_MAX_REQUEST_BYTES" args.maxRequestBytes
  let maxRequestHeaderBytes ← RequestHeaderBytes.parse "CUSTODE_MAX_REQUEST_HEADER_BYTES"
    args.maxRequestHeaderBytes
  let maxResponseBytes ← ResponseBodyBytes.parse "CUSTODE_MAX_RESPONSE_BYTES" args.maxResponseBytes
  let maxResponseHeaderBytes ← ResponseHeaderBytes.parse "CUSTODE_MAX_RESPONSE_HEADER_BYTES"
    args.maxResponseHeaderBytes
  let upstreamOrigin ← UpstreamOrigin.parse X args.upstreamOrigin
  return (⟨allowedOperations.operations, maxConcurrentRequests, maxRequestBytes,
    maxRequestHeaderBytes, maxResponseBytes, maxResponseHeaderBytes, requestTimeout,
    upstreamOrigin⟩, maxAuditEventBytes)

variable {X}

/-- The configuration and the event limit hold what the arguments say. -/
structure HoldsArgs (X : Crates) (config : GatewayConfig) (maxEventBytes : AuditEventBytes)
    (args : ServeArgs) : Prop where
  allowedOperations :
    AllowedOperations.parse args.allowedOperations = .ok ⟨config.allowedOperations⟩
  requestTimeout : config.requestTimeout.get = args.requestTimeoutSecs
  maxAuditEventBytes : maxEventBytes.get = args.maxAuditEventBytes
  maxConcurrentRequests : config.maxConcurrentRequests.get = args.maxConcurrentRequests
  maxRequestBytes : config.maxRequestBytes.get = args.maxRequestBytes
  maxRequestHeaderBytes : config.maxRequestHeaderBytes.get = args.maxRequestHeaderBytes
  maxResponseBytes : config.maxResponseBytes.get = args.maxResponseBytes
  maxResponseHeaderBytes : config.maxResponseHeaderBytes.get = args.maxResponseHeaderBytes
  upstreamOrigin : UpstreamOrigin.parse X args.upstreamOrigin = .ok config.upstreamOrigin

/-- Arguments are accepted exactly for the configuration that holds them. -/
theorem tryFrom_eq_ok_iff {args : ServeArgs} {config : GatewayConfig}
    {maxEventBytes : AuditEventBytes} :
    tryFrom X args = .ok (config, maxEventBytes) ↔ HoldsArgs X config maxEventBytes args := by
  unfold tryFrom
  constructor
  · intro h
    obtain ⟨operations, hoperations, h⟩ := exists_of_bind_eq_ok h
    obtain ⟨timeout, htimeout, h⟩ := exists_of_bind_eq_ok h
    obtain ⟨eventBytes, heventBytes, h⟩ := exists_of_bind_eq_ok h
    obtain ⟨concurrent, hconcurrent, h⟩ := exists_of_bind_eq_ok h
    obtain ⟨requestBytes, hrequestBytes, h⟩ := exists_of_bind_eq_ok h
    obtain ⟨requestHeaders, hrequestHeaders, h⟩ := exists_of_bind_eq_ok h
    obtain ⟨responseBytes, hresponseBytes, h⟩ := exists_of_bind_eq_ok h
    obtain ⟨responseHeaders, hresponseHeaders, h⟩ := exists_of_bind_eq_ok h
    obtain ⟨origin, horigin, h⟩ := exists_of_bind_eq_ok h
    cases h
    exact ⟨hoperations, boundedNonZero_eq_ok_iff.mp htimeout,
      AuditEventBytes.parse_eq_ok_iff.mp heventBytes, boundedNonZero_eq_ok_iff.mp hconcurrent,
      boundedNonZero_eq_ok_iff.mp hrequestBytes, boundedNonZero_eq_ok_iff.mp hrequestHeaders,
      boundedNonZero_eq_ok_iff.mp hresponseBytes, boundedNonZero_eq_ok_iff.mp hresponseHeaders,
      horigin⟩
  · intro h
    have htimeout : RequestTimeout.parseSeconds "CUSTODE_REQUEST_TIMEOUT_SECS"
        args.requestTimeoutSecs = .ok config.requestTimeout :=
      boundedNonZero_eq_ok_iff.mpr h.requestTimeout
    have hconcurrent : ConcurrentRequests.parse "CUSTODE_MAX_CONCURRENT_REQUESTS"
        args.maxConcurrentRequests = .ok config.maxConcurrentRequests :=
      boundedNonZero_eq_ok_iff.mpr h.maxConcurrentRequests
    have hrequestBytes : RequestBodyBytes.parse "CUSTODE_MAX_REQUEST_BYTES" args.maxRequestBytes =
        .ok config.maxRequestBytes := boundedNonZero_eq_ok_iff.mpr h.maxRequestBytes
    have hrequestHeaders : RequestHeaderBytes.parse "CUSTODE_MAX_REQUEST_HEADER_BYTES"
        args.maxRequestHeaderBytes = .ok config.maxRequestHeaderBytes :=
      boundedNonZero_eq_ok_iff.mpr h.maxRequestHeaderBytes
    have hresponseBytes : ResponseBodyBytes.parse "CUSTODE_MAX_RESPONSE_BYTES"
        args.maxResponseBytes = .ok config.maxResponseBytes :=
      boundedNonZero_eq_ok_iff.mpr h.maxResponseBytes
    have hresponseHeaders : ResponseHeaderBytes.parse "CUSTODE_MAX_RESPONSE_HEADER_BYTES"
        args.maxResponseHeaderBytes = .ok config.maxResponseHeaderBytes :=
      boundedNonZero_eq_ok_iff.mpr h.maxResponseHeaderBytes
    rw [h.allowedOperations, htimeout, AuditEventBytes.parse_eq_ok_iff.mpr h.maxAuditEventBytes,
      hconcurrent, hrequestBytes, hrequestHeaders, hresponseBytes, hresponseHeaders,
      h.upstreamOrigin]
    rfl

/-- With the default limits, a list of operations and an origin that are accepted make a
configuration. -/
lemma tryFrom_defaults {operations : List Text} {allowed : AllowedOperations} {raw : Text}
    {origin : UpstreamOrigin} (hoperations : AllowedOperations.parse operations = .ok allowed)
    (horigin : UpstreamOrigin.parse X raw = .ok origin) :
    ∃ config maxEventBytes, tryFrom X { allowedOperations := operations, upstreamOrigin := raw } =
      .ok (config, maxEventBytes) := by
  let config : GatewayConfig := ⟨allowed.operations, ⟨8, by decide, by decide⟩,
    ⟨10485760, by decide, by decide⟩, ⟨32768, by decide, by decide⟩,
    ⟨104857600, by decide, by decide⟩, ⟨65536, by decide, by decide⟩, ⟨120, by decide, by decide⟩,
    origin⟩
  exact ⟨config, ⟨minAuditEventBytes, le_rfl, by decide⟩,
    tryFrom_eq_ok_iff.mpr ⟨hoperations, rfl, rfl, rfl, rfl, rfl, rfl, rfl, horigin⟩⟩

end GatewayConfig

end Custode
