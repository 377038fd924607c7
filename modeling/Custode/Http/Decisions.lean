import Custode.Audit.Event
import Custode.Headers

/-!
# Request decisions

The pure parts of `http.rs`: which denial a request target earns, and how the errors of the header
filter, the body reader and the upstream client become denials and audit errors.

`RecordableDenial` collects every denial that the handler records for a request; the handler's
programs refer to it (`Custode.Http.Handler`), so that what is proved about recordable denials
holds of what a run records.
-/

namespace Custode

open Found Found.Text

/-- Maps request body errors to closed audit denials.
Source: `http.rs` `audit_denial_from_request_body` -/
def auditDenialFromRequestBody (method : Method) (target : AcceptedTarget) :
    RequestBodyError → AuditDenial
  | .read => .requestBodyReadFailed method (.fromAccepted target)
  | .tooLarge => .requestBodyTooLarge method (.fromAccepted target)

/-- Maps request header errors to closed audit denials.
Source: `http.rs` `audit_denial_from_request_header` -/
def auditDenialFromRequestHeader (method : Method) (target : AcceptedTarget) :
    HeaderError → AuditDenial
  | .invalidConnectionHeader => .invalidRequestConnectionHeader method (.fromAccepted target)
  | .tooLarge => .requestHeadersTooLarge method (.fromAccepted target)

/-- Maps target parser rejection reasons to closed audit denials.
Source: `http.rs` `audit_denial_from_target_rejection` -/
def auditDenialFromTargetRejection (method : Method) (rejection : RejectedAuditTarget) :
    AuditDenial := .targetRejected method rejection

/-- Maps allowlist rejection reasons to closed audit denials.
Source: `http.rs` `audit_denial_from_allowlist_rejection` -/
def auditDenialFromAllowlistRejection (rejection : RejectedAllowedTarget) : AuditDenial :=
  .allowlistRejected rejection

/-- Maps response header errors to closed response-header errors.
Source: `http.rs` `audit_response_header_error` -/
def auditResponseHeaderError : HeaderError → AuditResponseHeaderError
  | .invalidConnectionHeader => .invalidConnectionHeader
  | .tooLarge => .tooLarge

/-- Accepts an origin-form target that is present in the allowlist, or names the denial that is
audited for it.
Source: `http.rs` `accept_allowed_target` -/
def targetDecision (config : GatewayConfig) (method : Method) (uri : Uri) :
    Option (Except AuditDenial AllowedTarget) :=
  if method = Method.connect then
    (PreparsedAuditTarget.fromRequestUri uri).map fun target => .error (.connectUnsupported target)
  else
    match AuthorityAuditTarget.fromRequestUri uri with
    | none => none
    | some (some authorityTarget) =>
        some (.error (.absoluteFormUnsupported method authorityTarget))
    | some none =>
        match RejectedAuditTarget.acceptRequestUri uri with
        | none => none
        | some (.error rejection) => some (.error (auditDenialFromTargetRejection method rejection))
        | some (.ok target) =>
            match allowTarget config method target with
            | .ok allowedTarget => some (.ok allowedTarget)
            | .error rejection => some (.error (auditDenialFromAllowlistRejection rejection))

/-- The denials that the gateway can record for a request with this method and URI. -/
inductive RecordableDenial (config : GatewayConfig) (method : Method) (uri : Uri) :
    AuditDenial → Prop
  | tooManyRequests {target : PreparsedAuditTarget}
      (read : PreparsedAuditTarget.fromRequestUri uri = some target) :
      RecordableDenial config method uri (.tooManyRequests method target)
  | target {denial : AuditDenial}
      (decided : targetDecision config method uri = some (.error denial)) :
      RecordableDenial config method uri denial
  | requestHeader {allowed : AllowedTarget}
      (decided : targetDecision config method uri = some (.ok allowed)) (error : HeaderError) :
      RecordableDenial config method uri
        (auditDenialFromRequestHeader method allowed.target error)
  | requestBody {allowed : AllowedTarget}
      (decided : targetDecision config method uri = some (.ok allowed))
      (error : RequestBodyError) :
      RecordableDenial config method uri (auditDenialFromRequestBody method allowed.target error)
  | requestBodyTimeout {allowed : AllowedTarget}
      (decided : targetDecision config method uri = some (.ok allowed)) :
      RecordableDenial config method uri
        (.requestBodyTimeout method (.fromAccepted allowed.target))

/-! ## What a decision says -/

section Decision

variable {config : GatewayConfig} {method : Method} {uri : Uri}

/-- The target of a request is prepared: URI text always fits the audit bounds. -/
lemma PreparsedAuditTarget.fromRequestUri_ne_none (uri : Uri) :
    PreparsedAuditTarget.fromRequestUri uri ≠ none := by
  obtain ⟨target, htarget, -⟩ := AuditTarget.fromRequestUri_total uri
  rw [PreparsedAuditTarget.fromRequestUri, htarget]
  simp

/-- The decision returns: URI text always fits the audit bounds. -/
lemma targetDecision_ne_none (config : GatewayConfig) (method : Method) (uri : Uri) :
    targetDecision config method uri ≠ none := by
  obtain ⟨target, htarget, -⟩ := AuditTarget.fromRequestUri_total uri
  unfold targetDecision PreparsedAuditTarget.fromRequestUri AuthorityAuditTarget.fromRequestUri
    RejectedAuditTarget.acceptRequestUri
  rw [htarget]
  split_ifs
  · simp
  · cases uri.authority with
    | some authority => simp
    | none =>
        cases AcceptedTarget.new uri.path uri.query with
        | error reason => simp
        | ok accepted =>
            simp only
            cases allowTarget config method accepted with
            | ok allowed => simp
            | error rejection => simp

/-- A URI with an authority is denied as absolute-form. -/
lemma targetDecision_of_authority (config : GatewayConfig) (hmethod : method ≠ Method.connect)
    (hauthority : uri.authority.isSome) :
    ∃ target, AuditTarget.fromRequestUri uri = some target ∧
      targetDecision config method uri =
        some (.error ⟨.absoluteFormUnsupported, method, target⟩) := by
  obtain ⟨target, htarget, -⟩ := AuditTarget.fromRequestUri_total uri
  obtain ⟨authority, hauthority⟩ := Option.isSome_iff_exists.mp hauthority
  refine ⟨target, htarget, ?_⟩
  unfold targetDecision AuthorityAuditTarget.fromRequestUri
  rw [if_neg hmethod, hauthority, htarget]
  rfl

/-- A target that the parser rejects is denied for the parser's reason. -/
lemma targetDecision_of_rejected (config : GatewayConfig) (hmethod : method ≠ Method.connect)
    (hauthority : uri.authority = none) {reason : TargetRejectionReason}
    (hreject : AcceptedTarget.new uri.path uri.query = .error reason) :
    ∃ target, AuditTarget.fromRequestUri uri = some target ∧
      targetDecision config method uri =
        some (.error (.targetRejected method ⟨reason, target⟩)) := by
  obtain ⟨target, htarget, -⟩ := AuditTarget.fromRequestUri_total uri
  refine ⟨target, htarget, ?_⟩
  unfold targetDecision AuthorityAuditTarget.fromRequestUri RejectedAuditTarget.acceptRequestUri
  rw [if_neg hmethod, hauthority, hreject, htarget]
  rfl

/-- The allowlist decides an accepted target. -/
lemma targetDecision_of_accepted (config : GatewayConfig) (hmethod : method ≠ Method.connect)
    (hauthority : uri.authority = none) {target : AcceptedTarget}
    (haccept : AcceptedTarget.new uri.path uri.query = .ok target) :
    targetDecision config method uri =
      match allowTarget config method target with
      | .ok allowedTarget => some (.ok allowedTarget)
      | .error rejection => some (.error (.allowlistRejected rejection)) := by
  unfold targetDecision AuthorityAuditTarget.fromRequestUri RejectedAuditTarget.acceptRequestUri
  rw [if_neg hmethod, hauthority, haccept]
  rfl

/-- An allowed decision: not `CONNECT`, no authority, an accepted target that the allowlist
allows. -/
lemma targetDecision_eq_ok {allowed : AllowedTarget}
    (h : targetDecision config method uri = some (.ok allowed)) :
    method ≠ Method.connect ∧ uri.authority = none ∧
      AcceptedTarget.new uri.path uri.query = .ok allowed.target ∧
      allowTarget config method allowed.target = .ok allowed := by
  by_cases hconnect : method = Method.connect
  · rw [targetDecision, if_pos hconnect] at h
    simp at h
  refine ⟨hconnect, ?_⟩
  rcases hauthority : uri.authority with _ | authority
  · rcases haccept : AcceptedTarget.new uri.path uri.query with reason | accepted
    · obtain ⟨target, -, hdecision⟩ :=
        targetDecision_of_rejected config hconnect hauthority haccept
      rw [hdecision] at h
      cases h
    · rw [targetDecision_of_accepted config hconnect hauthority haccept] at h
      rcases hallow : allowTarget config method accepted with rejection | allowed'
      · rw [hallow] at h
        cases h
      · rw [hallow] at h
        cases h
        have htarget := (allowTarget_eq_ok hallow).2.1
        exact ⟨rfl, by rw [htarget], by rw [htarget, hallow]⟩
  · obtain ⟨target, -, hdecision⟩ :=
      targetDecision_of_authority config hconnect (by rw [hauthority]; rfl)
    rw [hdecision] at h
    cases h

/-- What a denied decision is: one of the four rejections of `accept_allowed_target`. -/
lemma targetDecision_eq_error {denial : AuditDenial}
    (h : targetDecision config method uri = some (.error denial)) :
    (method = Method.connect ∧ ∃ target, AuditTarget.fromRequestUri uri = some target ∧
        denial = ⟨.connectUnsupported, Method.connect, target⟩) ∨
      (method ≠ Method.connect ∧ uri.authority.isSome ∧
        ∃ target, AuditTarget.fromRequestUri uri = some target ∧
          denial = ⟨.absoluteFormUnsupported, method, target⟩) ∨
      (method ≠ Method.connect ∧ uri.authority = none ∧
        ∃ reason target, AcceptedTarget.new uri.path uri.query = .error reason ∧
          AuditTarget.fromRequestUri uri = some target ∧
          denial = .targetRejected method ⟨reason, target⟩) ∨
      (method ≠ Method.connect ∧ uri.authority = none ∧
        ∃ accepted rejection, AcceptedTarget.new uri.path uri.query = .ok accepted ∧
          allowTarget config method accepted = .error rejection ∧
          denial = .allowlistRejected rejection) := by
  obtain ⟨target, htarget, -⟩ := AuditTarget.fromRequestUri_total uri
  by_cases hconnect : method = Method.connect
  · refine .inl ⟨hconnect, target, htarget, ?_⟩
    rw [targetDecision, if_pos hconnect, PreparsedAuditTarget.fromRequestUri, htarget] at h
    cases h
    rfl
  rcases hauthority : uri.authority with _ | authority
  · rcases haccept : AcceptedTarget.new uri.path uri.query with reason | accepted
    · obtain ⟨target', htarget', hdecision⟩ :=
        targetDecision_of_rejected config hconnect hauthority haccept
      rw [hdecision] at h
      cases h
      exact .inr (.inr (.inl ⟨hconnect, rfl, reason, target', rfl, htarget', rfl⟩))
    · rw [targetDecision_of_accepted config hconnect hauthority haccept] at h
      rcases hallow : allowTarget config method accepted with rejection | allowed
      · rw [hallow] at h
        cases h
        exact .inr (.inr (.inr ⟨hconnect, rfl, accepted, rejection, rfl, hallow, rfl⟩))
      · rw [hallow] at h
        cases h
  · obtain ⟨target', htarget', hdecision⟩ :=
      targetDecision_of_authority config hconnect (by rw [hauthority]; rfl)
    rw [hdecision] at h
    cases h
    exact .inr (.inl ⟨hconnect, rfl, target', htarget', rfl⟩)

end Decision

end Custode
