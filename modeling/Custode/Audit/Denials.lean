import Custode.Audit.Written
import Custode.Http.Decisions
import Custode.Reference

/-!
# Denials survive a restart

A denial is decided on the full request target and checked again at startup from the bounded texts
of its event. `recordable_denial_accepted`: every denial of a request without an authority, other
than the two for over-long targets, is accepted at startup. The over-long targets and the targets
with an authority have modules of their own.
-/

namespace Custode

open Found Found.Text

variable {X : Crates}

/-! ## Targets without an authority -/

/-- The path of a URI without an authority: origin-form or `*`. -/
def IsOriginPath (path : Text) : Prop := ['/'] <+: path ∨ path = ['*']

/-- An origin-form path has its slash. -/
lemma IsOriginPath.ne_nil {path : Text} (h : IsOriginPath path) : path ≠ [] := by
  rintro rfl
  rcases h with h | h
  · simp at h
  · cases h

/-- Text that starts with `/` has no authority. -/
lemma hasAuthority_of_slash {text : Text} (h : ['/'] <+: text) :
    X.http.hasAuthority text = false := by
  obtain ⟨rest, rfl⟩ := h
  rw [← Bool.not_eq_true, X.http.hasAuthority_iff]
  rintro ⟨uri, hparse, hsome⟩
  rw [X.http.origin_form rest uri hparse] at hsome
  cases hsome

/-- Asterisk-form has no authority. -/
lemma hasAuthority_asterisk : X.http.hasAuthority ['*'] = false := by
  rw [← Bool.not_eq_true, X.http.hasAuthority_iff]
  rintro ⟨uri, hparse, hsome⟩
  rw [X.http.asterisk_form uri hparse] at hsome
  cases hsome

/-- A recorded origin-form or asterisk-form target is never taken for one with an authority. -/
lemma targetHasAuthority_of_originPath {fields : ExistingAuditEventFields}
    (h : IsOriginPath fields.path) : fields.targetHasAuthority X = false := by
  have hraw : fields.parsedTargetHasAuthority X = false := by
    unfold ExistingAuditEventFields.parsedTargetHasAuthority
      ExistingAuditEventFields.rawTargetText
    rcases h with h | h
    · cases fields.query with
      | none => exact hasAuthority_of_slash h
      | some query => exact hasAuthority_of_slash (h.trans (List.prefix_append _ _))
    · rw [h]
      cases fields.query with
      | none => exact hasAuthority_asterisk
      | some query => simp [HttpUri.hasAuthority, X.http.asterisk_query]
  have htruncated : fields.truncatedTargetHasAuthority X = false := by
    unfold ExistingAuditEventFields.truncatedTargetHasAuthority
    rcases hkept : truncatedAuditTextPrefix fields.path maxAuditTargetPathBytes with _ | kept
    · rfl
    · -- what is kept is a prefix of the path, so it is empty, `*`, or starts with `/`
      have hprefix := truncatedAuditTextPrefix_isPrefix hkept
      rw [Option.any_some]
      rcases kept with _ | ⟨c, kept⟩
      · simp [HttpUri.hasAuthority, X.http.empty]
      · rcases h with h | h
        · exact hasAuthority_of_slash (List.prefix_of_prefix_length_le h hprefix (by simp))
        · have hall : c :: kept = ['*'] := by
            rw [h] at hprefix
            exact hprefix.eq_of_length_le (by simp)
          rw [hall]
          exact hasAuthority_asterisk
  rw [ExistingAuditEventFields.targetHasAuthority, hraw, htruncated]
  rfl

/-- The two parts of an audit target are bounded independently. -/
lemma fromUriParts_eq {path path' : Text} {query query' : Option Text} (hne : path ≠ [])
    (hpath : boundedAuditText path maxAuditTargetPathBytes = some path')
    (hquery : AuditTarget.boundedQuery query = some query') :
    AuditTarget.fromUriParts path query = some ⟨path', query'⟩ := by
  simp [AuditTarget.fromUriParts, hne, hpath, hquery]

/-- The audit target of a URI is bounded. -/
lemma AuditTarget.bounded_of_uri {uri : Uri} {target : AuditTarget}
    (h : AuditTarget.fromRequestUri uri = some target) : target.Bounded := by
  obtain ⟨target', htarget, hpath, hquery⟩ := AuditTarget.fromRequestUri_total uri
  rw [h, Option.some.injEq] at htarget
  subst htarget
  exact ⟨hpath, hquery⟩

/-! ## Denials of accepted targets -/

/-- A denial that the validator admits only for an accepted target. -/
def AuditDenialReason.AfterAcceptance (reason : AuditDenialReason) : Prop :=
  reason = .methodDenied ∨ reason = .pathDenied ∨ reason = .invalidRequestConnectionHeader ∨
    reason = .requestBodyReadFailed ∨ reason = .requestBodyTimeout ∨
    reason = .requestBodyTooLarge ∨ reason = .requestHeadersTooLarge

/-- A denial of an accepted target is accepted at startup. -/
lemma denialAccepted_of_accepted {reason : AuditDenialReason} (hreason : reason.AfterAcceptance)
    {method : Method} (hmethod : method ≠ Method.connect) (target : AcceptedTarget)
    {requestId : RequestId} {origin readOrigin : UpstreamOrigin} {timestamp : AuditTimestamp} :
    DenialAccepted X ⟨reason, method, AuditTarget.fromAccepted target⟩ requestId origin readOrigin
      timestamp := by
  have hnew : AcceptedTarget.new target.path.value target.queryText = .ok target :=
    target.new_text
  refine (denialAccepted_iff (AuditTarget.bounded_fromAccepted target) ⟨?_, ?_⟩).mpr ?_
  · rintro rfl
    simp [AuditDenialReason.AfterAcceptance] at hreason
  · exact fun _ _ => hmethod
  · rcases hreason with rfl | rfl | rfl | rfl | rfl | rfl | rfl <;>
      simp [ExistingAuditEventFields.validateDeniedTarget, deniedFields,
        AuditDenialReason.existing, AuditTarget.fromAccepted, hnew]

/-! ## Denials of rejected targets -/

/-- Reasons for which a rejected target is recorded whole where it was rejected. -/
lemma recorded_rejection {uri : Uri} {reason : TargetRejectionReason}
    (hpath : IsOriginPath uri.path) (hauthority : uri.authority = none)
    (hreject : AcceptedTarget.new uri.path uri.query = .error reason)
    (hlongPath : reason ≠ .pathTooLong) (hlongQuery : reason ≠ .queryTooLong) {target : AuditTarget}
    (htarget : AuditTarget.fromRequestUri uri = some target) :
    target.path = uri.path ∧ AcceptedTarget.new target.path target.query = .error reason := by
  have hquery := uri.byteLen_parts.2.1
  have hparts : AuditTarget.fromRequestUri uri = AuditTarget.fromUriParts uri.path uri.query := by
    rw [AuditTarget.fromRequestUri, hauthority]
  obtain ⟨boundedQuery, hboundedQuery, -⟩ := AuditTarget.boundedQuery_total hquery
  -- the path is within its bound, so it is recorded whole
  have hwhole : byteLen uri.path ≤ maxAuditTargetPathBytes →
      target = ⟨uri.path, boundedQuery⟩ := by
    intro hle
    rw [hparts, fromUriParts_eq hpath.ne_nil (boundedAuditText_of_le hle) hboundedQuery,
      Option.some.injEq] at htarget
    exact htarget.symm
  rcases AcceptedTarget.new_eq_error hreject with
    ⟨error, herror, rfl⟩ | ⟨text, error, hnone, hsome, herror, rfl⟩
  · have hle : byteLen uri.path ≤ maxAuditTargetPathBytes := by
      by_contra hlong
      rw [pathError_eq_tooLong_iff.mpr (not_le.mp hlong), Option.some.injEq] at herror
      subst herror
      exact hlongPath rfl
    rw [hwhole hle]
    exact ⟨rfl, AcceptedTarget.new_of_pathError herror _⟩
  · have hle : byteLen uri.path ≤ maxAuditTargetPathBytes := by
      by_contra hlong
      rw [pathError_eq_tooLong_iff.mpr (not_le.mp hlong)] at hnone
      cases hnone
    have hleQuery : byteLen text ≤ maxAuditTargetQueryBytes := by
      by_contra hlong
      rw [queryError_eq_tooLong_iff.mpr (not_le.mp hlong), Option.some.injEq] at herror
      subst herror
      exact hlongQuery rfl
    rw [hsome, AuditTarget.boundedQuery, boundedAuditText_of_le hleQuery, Option.map_some,
      Option.some.injEq] at hboundedQuery
    subst hboundedQuery
    rw [hwhole hle]
    exact ⟨rfl, AcceptedTarget.new_of_queryError hnone herror⟩

/-- A recorded target that reproduces the rejection passes the check for it. -/
lemma expectTargetRejection_deniedFields {denial : AuditDenial} {expected : TargetRejectionReason}
    (hnew : AcceptedTarget.new denial.target.path denial.target.query = .error expected)
    {message : String} {requestId : RequestId} {timestamp : AuditTimestamp}
    {readOrigin : UpstreamOrigin} :
    (deniedFields denial [] requestId timestamp readOrigin).expectTargetRejection expected
      message = .ok () := by
  rw [ExistingAuditEventFields.expectTargetRejection, deniedFields, hnew]
  exact if_pos rfl

/-- A denial of a rejected target, other than an over-long one, is accepted at startup. -/
lemma denialAccepted_of_rejected {uri : Uri} {reason : TargetRejectionReason}
    (hpath : IsOriginPath uri.path) (hauthority : uri.authority = none)
    (hreject : AcceptedTarget.new uri.path uri.query = .error reason)
    (hlongPath : reason ≠ .pathTooLong) (hlongQuery : reason ≠ .queryTooLong) {target : AuditTarget}
    (htarget : AuditTarget.fromRequestUri uri = some target) {method : Method}
    (hmethod : method ≠ Method.connect) {requestId : RequestId}
    {origin readOrigin : UpstreamOrigin} {timestamp : AuditTimestamp} :
    DenialAccepted X (.targetRejected method ⟨reason, target⟩) requestId origin readOrigin
      timestamp := by
  obtain ⟨hsame, hnew⟩ :=
    recorded_rejection hpath hauthority hreject hlongPath hlongQuery htarget
  have hbounded := AuditTarget.bounded_of_uri htarget
  have hfits : (AuditDenial.targetRejected method ⟨reason, target⟩).MethodFits := by
    refine ⟨fun h => ?_, fun _ _ => ?_⟩ <;> cases reason <;>
      simp_all [AuditDenial.targetRejected]
  cases reason with
  | pathTooLong => exact absurd rfl hlongPath
  | queryTooLong => exact absurd rfl hlongQuery
  | nonOriginForm =>
      apply (denialAccepted_iff hbounded hfits).mpr
      have hauth : (deniedFields (.targetRejected method ⟨.nonOriginForm, target⟩) [] requestId
          timestamp readOrigin).targetHasAuthority X = false :=
        targetHasAuthority_of_originPath (by rw [← hsame] at hpath; exact hpath)
      exact (if_neg (by rw [hauth]; exact Bool.false_ne_true)).trans
        (expectTargetRejection_deniedFields hnew)
  | dotSegment =>
      exact (denialAccepted_iff hbounded hfits).mpr
        (expectTargetRejection_deniedFields hnew)
  | encodedSeparator =>
      exact (denialAccepted_iff hbounded hfits).mpr
        (expectTargetRejection_deniedFields hnew)
  | invalidPercentEncoding =>
      exact (denialAccepted_iff hbounded hfits).mpr
        (expectTargetRejection_deniedFields hnew)

/-! ## Every denial of a request without an authority -/

/-- **Recordable denials are accepted.** For a request without an authority, every denial that the
gateway can record, other than the two for over-long targets, passes the startup checks. -/
theorem recordable_denial_accepted (X : Crates) (config : GatewayConfig) (method : Method)
    (uri : Uri) (hauthority : uri.authority = none) (hpath : IsOriginPath uri.path)
    (denial : AuditDenial) (hrecordable : RecordableDenial config method uri denial)
    (hlongPath : denial.reason ≠ .pathTooLong) (hlongQuery : denial.reason ≠ .queryTooLong)
    (requestId : RequestId) (origin readOrigin : UpstreamOrigin) (timestamp : AuditTimestamp) :
    DenialAccepted X denial requestId origin readOrigin timestamp := by
  cases hrecordable with
  | @tooManyRequests target read =>
      rw [PreparsedAuditTarget.fromRequestUri, Option.map_eq_some_iff] at read
      obtain ⟨raw, hraw, rfl⟩ := read
      have hbounded := AuditTarget.bounded_of_uri hraw
      exact (denialAccepted_iff hbounded ⟨by simp [AuditDenial.tooManyRequests],
        fun _ h => absurd rfl h⟩).mpr rfl
  | target decided =>
      rcases targetDecision_eq_error decided with
        ⟨-, target, htarget, rfl⟩ | ⟨-, hsome, -⟩ |
        ⟨hmethod, -, reason, target, hreject, htarget, rfl⟩ |
        ⟨hmethod, -, accepted, rejection, -, hallow, rfl⟩
      · exact (denialAccepted_iff (AuditTarget.bounded_of_uri htarget)
          ⟨fun _ => rfl, fun h => absurd rfl h⟩).mpr rfl
      · rw [hauthority] at hsome
        cases hsome
      · refine denialAccepted_of_rejected hpath hauthority hreject ?_ ?_ htarget hmethod
        · rintro rfl
          exact hlongPath rfl
        · rintro rfl
          exact hlongQuery rfl
      · obtain ⟨hrejectedMethod, htarget⟩ := allowTarget_eq_error hallow
        rcases rejection with ⟨rejectedMethod, reason, rejectedTarget⟩
        subst hrejectedMethod htarget
        cases reason with
        | methodDenied => exact denialAccepted_of_accepted (.inl rfl) hmethod rejectedTarget
        | pathDenied => exact denialAccepted_of_accepted (.inr (.inl rfl)) hmethod rejectedTarget
  | @requestHeader allowed decided error =>
      obtain ⟨hmethod, -⟩ := targetDecision_eq_ok decided
      cases error with
      | invalidConnectionHeader =>
          exact denialAccepted_of_accepted (by simp [AuditDenialReason.AfterAcceptance]) hmethod
            allowed.target
      | tooLarge =>
          exact denialAccepted_of_accepted (by simp [AuditDenialReason.AfterAcceptance]) hmethod
            allowed.target
  | @requestBody allowed decided error =>
      obtain ⟨hmethod, -⟩ := targetDecision_eq_ok decided
      cases error with
      | read =>
          exact denialAccepted_of_accepted (by simp [AuditDenialReason.AfterAcceptance]) hmethod
            allowed.target
      | tooLarge =>
          exact denialAccepted_of_accepted (by simp [AuditDenialReason.AfterAcceptance]) hmethod
            allowed.target
  | @requestBodyTimeout allowed decided =>
      obtain ⟨hmethod, -⟩ := targetDecision_eq_ok decided
      exact denialAccepted_of_accepted (by simp [AuditDenialReason.AfterAcceptance]) hmethod
        allowed.target

/-- A request for `/v1/../models`. -/
def dotSegmentUri : Uri where
  scheme := none
  authority := none
  path := "/v1/../models".toList
  query := none
  fits := by decide

/-- The dot-segment denial of `/v1/../models`. -/
theorem dotSegment_denial_accepted : ∃ denial,
    targetDecision Reference.config Method.get dotSegmentUri = some (.error denial) ∧
      denial.reason = .dotSegment ∧ DenialAccepted Reference.crates denial Reference.requestId
        Reference.origin Reference.origin Reference.timestamp := by
  have hreject : AcceptedTarget.new dotSegmentUri.path dotSegmentUri.query = .error .dotSegment :=
    AcceptedTarget.new_of_pathError
      (show pathError dotSegmentUri.path = some .dotSegment by decide +kernel) none
  have hmethod : Method.get ≠ Method.connect := by decide
  obtain ⟨target, -, hdecision⟩ :=
    targetDecision_of_rejected Reference.config hmethod rfl hreject
  refine ⟨_, hdecision, rfl, ?_⟩
  exact recordable_denial_accepted Reference.crates Reference.config Method.get dotSegmentUri rfl
    (.inl (List.prefix_append ['/'] _)) _ (.target hdecision) (by simp [AuditDenial.targetRejected])
    (by simp [AuditDenial.targetRejected])
    Reference.requestId Reference.origin Reference.origin Reference.timestamp

end Custode
