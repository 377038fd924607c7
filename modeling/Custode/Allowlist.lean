import Custode.Config

/-!
# Allowlist decisions

`allowlist.rs`: the accepted request target, the rejection reasons of the target parser, and the
allowlist decision with its two witnesses. `AcceptedTarget` holds an accepted path and an accepted
query, so `AcceptedTarget.new` accepts exactly the texts of accepted targets.

* `AllowedPath.matches_iff` — the byte test of a configured path is a relation of segment lists;
* `segments_survive_decoding` — decoding an accepted path does not change its segment list, and a
  path under a configured prefix stays under it;
* `allowlist_decision` — whom `allowTarget` lets through, and why it rejects.
-/

namespace Custode

open Found Found.Text

/-- Request target accepted by the gateway.
Source: `allowlist.rs` `AcceptedTarget` -/
structure AcceptedTarget where
  path : OriginFormPath
  query : Option OriginFormQuery
  deriving DecidableEq

/-- Request target proven to match the configured allowlist.
Source: `allowlist.rs` `AllowedTarget` -/
structure AllowedTarget where
  method : AllowedMethod
  target : AcceptedTarget
  upstreamOrigin : UpstreamOrigin
  deriving DecidableEq

/-- Reason a request target is rejected before allowlist checks.
Source: `allowlist.rs` `TargetRejectionReason` -/
inductive TargetRejectionReason where
  | dotSegment
  | encodedSeparator
  | invalidPercentEncoding
  | nonOriginForm
  | pathTooLong
  | queryTooLong
  deriving DecidableEq

/-- Reason an accepted request target is rejected by the allowlist.
Source: `allowlist.rs` `AllowlistRejectionReason` -/
inductive AllowlistRejectionReason where
  | methodDenied
  | pathDenied
  deriving DecidableEq

/-- Accepted request target proven rejected by the configured allowlist.
Source: `allowlist.rs` `RejectedAllowedTarget` -/
structure RejectedAllowedTarget where
  method : Method
  reason : AllowlistRejectionReason
  target : AcceptedTarget
  deriving DecidableEq

/-! ## Target parsing -/

/-- Maps origin-form path errors into request rejection reasons.
Source: `allowlist.rs` `rejection_from_path_error` -/
def rejectionFromPathError : OriginFormPathError → TargetRejectionReason
  | .dotSegment => .dotSegment
  | .encodedSeparator => .encodedSeparator
  | .invalidPercentEncoding => .invalidPercentEncoding
  | .invalidRequestTargetCharacter | .nonOriginForm => .nonOriginForm
  | .tooLong => .pathTooLong

/-- Maps origin-form query errors into request rejection reasons.
Source: `allowlist.rs` `rejection_from_query_error` -/
def rejectionFromQueryError : OriginFormQueryError → TargetRejectionReason
  | .invalidPercentEncoding => .invalidPercentEncoding
  | .fragmentDelimiter | .invalidRequestTargetCharacter => .nonOriginForm
  | .tooLong => .queryTooLong

/-- Parses an optional query (`query.map(OriginFormQuery::parse).transpose()`). -/
def parseOptionalQuery : Option Text → Except OriginFormQueryError (Option OriginFormQuery)
  | none => .ok none
  | some query => (OriginFormQuery.parse query).map some

/-- Creates a target from an origin-form request path and optional query.
Source: `allowlist.rs` `AcceptedTarget::new` -/
def AcceptedTarget.new (path : Text) (query : Option Text) :
    Except TargetRejectionReason AcceptedTarget :=
  match OriginFormPath.parse path with
  | .error error => .error (rejectionFromPathError error)
  | .ok acceptedPath =>
      match parseOptionalQuery query with
      | .error error => .error (rejectionFromQueryError error)
      | .ok acceptedQuery => .ok ⟨acceptedPath, acceptedQuery⟩

/-- The text of the accepted query.
Source: `allowlist.rs` `AcceptedTarget::query` -/
def AcceptedTarget.queryText (target : AcceptedTarget) : Option Text :=
  target.query.map fun query => query.value

/-- A path error decides the rejection, whatever the query is. -/
lemma AcceptedTarget.new_of_pathError {path : Text} {error : OriginFormPathError}
    (h : pathError path = some error) (query : Option Text) :
    AcceptedTarget.new path query = .error (rejectionFromPathError error) := by
  rw [AcceptedTarget.new, OriginFormPath.parse_eq_error_iff.mpr h]

/-- A query error decides the rejection of an accepted path. -/
lemma AcceptedTarget.new_of_queryError {path query : Text} {error : OriginFormQueryError}
    (hpath : pathError path = none) (hquery : queryError query = some error) :
    AcceptedTarget.new path (some query) = .error (rejectionFromQueryError error) := by
  rw [AcceptedTarget.new, OriginFormPath.parse_eq_ok hpath, parseOptionalQuery,
    OriginFormQuery.parse_eq_error_iff.mpr hquery]
  rfl

/-- The texts of an accepted target are accepted again, as the same target. -/
lemma AcceptedTarget.new_text (target : AcceptedTarget) :
    AcceptedTarget.new target.path.value target.queryText = .ok target := by
  obtain ⟨path, query⟩ := target
  rw [AcceptedTarget.new, OriginFormPath.parse_eq_ok path.accepted]
  cases query with
  | none => rfl
  | some query =>
      simp only [AcceptedTarget.queryText, Option.map_some, parseOptionalQuery,
        OriginFormQuery.parse_eq_ok query.accepted]
      rfl

/-- An accepted target has the texts it was made from. -/
lemma AcceptedTarget.new_eq_ok {path : Text} {query : Option Text} {target : AcceptedTarget}
    (h : AcceptedTarget.new path query = .ok target) :
    target.path.value = path ∧ target.queryText = query := by
  rcases hpath : pathError path with _ | error
  · rw [AcceptedTarget.new, OriginFormPath.parse_eq_ok hpath] at h
    cases query with
    | none =>
        cases h
        exact ⟨rfl, rfl⟩
    | some text =>
        rcases hquery : queryError text with _ | error
        · rw [parseOptionalQuery, OriginFormQuery.parse_eq_ok hquery] at h
          cases h
          exact ⟨rfl, rfl⟩
        · rw [parseOptionalQuery, OriginFormQuery.parse_eq_error_iff.mpr hquery] at h
          cases h
  · rw [AcceptedTarget.new_of_pathError hpath] at h
    cases h

/-- What a rejection says about the two texts: a path error, or an accepted path and a query
error. -/
lemma AcceptedTarget.new_eq_error {path : Text} {query : Option Text}
    {reason : TargetRejectionReason} (h : AcceptedTarget.new path query = .error reason) :
    (∃ error, pathError path = some error ∧ reason = rejectionFromPathError error) ∨
      ∃ text error, pathError path = none ∧ query = some text ∧ queryError text = some error ∧
        reason = rejectionFromQueryError error := by
  rcases hpath : pathError path with _ | error
  · rw [AcceptedTarget.new, OriginFormPath.parse_eq_ok hpath] at h
    cases query with
    | none => cases h
    | some text =>
        rcases hquery : queryError text with _ | error
        · rw [parseOptionalQuery, OriginFormQuery.parse_eq_ok hquery] at h
          cases h
        · rw [parseOptionalQuery, OriginFormQuery.parse_eq_error_iff.mpr hquery] at h
          cases h
          exact .inr ⟨text, error, rfl, rfl, hquery, rfl⟩
  · rw [AcceptedTarget.new_of_pathError hpath] at h
    cases h
    exact .inl ⟨error, rfl, rfl⟩

/-! ## The decision -/

/-- The configured method witness for an allowed request.
Source: `allowlist.rs` `allowed_method` -/
def allowedMethod (config : GatewayConfig) (method : Method) (target : AcceptedTarget) :
    Option AllowedMethod :=
  (config.allowedOperations.find? fun operation => operation.matches method target.path).map
    fun operation => operation.method

/-- The rejection reason for a denied method.
Source: `allowlist.rs` `rejection_for` -/
def rejectionFor (config : GatewayConfig) (method : Method) : AllowlistRejectionReason :=
  if config.allowedOperations.any fun operation => operation.hasMethod method then .pathDenied
  else .methodDenied

/-- Proves that an accepted target is allowed for the supplied method.
Source: `allowlist.rs` `allow_target` -/
def allowTarget (config : GatewayConfig) (method : Method) (target : AcceptedTarget) :
    Except RejectedAllowedTarget AllowedTarget :=
  match allowedMethod config method target with
  | some allowed => .ok ⟨allowed, target, config.upstreamOrigin⟩
  | none => .error ⟨method, rejectionFor config method, target⟩

/-- An allowed target is the request's own method and target, paired with the configured origin. -/
lemma allowTarget_eq_ok {config : GatewayConfig} {method : Method} {target : AcceptedTarget}
    {allowed : AllowedTarget} (h : allowTarget config method target = .ok allowed) :
    allowed.method.method = method ∧ allowed.target = target ∧
      allowed.upstreamOrigin = config.upstreamOrigin := by
  unfold allowTarget at h
  split at h
  · rename_i witness hallowed
    cases h
    rw [allowedMethod, Option.map_eq_some_iff] at hallowed
    obtain ⟨operation, hfind, rfl⟩ := hallowed
    have hmatch := List.find?_some hfind
    simp only [AllowedOperation.matches, AllowedMethod.matches, Bool.and_eq_true,
      decide_eq_true_eq] at hmatch
    exact ⟨hmatch.1, rfl, rfl⟩
  · cases h

/-- A rejection keeps the request's own method and target. -/
lemma allowTarget_eq_error {config : GatewayConfig} {method : Method} {target : AcceptedTarget}
    {rejected : RejectedAllowedTarget} (h : allowTarget config method target = .error rejected) :
    rejected.method = method ∧ rejected.target = target := by
  unfold allowTarget at h
  split at h
  · cases h
  · cases h
    exact ⟨rfl, rfl⟩

/-! ## Configured paths and segments -/

/-- What stands behind a stripped prefix starts with `/` exactly when the text continues the prefix
with `/`. -/
lemma stripPrefix_any_slash (lead s : Text) :
    (stripPrefix lead s).any (fun suffix => decide (['/'] <+: suffix)) = true ↔
      lead ++ ['/'] <+: s := by
  unfold stripPrefix
  constructor
  · intro h
    split at h
    · rename_i hlead
      obtain ⟨rest, rfl⟩ := hlead
      rw [List.drop_left, Option.any_some, decide_eq_true_eq] at h
      exact (List.prefix_append_right_inj lead).mpr h
    · cases h
  · rintro ⟨rest, rfl⟩
    rw [List.append_assoc, if_pos (List.prefix_append _ _), List.drop_left, Option.any_some,
      decide_eq_true_eq]
    exact List.prefix_append _ _

/-- An exact path is the same text; a prefix has the first segments of the path. -/
lemma AllowedPath.matches_iff (allowed : AllowedPath) (path : OriginFormPath) :
    allowed.matches path = true ↔
      (allowed.kind = .exactPath ∧ path.value = allowed.value.value) ∨
        (allowed.kind = .prefixPath ∧ allowed.value.segments <+: path.segments) := by
  unfold AllowedPath.matches OriginFormPath.segments
  cases allowed.kind with
  | exactPath => simp
  | prefixPath =>
      rw [Bool.or_eq_true, decide_eq_true_eq, stripPrefix_any_slash,
        Segments.splitOn_prefix_iff]
      simp

/-- Decoding an accepted path once does not change its segment list, whichever separators are split
at; no decoded segment is a dot segment or has a separator in it; and a path that a configured
prefix accepts stays under the decoded prefix, before and after dot segments are resolved. -/
theorem segments_survive_decoding (path : OriginFormPath) :
    path.decoded.splitOn '/'.toUInt8 = path.segments.map decodeSegment ∧
    path.decoded.splitOnP isSeparatorByte = path.segments.map decodeSegment ∧
    (∀ segment ∈ path.segments, decodeSegment segment ∉ dotSegments ∧
      '/'.toUInt8 ∉ decodeSegment segment ∧ '\\'.toUInt8 ∉ decodeSegment segment) ∧
    ∀ allowed : AllowedPath, allowed.kind = .prefixPath → allowed.matches path = true →
      allowed.value.segments.map decodeSegment <+: path.decoded.splitOn '/'.toUInt8 ∧
      allowed.value.segments.map decodeSegment <+:
        normaliseSegments (path.decoded.splitOn '/'.toUInt8) := by
  obtain ⟨hslash, hboth⟩ := path.splitOn_decoded
  refine ⟨hslash, hboth, ?_, ?_⟩
  · intro segment hsegment
    refine ⟨path.decodeSegment_notMem hsegment, ?_, ?_⟩
    · intro hmem
      exact absurd (path.separator_notMem hsegment _ hmem) (by decide)
    · intro hmem
      exact absurd (path.separator_notMem hsegment _ hmem) (by decide)
  · intro allowed hkind hmatch
    rw [allowed.matches_iff, hkind] at hmatch
    rcases hmatch with ⟨habsurd, -⟩ | ⟨-, hsegments⟩
    · cases habsurd
    · have hdecoded : allowed.value.segments.map decodeSegment <+:
          path.segments.map decodeSegment := hsegments.map decodeSegment
      rw [hslash, path.normaliseSegments_decoded]
      exact ⟨hdecoded, hdecoded⟩

/-! ## The decision as a relation -/

/-- The operation lets the method and the path through. -/
def AllowedOperation.Permits (operation : AllowedOperation) (method : Method)
    (path : OriginFormPath) : Prop :=
  operation.method.method = method ∧
    ((operation.path.kind = .exactPath ∧ path.value = operation.path.value.value) ∨
      (operation.path.kind = .prefixPath ∧ operation.path.value.segments <+: path.segments))

/-- The code's match is the permission it stands for. -/
lemma AllowedOperation.matches_iff (operation : AllowedOperation) (method : Method)
    (path : OriginFormPath) :
    operation.matches method path = true ↔ operation.Permits method path := by
  rw [AllowedOperation.matches, Bool.and_eq_true, AllowedMethod.matches, decide_eq_true_eq,
    AllowedPath.matches_iff]
  rfl

/-- A configured method is its text: the checks it passed are not data. -/
lemma AllowedMethod.eq_of_method_eq {a b : AllowedMethod} (h : a.method = b.method) : a = b := by
  cases a
  cases b
  cases h
  rfl

/-- The witness, when there is one, is the method of the request. -/
lemma allowedMethod_eq_some_iff {config : GatewayConfig} {method : Method} {target : AcceptedTarget}
    {allowed : AllowedMethod} :
    allowedMethod config method target = some allowed ↔
      allowed.method = method ∧
        ∃ operation ∈ config.allowedOperations, operation.Permits method target.path := by
  unfold allowedMethod
  rw [Option.map_eq_some_iff]
  constructor
  · rintro ⟨operation, hfind, rfl⟩
    have hmatch := List.find?_some hfind
    have hpermits := (operation.matches_iff method target.path).mp hmatch
    exact ⟨hpermits.1, operation, List.mem_of_find?_eq_some hfind, hpermits⟩
  · rintro ⟨hmethod, operation, hmem, hpermits⟩
    have hsome : (config.allowedOperations.find? fun operation =>
        operation.matches method target.path).isSome := by
      rw [List.find?_isSome]
      exact ⟨operation, hmem, (operation.matches_iff method target.path).mpr hpermits⟩
    obtain ⟨found, hfound⟩ := Option.isSome_iff_exists.mp hsome
    have hmatch := List.find?_some hfound
    have hfoundMethod := ((found.matches_iff method target.path).mp hmatch).1
    exact ⟨found, hfound, AllowedMethod.eq_of_method_eq (hfoundMethod.trans hmethod.symm)⟩

/-- The rejection is of the path when the method is allowed on some other one. -/
lemma rejectionFor_eq_pathDenied_iff {config : GatewayConfig} {method : Method} :
    rejectionFor config method = .pathDenied ↔
      ∃ operation ∈ config.allowedOperations, operation.method.method = method := by
  have hany : config.allowedOperations.any (fun operation => operation.hasMethod method) = true ↔
      ∃ operation ∈ config.allowedOperations, operation.method.method = method := by
    simp [AllowedOperation.hasMethod, AllowedMethod.matches]
  unfold rejectionFor
  rw [← hany]
  split
  · rename_i h
    exact iff_of_true rfl h
  · rename_i h
    refine iff_of_false ?_ h
    rintro ⟨⟩

/-- The decision depends on the set of configured operations, not on their order. -/
lemma allowTarget_congr {config config' : GatewayConfig} {method : Method} {target : AcceptedTarget}
    (horigin : config'.upstreamOrigin = config.upstreamOrigin)
    (hops : ∀ operation,
      operation ∈ config'.allowedOperations ↔ operation ∈ config.allowedOperations) :
    allowTarget config' method target = allowTarget config method target := by
  have hallowed : allowedMethod config' method target = allowedMethod config method target := by
    apply Option.ext
    intro allowed
    rw [allowedMethod_eq_some_iff, allowedMethod_eq_some_iff]
    simp only [hops]
  have hreason : rejectionFor config' method = rejectionFor config method := by
    have hiff : rejectionFor config' method = .pathDenied ↔
        rejectionFor config method = .pathDenied := by
      rw [rejectionFor_eq_pathDenied_iff, rejectionFor_eq_pathDenied_iff]
      simp only [hops]
    rcases h : rejectionFor config method with _ | _
    · rcases h' : rejectionFor config' method with _ | _
      · rfl
      · exact absurd (hiff.mp h') (by rw [h]; decide)
    · exact hiff.mpr h
  rw [allowTarget, allowTarget, hallowed, hreason, horigin]

/-- The allowlist decision. A request is let through exactly when some configured operation permits
it, and never as `CONNECT`; the witness carries the request's method, target and configured origin;
the order of the operations does not matter; and a rejection tells whether the method was
configured. -/
theorem allowlist_decision (config : GatewayConfig) (method : Method) (target : AcceptedTarget) :
    ((∃ allowed, allowTarget config method target = .ok allowed) ↔
      ∃ operation ∈ config.allowedOperations, operation.Permits method target.path) ∧
    (∀ allowed, allowTarget config Method.connect target ≠ .ok allowed) ∧
    (∀ allowed, allowTarget config method target = .ok allowed →
      allowed.method.method = method ∧ allowed.target = target ∧
        allowed.upstreamOrigin = config.upstreamOrigin) ∧
    (∀ config' : GatewayConfig, config'.upstreamOrigin = config.upstreamOrigin →
      config'.allowedOperations.Perm config.allowedOperations →
        allowTarget config' method target = allowTarget config method target) ∧
    ∀ rejected, allowTarget config method target = .error rejected →
      rejected.method = method ∧ rejected.target = target ∧
      (rejected.reason = .pathDenied ↔
        ∃ operation ∈ config.allowedOperations, operation.method.method = method) ∧
      (rejected.reason = .methodDenied ↔
        ¬ ∃ operation ∈ config.allowedOperations, operation.method.method = method) := by
  refine ⟨?_, ?_, fun allowed => allowTarget_eq_ok, ?_, ?_⟩
  · constructor
    · rintro ⟨allowed, h⟩
      rcases hallowed : allowedMethod config method target with _ | witness
      · rw [allowTarget, hallowed] at h
        cases h
      · exact (allowedMethod_eq_some_iff.mp hallowed).2
    · rintro ⟨operation, hmem, hpermits⟩
      have hallowed : allowedMethod config method target = some operation.method :=
        allowedMethod_eq_some_iff.mpr ⟨hpermits.1, operation, hmem, hpermits⟩
      rw [allowTarget, hallowed]
      exact ⟨_, rfl⟩
  · intro allowed h
    exact allowed.method.supported (allowTarget_eq_ok h).1
  · intro config' horigin hperm
    exact allowTarget_congr horigin fun operation => hperm.mem_iff
  · intro rejected h
    obtain ⟨hmethod, htarget⟩ := allowTarget_eq_error h
    have hreason : rejected.reason = rejectionFor config method := by
      unfold allowTarget at h
      split at h
      · cases h
      · cases h
        rfl
    rw [← rejectionFor_eq_pathDenied_iff, hreason]
    refine ⟨hmethod, htarget, Iff.rfl, ?_⟩
    rcases rejectionFor config method with _ | _ <;> simp

end Custode
