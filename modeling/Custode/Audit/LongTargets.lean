import Custode.Audit.Denials
import Custode.Reference

/-!
# Over-long targets

A path of more than 4096 bytes and a query of more than 8192 bytes are recorded cut, with a marker.
The startup reader demands that such a text fills its bound exactly, which the writer achieves only
when the cut falls on a character boundary: `tooLong_denial_accepted_iff`. A path of two-byte
characters is a request whose own event the gateway refuses at its next start,
`tooLong_denial_rejected`.
-/

namespace Custode

open Found Found.Text

/-- A text of the URI exceeds its audit bound, and is denied for this reason. -/
inductive OverLong (uri : Uri) : Text → Nat → AuditDenialReason → Prop
  | path (long : maxAuditTargetPathBytes < byteLen uri.path) :
      OverLong uri uri.path maxAuditTargetPathBytes .pathTooLong
  | query {text : Text} (accepted : pathError uri.path = none) (has : uri.query = some text)
      (long : maxAuditTargetQueryBytes < byteLen text) :
      OverLong uri text maxAuditTargetQueryBytes .queryTooLong

/-- What the truncation round trip promises of one text: the writer's text fits the bound, is a
prefix of the text followed by the marker, and is read back as that prefix. -/
def RoundTrips (text : Text) (maxBytes : Nat) : Prop :=
  ∃ bounded kept, boundedAuditText text maxBytes = some bounded ∧ byteLen bounded ≤ maxBytes ∧
    kept <+: text ∧ bounded = kept ++ truncationMarker (byteLen text) ∧
    truncatedAuditTextPrefix bounded maxBytes = some kept

/-- A cut text reads back when it is cut on a character boundary. -/
lemma roundTrips_iff {text : Text} {maxBytes : Nat} (hspace : ' ' ∉ text)
    (hlong : maxBytes < byteLen text) (hfits : byteLen text ≤ isizeMax) (hroom : 50 ≤ maxBytes) :
    RoundTrips text maxBytes ↔ IsBoundary text (cutOffset text maxBytes) := by
  have hwritten := boundedAuditText_of_lt hlong hfits hroom
  have hread := truncatedAuditTextPrefix_of_lt hspace hlong hfits hroom
  constructor
  · rintro ⟨bounded, kept, hbounded, -, -, -, hkept⟩
    rw [hwritten, Option.some.injEq] at hbounded
    subst hbounded
    by_contra hboundary
    rw [hread, if_neg hboundary] at hkept
    cases hkept
  · intro hboundary
    rw [if_pos hboundary] at hread
    exact ⟨_, _, hwritten, byteLen_cut_le hfits hroom, takeBytes_isPrefix _ _, rfl, hread⟩

/-- A cut text is recognised exactly when the cut falls on a boundary. -/
lemma isTruncatedAuditText_iff {text : Text} {maxBytes : Nat} (hspace : ' ' ∉ text)
    (hlong : maxBytes < byteLen text) (hfits : byteLen text ≤ isizeMax) (hroom : 50 ≤ maxBytes) :
    isTruncatedAuditText
        (takeBytes (cutOffset text maxBytes) text ++ truncationMarker (byteLen text)) maxBytes =
      true ↔ IsBoundary text (cutOffset text maxBytes) := by
  rw [isTruncatedAuditText, truncatedAuditTextPrefix_of_lt hspace hlong hfits hroom]
  split
  · simpa
  · simpa

section Recorded

variable {X : Crates} {uri : Uri} {target : AuditTarget} {method : Method} (requestId : RequestId)
  (origin readOrigin : UpstreamOrigin) (timestamp : AuditTimestamp)

/-- The event of an over-long path is accepted when the cut path is recognised. -/
lemma pathTooLong_accepted_iff (hauthority : uri.authority = none)
    (htarget : AuditTarget.fromRequestUri uri = some target)
    (hmethod : method ≠ Method.connect) (hslash : ['/'] <+: uri.path) (hspace : ' ' ∉ uri.path)
    (hlong : maxAuditTargetPathBytes < byteLen uri.path) :
    DenialAccepted X ⟨.pathTooLong, method, target⟩ requestId origin readOrigin timestamp ↔
      IsBoundary uri.path (cutOffset uri.path maxAuditTargetPathBytes) := by
  obtain ⟨hfits, hquery, -⟩ := uri.byteLen_parts
  have hne : uri.path ≠ [] := IsOriginPath.ne_nil (.inl hslash)
  have hpath : target.path = takeBytes (cutOffset uri.path maxAuditTargetPathBytes) uri.path ++
      truncationMarker (byteLen uri.path) := by
    rw [AuditTarget.fromRequestUri, hauthority] at htarget
    simp only [AuditTarget.fromUriParts, hne, if_false,
      boundedAuditText_of_lt hlong hfits (by decide), Option.bind_eq_bind, Option.bind_some,
      Option.bind_eq_some_iff, pure, Option.some.injEq] at htarget
    obtain ⟨query, -, rfl⟩ := htarget
    rfl
  -- the recorded path starts with `/`, so it is not taken for one with an authority
  have hrecorded : ['/'] <+: target.path := by
    have hmarker := byteLen_truncationMarker_bounds (hfits.trans isizeMax_le_usizeMax)
    have hkept : ['/'] <+: takeBytes (cutOffset uri.path maxAuditTargetPathBytes) uri.path := by
      apply isPrefix_takeBytes hslash
      have hroom : maxAuditTargetPathBytes = 4096 := rfl
      have hone : byteLen ['/'] = 1 := by decide
      unfold cutOffset
      omega
    rw [hpath]
    exact hkept.trans (List.prefix_append _ _)
  have hnoAuthority : (deniedFields ⟨.pathTooLong, method, target⟩ [] requestId timestamp
      readOrigin).targetHasAuthority X = false :=
    targetHasAuthority_of_originPath (.inl hrecorded)
  rw [denialAccepted_iff (AuditTarget.bounded_of_uri htarget) ⟨by simp, fun _ _ => hmethod⟩,
    ← isTruncatedAuditText_iff hspace hlong hfits (by decide), ← hpath]
  simp only [ExistingAuditEventFields.validateDeniedTarget, AuditDenialReason.existing,
    hnoAuthority]
  simp [deniedFields]

/-- The event of an over-long query is accepted when the cut query is recognised. -/
lemma queryTooLong_accepted_iff (hauthority : uri.authority = none)
    (htarget : AuditTarget.fromRequestUri uri = some target)
    (hmethod : method ≠ Method.connect) {query : Text} (haccepted : pathError uri.path = none)
    (hquery : uri.query = some query) (hspace : ' ' ∉ query)
    (hlong : maxAuditTargetQueryBytes < byteLen query) :
    DenialAccepted X ⟨.queryTooLong, method, target⟩ requestId origin readOrigin timestamp ↔
      IsBoundary query (cutOffset query maxAuditTargetQueryBytes) := by
  have hfits := uri.byteLen_parts.2.1 query hquery
  have hslash := OriginFormPath.slash_prefix ⟨uri.path, haccepted⟩
  have hne : uri.path ≠ [] := IsOriginPath.ne_nil (.inl hslash)
  have hrecorded : target = ⟨uri.path,
      some (takeBytes (cutOffset query maxAuditTargetQueryBytes) query ++
        truncationMarker (byteLen query))⟩ := by
    rw [AuditTarget.fromRequestUri, hauthority] at htarget
    have hbounded : AuditTarget.boundedQuery uri.query = some (some
        (takeBytes (cutOffset query maxAuditTargetQueryBytes) query ++
          truncationMarker (byteLen query))) := by
      rw [hquery, AuditTarget.boundedQuery, boundedAuditText_of_lt hlong hfits (by decide),
        Option.map_some]
    have hparts := fromUriParts_eq hne
      (boundedAuditText_of_le (OriginFormPath.byteLen_le ⟨uri.path, haccepted⟩)) hbounded
    exact Option.some.inj (htarget.symm.trans hparts)
  rw [denialAccepted_iff (AuditTarget.bounded_of_uri htarget) ⟨by simp, fun _ _ => hmethod⟩,
    ← isTruncatedAuditText_iff hspace hlong hfits (by decide), hrecorded]
  simp [ExistingAuditEventFields.validateDeniedTarget, AuditDenialReason.existing, deniedFields,
    haccepted]

end Recorded

/-- **Over-long targets.** The denial written for an over-long target is accepted at startup, and
its cut text makes the round trip, exactly when the cut falls on a character boundary. -/
theorem tooLong_denial_accepted_iff (X : Crates) (config : GatewayConfig) (method : Method)
    (hmethod : method ≠ Method.connect) (uri : Uri) (hauthority : uri.authority = none)
    (hslash : ['/'] <+: uri.path) (hspace : ' ' ∉ uri.path) (hquerySpace : ∀ q ∈ uri.query, ' ' ∉ q)
    (text : Text) (maxBytes : Nat) (reason : AuditDenialReason)
    (hlong : OverLong uri text maxBytes reason) (requestId : RequestId)
    (origin readOrigin : UpstreamOrigin) (timestamp : AuditTimestamp) :
    ∃ denial, targetDecision config method uri = some (.error denial) ∧ denial.reason = reason ∧
      ((DenialAccepted X denial requestId origin readOrigin timestamp ∧ RoundTrips text maxBytes) ↔
        IsBoundary text (cutOffset text maxBytes)) := by
  cases hlong with
  | path long =>
      obtain ⟨target, htarget, hdecision⟩ := targetDecision_of_rejected config hmethod hauthority
        (AcceptedTarget.new_of_pathError (pathError_eq_tooLong_iff.mpr long) uri.query)
      refine ⟨_, hdecision, rfl, ?_⟩
      have haccepted := pathTooLong_accepted_iff (X := X) requestId origin readOrigin timestamp
        hauthority htarget hmethod hslash hspace long
      rw [roundTrips_iff hspace long uri.byteLen_parts.1 (by decide)]
      exact ⟨fun h => h.2, fun h => ⟨haccepted.mpr h, h⟩⟩
  | query accepted has long =>
      obtain ⟨target, htarget, hdecision⟩ := targetDecision_of_rejected config hmethod hauthority
        (has ▸ AcceptedTarget.new_of_queryError accepted (queryError_eq_tooLong_iff.mpr long))
      refine ⟨_, hdecision, rfl, ?_⟩
      have hqueryFits := uri.byteLen_parts.2.1 text has
      have haccepted := queryTooLong_accepted_iff (X := X) requestId origin readOrigin timestamp
        hauthority htarget hmethod accepted has (hquerySpace text has) long
      rw [roundTrips_iff (hquerySpace text has) long hqueryFits (by decide)]
      exact ⟨fun h => h.2, fun h => ⟨haccepted.mpr h, h⟩⟩

/-! ## Two paths of repeated characters -/

/-- A request for `/` and then `n` times `c`. -/
def repeatedPath (c : Char) (n : Nat) (fits : 1 + n * c.utf8Size ≤ isizeMax) : Uri where
  scheme := none
  authority := none
  path := '/' :: List.replicate n c
  query := none
  fits := by
    have hslash : ('/' : Char).utf8Size = 1 := by decide
    simpa [UriParts.text, UriParts.beforeQuery, byteLen_replicate, hslash] using fits

section Repeated

variable {c : Char} {n : Nat} {fits : 1 + n * c.utf8Size ≤ isizeMax}

/-- The length of the path with the repeated character. -/
lemma repeatedPath_byteLen : byteLen (repeatedPath c n fits).path = 1 + n * c.utf8Size := by
  have hslash : ('/' : Char).utf8Size = 1 := by decide
  simp [repeatedPath, byteLen_replicate, hslash]

/-- It has no space when the character is none. -/
lemma repeatedPath_noSpace (hc : c ≠ ' ') : ' ' ∉ (repeatedPath c n fits).path := by
  simp only [repeatedPath, List.mem_cons, List.mem_replicate, not_or, not_and]
  exact ⟨by decide, fun _ h => hc h.symm⟩

/-- The boundaries of such a path. -/
lemma repeatedPath_boundary {offset : Nat} (h : IsBoundary (repeatedPath c n fits).path offset) :
    offset = 0 ∨ ∃ k, offset = 1 + k * c.utf8Size := by
  obtain ⟨kept, hkept, rfl⟩ := h
  rcases kept with _ | ⟨d, kept⟩
  · exact .inl rfl
  · obtain ⟨rfl, htail⟩ := List.cons_prefix_cons.mp hkept
    have hslash : ('/' : Char).utf8Size = 1 := by decide
    obtain ⟨-, hreplicate⟩ := List.prefix_replicate_iff.mp htail
    refine .inr ⟨kept.length, ?_⟩
    rw [byteLen_cons, hslash, hreplicate, byteLen_replicate, List.length_replicate]

end Repeated

/-- A path of one-byte characters makes the round trip. -/
theorem tooLong_denial_accepted_oneByte : ∃ denial,
    targetDecision Reference.config Method.get (repeatedPath 'a' 5000 (by decide)) =
      some (.error denial) ∧ denial.reason = .pathTooLong ∧
    DenialAccepted Reference.crates denial Reference.requestId Reference.origin Reference.origin
      Reference.timestamp ∧
    RoundTrips (repeatedPath 'a' 5000 (by decide)).path maxAuditTargetPathBytes := by
  have hlen : byteLen (repeatedPath 'a' 5000 (by decide)).path = 5001 := repeatedPath_byteLen
  have hlong : maxAuditTargetPathBytes < byteLen (repeatedPath 'a' 5000 (by decide)).path := by
    rw [hlen]
    decide
  obtain ⟨denial, hdecision, hreason, hiff⟩ := tooLong_denial_accepted_iff Reference.crates
    Reference.config Method.get (by decide) (repeatedPath 'a' 5000 (by decide)) rfl
    (List.prefix_append ['/'] _) (repeatedPath_noSpace (by decide)) (by rintro q ⟨⟩)
    _ _ _ (.path hlong) Reference.requestId Reference.origin Reference.origin Reference.timestamp
  refine ⟨denial, hdecision, hreason, hiff.mpr (isBoundary_of_oneByte ?_ ?_)⟩
  · intro c hc
    simp only [repeatedPath, List.mem_cons, List.mem_replicate] at hc
    rcases hc with rfl | ⟨-, rfl⟩
    · decide
    · decide
  · rw [hlen, cutOffset]
    exact (Nat.sub_le _ _).trans (by decide)

/-- A path of two-byte characters is recorded one byte short of its bound, and the gateway refuses
the event at its next start. -/
theorem tooLong_denial_rejected :
    (repeatedPath 'é' 2500 (by decide)).authority = none ∧
    maxAuditTargetPathBytes < byteLen (repeatedPath 'é' 2500 (by decide)).path ∧
    ' ' ∉ (repeatedPath 'é' 2500 (by decide)).path ∧
    ∃ denial, targetDecision Reference.config Method.get (repeatedPath 'é' 2500 (by decide)) =
        some (.error denial) ∧ denial.reason = .pathTooLong ∧
      ¬ DenialAccepted Reference.crates denial Reference.requestId Reference.origin
        Reference.origin Reference.timestamp ∧
      ¬ RoundTrips (repeatedPath 'é' 2500 (by decide)).path maxAuditTargetPathBytes := by
  have hlen : byteLen (repeatedPath 'é' 2500 (by decide)).path = 5001 := repeatedPath_byteLen
  have hlong : maxAuditTargetPathBytes < byteLen (repeatedPath 'é' 2500 (by decide)).path := by
    rw [hlen]
    decide
  have hspace : ' ' ∉ (repeatedPath 'é' 2500 (by decide)).path := repeatedPath_noSpace (by decide)
  have hslash : ['/'] <+: (repeatedPath 'é' 2500 (by decide)).path := List.prefix_append ['/'] _
  have hmethod : Method.get ≠ Method.connect := by decide
  obtain ⟨target, htarget, hdecision⟩ := targetDecision_of_rejected Reference.config hmethod
    (rfl : (repeatedPath 'é' 2500 (by decide)).authority = none)
    (AcceptedTarget.new_of_pathError (pathError_eq_tooLong_iff.mpr hlong) none)
  -- the marker takes 34 bytes, which leaves an even offset; the boundaries are odd
  have hcut :
      cutOffset (repeatedPath 'é' 2500 (by decide)).path maxAuditTargetPathBytes = 4062 := by
    rw [cutOffset, hlen, byteLen_truncationMarker]
    decide
  have hboundary : ¬ IsBoundary (repeatedPath 'é' 2500 (by decide)).path
      (cutOffset (repeatedPath 'é' 2500 (by decide)).path maxAuditTargetPathBytes) := by
    rw [hcut]
    intro h
    have htwo : ('é' : Char).utf8Size = 2 := by decide
    rcases repeatedPath_boundary h with h | ⟨k, h⟩
    · cases h
    · rw [htwo] at h
      omega
  refine ⟨rfl, hlong, hspace, _, hdecision, rfl, ?_, ?_⟩
  · intro haccepted
    exact hboundary ((pathTooLong_accepted_iff Reference.requestId Reference.origin
      Reference.origin Reference.timestamp rfl htarget hmethod hslash hspace hlong).mp haccepted)
  · rw [roundTrips_iff hspace hlong (Uri.byteLen_parts _).1 (by decide)]
    exact hboundary

end Custode
