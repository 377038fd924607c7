import Custode.Audit.Written
import Custode.Reference
import Custode.Target.Segments

/-!
# Upstream targets in the audit log

After upstream I/O the gateway records the target that it forwarded, read back from the joined URL.
Serialising the URL turns each apostrophe of the query into `%27`, and the longer query has to pass
the same 8192-byte limit as the incoming one.

* `fromUrl_joinPathQuery` — the recorded upstream target, for every origin.
* `queryError_forwarded_iff` — the forwarded query is accepted exactly when it has room for its
  apostrophes (`HasRoom`).
* `upstream_audit_accepted_iff` — exactly then the observed request is built and each of its events
  passes the startup check of the upstream target.
* `upstream_audit_rejected` — an allowed request whose audit record the gateway cannot build.
-/

namespace Custode

open Found Found.Text

/-! ## The accepted query alphabet -/

/-- A query byte is ASCII. -/
lemma toNat_of_isOriginFormQueryByte {byte : UInt8} (h : isOriginFormQueryByte byte = true) :
    byte.toNat < 128 := by
  have hall : ∀ n < 256, isOriginFormQueryByte (UInt8.ofNat n) = true → n < 128 := by
    decide +kernel
  apply hall byte.toNat byte.toNat_lt
  rwa [UInt8.ofNat_toNat]

/-- Of the accepted query bytes, only the apostrophe is percent-encoded in a query. -/
lemma specialQuerySet_of_accepted {c : Char} (hsize : c.utf8Size = 1)
    (hbyte : isOriginFormQueryByte c.val.toUInt8 = true) :
    Percent.specialQuerySet c = (c == '\'') := by
  have hsmall : c.toNat < 128 := by
    have h := hsize
    rw [Char.utf8Size_eq_one_iff, UInt32.le_iff_toNat_le] at h
    exact Nat.lt_succ_of_le h
  have hall : ∀ n < 128, isOriginFormQueryByte (Char.ofNat n).val.toUInt8 = true →
      Percent.specialQuerySet (Char.ofNat n) = (Char.ofNat n == '\'') := by
    decide +kernel
  have hc := hall c.toNat hsmall
  rw [Char.ofNat_toNat] at hc
  exact hc hbyte

/-- The bytes that a query byte becomes in a joined URL. -/
def forwardedQueryByte (byte : UInt8) : List UInt8 :=
  if byte = '\''.toUInt8 then bytes "%27".toList else [byte]

/-- What a query byte is forwarded as is made of query bytes. -/
lemma isOriginFormQueryByte_forwarded {byte : UInt8} (h : isOriginFormQueryByte byte = true) :
    ∀ b ∈ forwardedQueryByte byte, isOriginFormQueryByte b = true ∧ b ≠ '#'.toUInt8 := by
  have hhash : ∀ b, isOriginFormQueryByte b = true → b ≠ '#'.toUInt8 := by
    rintro b hb rfl
    exact absurd hb (by decide)
  intro b hb
  rw [forwardedQueryByte] at hb
  split at hb
  · have hall : ∀ b ∈ bytes "%27".toList, isOriginFormQueryByte b = true :=
      forall_mem_of_all (by decide)
    exact ⟨hall b hb, hhash b (hall b hb)⟩
  · rw [List.mem_singleton] at hb
    subst hb
    exact ⟨h, hhash _ h⟩

/-- Quoting apostrophes keeps percent escapes valid: an escape has no apostrophe. -/
lemma scanPercentEncoding_forwarded {data : List UInt8} (h : scanPercentEncoding data = true) :
    scanPercentEncoding (data.flatMap forwardedQueryByte) = true := by
  have hhex : ∀ byte, isAsciiHexdigit byte = true → forwardedQueryByte byte = [byte] := by
    intro byte hbyte
    apply if_neg
    rintro rfl
    exact absurd hbyte (by decide)
  have hpercent : forwardedQueryByte '%'.toUInt8 = ['%'.toUInt8] := by decide
  rw [scanPercentEncoding_eq_true_iff] at h ⊢
  induction h with
  | nil => exact .nil
  | byte plain _ ih =>
      rw [List.flatMap_cons, forwardedQueryByte]
      split
      · exact .escape rfl trivial ih
      · exact .byte plain ih
  | escape pair _ _ ih =>
      obtain ⟨hfirst, hsecond⟩ := Percent.hexDigit_of_hexPair pair
      rw [List.flatMap_cons, List.flatMap_cons, List.flatMap_cons, hpercent, hhex _ hfirst,
        hhex _ hsecond]
      exact .escape pair trivial ih

section Query

variable {query : Text}

/-- An accepted query is made of one-byte characters of the accepted alphabet. -/
lemma accepted_chars (h : hasInvalidQueryCharacter query = false) :
    ∀ c ∈ query, c.utf8Size = 1 ∧ isOriginFormQueryByte c.val.toUInt8 = true := by
  apply chars_of_bytes fun b => toNat_of_isOriginFormQueryByte
  intro b hb
  unfold hasInvalidQueryCharacter at h
  rw [List.any_eq_false] at h
  simpa using h b hb

/-- The query of a joined URL. -/
def forwardedQuery (query : Text) : Text := Percent.encode Percent.specialQuerySet query

/-- A query is forwarded byte by byte. -/
lemma bytes_forwardedQuery (h : hasInvalidQueryCharacter query = false) :
    bytes (forwardedQuery query) = (bytes query).flatMap forwardedQueryByte := by
  have hsize : ∀ c ∈ query, c.utf8Size = 1 := fun c hc => (accepted_chars h c hc).1
  rw [forwardedQuery, Percent.bytes_encode hsize, bytes_eq_map hsize, List.flatMap_map]
  apply List.flatMap_congr
  intro c hc
  obtain ⟨hone, hbyte⟩ := accepted_chars h c hc
  rw [specialQuerySet_of_accepted hone hbyte, forwardedQueryByte]
  by_cases hquote : c = '\''
  · subst hquote
    decide
  · have hne : c.val.toUInt8 ≠ '\''.toUInt8 :=
      fun heq => hquote (eq_of_byte_eq hone (by decide) heq)
    rw [if_neg hne, if_neg (by simpa using hquote)]

/-- Each apostrophe costs two more bytes. -/
lemma byteLen_forwardedQuery (h : hasInvalidQueryCharacter query = false) :
    byteLen (forwardedQuery query) = byteLen query + 2 * query.count '\'' := by
  rw [forwardedQuery, Percent.byteLen_encode fun c hc => (accepted_chars h c hc).1]
  refine congrArg (fun n => byteLen query + 2 * n) (List.countP_congr fun c hc => ?_)
  obtain ⟨hone, hbyte⟩ := accepted_chars h c hc
  rw [specialQuerySet_of_accepted hone hbyte]

/-- The query has room for its apostrophes. -/
def HasRoom (query : Text) : Prop :=
  byteLen query + 2 * query.count '\'' ≤ maxOriginFormQueryBytes

/-- A forwarded query can only be too long. -/
lemma queryError_forwarded_iff (h : queryError query = none) :
    queryError (forwardedQuery query) = none ↔ HasRoom query := by
  obtain ⟨-, -, hchars, hpercent⟩ := queryError_eq_none_iff.mp h
  have hbytes := bytes_forwardedQuery hchars
  have hall : ∀ b ∈ bytes (forwardedQuery query),
      isOriginFormQueryByte b = true ∧ b ≠ '#'.toUInt8 := by
    intro b hb
    rw [hbytes, List.mem_flatMap] at hb
    obtain ⟨a, ha, hb⟩ := hb
    have haccepted : isOriginFormQueryByte a = true := by
      simp only [hasInvalidQueryCharacter, List.any_eq_false, Bool.not_eq_true',
        Bool.not_eq_false] at hchars
      exact hchars a ha
    exact isOriginFormQueryByte_forwarded haccepted b hb
  have hdelimiter : hasQueryComponentDelimiter (forwardedQuery query) = false := by
    rw [hasQueryComponentDelimiter, ← Bool.not_eq_true, List.contains_iff_mem]
    exact fun hmem => (hall _ hmem).2 rfl
  have hvalid : hasInvalidQueryCharacter (forwardedQuery query) = false := by
    simp only [hasInvalidQueryCharacter, List.any_eq_false, Bool.not_eq_true', Bool.not_eq_false]
    exact fun b hb => (hall b hb).1
  have hescapes : hasValidPercentEncoding (forwardedQuery query) = true := by
    rw [hasValidPercentEncoding, hbytes]
    exact scanPercentEncoding_forwarded hpercent
  rw [queryError_eq_none_iff, byteLen_forwardedQuery hchars]
  simp [hdelimiter, hvalid, hescapes, HasRoom]

end Query

/-! ## Joined targets -/

variable {X : Crates}

/-- The joined URL has the accepted path and the forwarded query, whatever the origin is. -/
lemma joinPathQuery_parts (origin : UpstreamOrigin) (path : OriginFormPath)
    (query : Option OriginFormQuery) :
    (origin.joinPathQuery X path query).path = path.value ∧
      (origin.joinPathQuery X path query).query = query.map fun q => forwardedQuery q.value := by
  have hpath := X.url.setPath_accepted origin.isHttp path
  have hhttp : ({ origin.url with path := path.value } : Url).isHttp = true := origin.isHttp
  rw [UpstreamOrigin.joinPathQuery, hpath]
  cases query with
  | none =>
      rw [Option.map_none, X.url.set_no_query]
      exact ⟨rfl, rfl⟩
  | some q =>
      rw [Option.map_some, X.url.set_query _ q.value hhttp q.accepted]
      exact ⟨rfl, rfl⟩

/-- The upstream target of a joined URL. -/
def forwardedTarget (path : OriginFormPath) (query : Option OriginFormQuery) :
    Option AuditUpstreamTarget :=
  (parseOptionalQuery (query.map fun q => forwardedQuery q.value)).toOption.map fun forwarded =>
    ⟨path, forwarded⟩

/-- The target recorded of a joined URL is the forwarded target. -/
lemma fromUrl_joinPathQuery (origin : UpstreamOrigin) (path : OriginFormPath)
    (query : Option OriginFormQuery) :
    AuditUpstreamTarget.fromUrl (origin.joinPathQuery X path query) =
      forwardedTarget path query := by
  obtain ⟨hpath, hquery⟩ := joinPathQuery_parts (X := X) origin path query
  rw [AuditUpstreamTarget.fromUrl, hpath, hquery, OriginFormPath.parse_eq_ok path.accepted,
    forwardedTarget]
  cases parseOptionalQuery (query.map fun q => forwardedQuery q.value) with
  | error error => rfl
  | ok forwarded => rfl

/-- The upstream target is read back exactly when the query has room. -/
lemma forwardedTarget_eq_some_iff (path : OriginFormPath) (query : Option OriginFormQuery) :
    (∃ target, forwardedTarget path query = some target) ↔ ∀ q ∈ query, HasRoom q.value := by
  rcases query with _ | q
  · simp [forwardedTarget, parseOptionalQuery, Except.toOption]
  · have hiff := queryError_forwarded_iff q.accepted
    rcases herror : queryError (forwardedQuery q.value) with _ | error
    · have hroom : HasRoom q.value := hiff.mp herror
      simp [forwardedTarget, parseOptionalQuery, OriginFormQuery.parse_eq_ok herror,
        Except.toOption, Except.map, hroom]
    · have hfull : ¬ HasRoom q.value := fun hroom => by
        rw [hiff.mpr hroom] at herror
        cases herror
      simp [forwardedTarget, parseOptionalQuery, OriginFormQuery.parse_eq_error_iff.mpr herror,
        Except.toOption, Except.map, hfull]

/-! ## Events after upstream I/O -/

/-- The events that conclude a request after upstream I/O. -/
inductive ObservedAuditRequestInput.Concludes (observed : ObservedAuditRequestInput) :
    AuditEventInput → Prop
  | allowed (responseBody : ObservedBodySummary) (status : StatusCode) :
      Concludes observed (.allowed observed responseBody status)
  | responseError (error : AuditResponseError) : Concludes observed (.responseError observed error)
  | upstreamError (error : AuditUpstreamError) : Concludes observed (.upstreamError observed error)

/-- Every class of an event after upstream I/O is read back. -/
lemma errorClass_readBack {observed : ObservedAuditRequestInput} {input : AuditEventInput}
    (h : observed.Concludes input) :
    ∃ errorClass, readOptional ExistingAuditErrorClass.ofName input.outcome.eventParts.2.1 =
      .ok errorClass := by
  cases h with
  | allowed responseBody status => exact ⟨none, rfl⟩
  | responseError error =>
      cases error with
      | responseHeader error => cases error <;> exact ⟨_, rfl⟩
      | _ => exact ⟨_, rfl⟩
  | upstreamError error => cases error <;> exact ⟨_, rfl⟩

/-- Such an event is not a denial, and carries the observed request and its upstream target. -/
lemma eventParts_of_concludes {observed : ObservedAuditRequestInput} {input : AuditEventInput}
    (h : observed.Concludes input) :
    input.request = observed.request ∧ input.outcome.eventParts.1 ≠ .denied ∧
      input.outcome.eventParts.2.2.2.2 = some observed.upstream := by
  cases h with
  | allowed responseBody status => exact ⟨rfl, by simp [AuditEventInput.allowed,
      AuditOutcome.eventParts], rfl⟩
  | responseError error => exact ⟨rfl, by simp [AuditEventInput.responseError,
      AuditOutcome.eventParts], rfl⟩
  | upstreamError error => exact ⟨rfl, by simp [AuditEventInput.upstreamError,
      AuditOutcome.eventParts], rfl⟩


/-- The event of an observed request is read back with the request's target and its upstream
target. -/
lemma read_concludes {observed : ObservedAuditRequestInput}
    (hbounded : observed.request.target.Bounded) {input : AuditEventInput}
    (hinput : observed.Concludes input) (timestamp : AuditTimestamp) (readOrigin : UpstreamOrigin) :
    ∃ event fields, AuditEvent.newAt X input timestamp = some event ∧
      ExistingAuditEventFields.read event readOrigin = .ok fields ∧ fields.decision ≠ .denied ∧
      fields.path = observed.request.target.path ∧ fields.query = observed.request.target.query ∧
      fields.upstreamPath = some observed.upstream.path.value ∧
      fields.upstreamQuery = observed.upstream.query.map fun query => query.value := by
  obtain ⟨hrequest, hdecision, hupstream⟩ := eventParts_of_concludes hinput
  obtain ⟨errorClass, hclass⟩ := errorClass_readBack hinput
  rw [← hrequest] at hbounded
  obtain ⟨event, method, requestBody, responseBody, hevent, hfields, -⟩ :=
    read_newAt (X := X) input hbounded hclass timestamp readOrigin
  refine ⟨event, _, hevent, hfields, ?_, ?_, ?_, ?_, ?_⟩
  · simp only [AuditEventInput.readFields]
    cases hparts : input.outcome.eventParts.1 with
    | denied => exact absurd hparts hdecision
    | allowed => simp [ExistingAuditDecision.ofDecision]
    | responseError => simp [ExistingAuditDecision.ofDecision]
    | upstreamError => simp [ExistingAuditDecision.ofDecision]
  · simp only [AuditEventInput.readFields, hrequest]
  · simp only [AuditEventInput.readFields, hrequest]
  · simp only [AuditEventInput.readFields, hupstream, Option.map_some]
  · simp only [AuditEventInput.readFields, hupstream, Option.bind_some]

/-- The audit record of an allowed request after upstream I/O is built, and each of its events
passes the startup check of the upstream target. -/
def UpstreamAuditAccepted (X : Crates) (allowed : AllowedTarget) (requestId : RequestId)
    (body : AccountedBody) : Prop :=
  ∃ observed, ObservedAuditRequestInput.new X allowed requestId body = some observed ∧
    ∀ input, observed.Concludes input → ∀ timestamp readOrigin, ∃ event fields,
      AuditEvent.newAt X input timestamp = some event ∧
        ExistingAuditEventFields.read event readOrigin = .ok fields ∧
        fields.validateUpstreamTarget X = some (.ok ())

/-- What the constructor makes of an allowed request. -/
lemma observed_new (allowed : AllowedTarget) (requestId : RequestId) (body : AccountedBody) :
    ObservedAuditRequestInput.new X allowed requestId body =
      (forwardedTarget allowed.target.path allowed.target.query).map fun upstream =>
        ⟨⟨AuditBodySummary.fromRequestBody X body, allowed.method.method, requestId,
          AuditTarget.fromAccepted allowed.target, allowed.upstreamOrigin⟩, upstream⟩ := by
  rw [ObservedAuditRequestInput.new]
  simp only [fromUrl_joinPathQuery]
  cases forwardedTarget allowed.target.path allowed.target.query with
  | none => rfl
  | some upstream => rfl

/-- The audit record is built exactly when the query has room for its apostrophes, and then
everything else holds. -/
lemma upstreamAuditAccepted_iff_hasRoom (allowed : AllowedTarget) (requestId : RequestId)
    (body : AccountedBody) :
    UpstreamAuditAccepted X allowed requestId body ↔
      ∀ query ∈ allowed.target.query, HasRoom query.value := by
  rw [← forwardedTarget_eq_some_iff allowed.target.path]
  constructor
  · rintro ⟨observed, hnew, -⟩
    rw [observed_new, Option.map_eq_some_iff] at hnew
    obtain ⟨upstream, hupstream, -⟩ := hnew
    exact ⟨upstream, hupstream⟩
  · rintro ⟨upstream, hupstream⟩
    refine ⟨_, by rw [observed_new, hupstream, Option.map_some], ?_⟩
    intro input hinput timestamp readOrigin
    obtain ⟨event, fields, hevent, hread, hdecision, hpath, hquery, hupstreamPath,
      hupstreamQuery⟩ := read_concludes (X := X)
        (AuditTarget.bounded_fromAccepted allowed.target) hinput timestamp readOrigin
    refine ⟨event, fields, hevent, hread, ?_⟩
    -- the reader joins the same target, possibly onto another origin
    have hexpected : fields.expectedUpstreamTarget X = some (.ok upstream) := by
      rw [ExistingAuditEventFields.expectedUpstreamTarget, hpath, hquery]
      have hnew : AcceptedTarget.new (AuditTarget.fromAccepted allowed.target).path
          (AuditTarget.fromAccepted allowed.target).query = .ok allowed.target :=
        allowed.target.new_text
      simp only [hnew, fromUrl_joinPathQuery, hupstream, Option.map_some]
    rw [ExistingAuditEventFields.validateUpstreamTarget]
    cases hcase : fields.decision with
    | denied => exact absurd hcase hdecision
    | allowed => simp [hexpected, hupstreamPath, hupstreamQuery, pure, Except.pure, bind,
        Except.bind]
    | responseError => simp [hexpected, hupstreamPath, hupstreamQuery, pure, Except.pure, bind,
        Except.bind]
    | upstreamError => simp [hexpected, hupstreamPath, hupstreamQuery, pure, Except.pure, bind,
        Except.bind]

/-- **Auditing after upstream I/O.** The audit record of an allowed request is built, and its events
pass the startup check of the upstream target, exactly when the accepted query has room for its
apostrophes. -/
theorem upstream_audit_accepted_iff (X : Crates) (config : GatewayConfig) (method : Method)
    (target : AcceptedTarget) (allowed : AllowedTarget)
    (hallowed : allowTarget config method target = .ok allowed) (requestId : RequestId)
    (body : AccountedBody) :
    UpstreamAuditAccepted X allowed requestId body ↔
      ∀ query ∈ target.query,
        byteLen query.value + 2 * query.value.count '\'' ≤ maxOriginFormQueryBytes := by
  rw [upstreamAuditAccepted_iff_hasRoom, (allowTarget_eq_ok hallowed).2.1]
  exact Iff.rfl

/-! ## Queries of apostrophes -/

/-- A query of `n` apostrophes. -/
def apostrophes (n : Nat) (fits : n ≤ maxOriginFormQueryBytes) : OriginFormQuery where
  value := List.replicate n '\''
  accepted := by
    have hbytes : bytes (List.replicate n '\'') = List.replicate n '\''.toUInt8 := by
      rw [bytes_eq_map fun c hc => by rw [(List.mem_replicate.mp hc).2]; decide,
        List.map_replicate]
      rfl
    have hone : ('\'' : Char).utf8Size = 1 := by decide
    have hescapes : ∀ m, scanPercentEncoding (List.replicate m '\''.toUInt8) = true := by
      intro m
      induction m with
      | zero => rfl
      | succ m ih => rwa [List.replicate_succ, scanPercentEncoding_of_ne (by decide)]
    rw [queryError_eq_none_iff, byteLen_replicate, hone, hasQueryComponentDelimiter,
      hasInvalidQueryCharacter, hasValidPercentEncoding, hbytes, hescapes]
    refine ⟨by omega, ?_, ?_, rfl⟩
    · rw [← Bool.not_eq_true, List.contains_iff_mem, List.mem_replicate]
      exact fun h => absurd h.2 (by decide)
    · rw [List.any_eq_false]
      intro b hb
      rw [(List.mem_replicate.mp hb).2]
      decide

/-- `/v1/models` with a query of `n` apostrophes is allowed. -/
def apostropheTarget (n : Nat) (fits : n ≤ maxOriginFormQueryBytes) : AllowedTarget where
  method := Reference.getMethod
  target := ⟨Reference.modelsPath, some (apostrophes n fits)⟩
  upstreamOrigin := Reference.origin

/-- The query of apostrophes is allowed. -/
lemma apostropheTarget_allowed (n : Nat) (fits : n ≤ maxOriginFormQueryBytes) :
    allowTarget Reference.config Method.get ⟨Reference.modelsPath, some (apostrophes n fits)⟩ =
      .ok (apostropheTarget n fits) := by
  have hfind : allowedMethod Reference.config Method.get
      ⟨Reference.modelsPath, some (apostrophes n fits)⟩ = some Reference.getMethod :=
    (show allowedMethod Reference.config Method.get ⟨Reference.modelsPath, none⟩ =
      some Reference.getMethod by decide +kernel)
  rw [allowTarget, hfind]
  rfl

/-- It has room for itself when its apostrophes fit three times. -/
lemma apostropheTarget_hasRoom_iff (n : Nat) (fits : n ≤ maxOriginFormQueryBytes) :
    HasRoom (apostrophes n fits).value ↔ 3 * n ≤ 8192 := by
  have hone : ('\'' : Char).utf8Size = 1 := by decide
  have hbound : maxOriginFormQueryBytes = 8192 := rfl
  simp only [HasRoom, apostrophes, byteLen_replicate, hone, List.count_replicate_self, hbound]
  omega

/-- An empty body. -/
def emptyBody : AccountedBody := ⟨⟨[], by decide⟩⟩

/-- One apostrophe is audited. -/
theorem upstream_audit_accepted_one : UpstreamAuditAccepted Reference.crates
    (apostropheTarget 1 (by decide)) Reference.requestId emptyBody := by
  rw [upstream_audit_accepted_iff Reference.crates Reference.config Method.get _ _
    (apostropheTarget_allowed 1 (by decide)) Reference.requestId emptyBody]
  rintro query ⟨⟩
  exact (apostropheTarget_hasRoom_iff 1 (by decide)).mpr (by decide)

/-- A query of 2731 apostrophes is accepted and allowed, but the audit record of its request cannot
be built after upstream I/O: the joined query has 8193 bytes. -/
theorem upstream_audit_rejected :
    allowTarget Reference.config Method.get
        ⟨Reference.modelsPath, some (apostrophes 2731 (by decide))⟩ =
      .ok (apostropheTarget 2731 (by decide)) ∧
    ObservedAuditRequestInput.new Reference.crates (apostropheTarget 2731 (by decide))
        Reference.requestId emptyBody = none ∧
    ¬ UpstreamAuditAccepted Reference.crates (apostropheTarget 2731 (by decide))
        Reference.requestId emptyBody := by
  have hfull : ¬ ∃ upstream, forwardedTarget Reference.modelsPath
      (some (apostrophes 2731 (by decide))) = some upstream := by
    rw [forwardedTarget_eq_some_iff]
    intro hroom
    exact absurd ((apostropheTarget_hasRoom_iff 2731 (by decide)).mp (hroom _ rfl)) (by decide)
  have hnone : ObservedAuditRequestInput.new Reference.crates (apostropheTarget 2731 (by decide))
      Reference.requestId emptyBody = none := by
    rw [observed_new, Option.map_eq_none_iff, Option.eq_none_iff_forall_ne_some]
    exact fun upstream hupstream => hfull ⟨upstream, hupstream⟩
  refine ⟨apostropheTarget_allowed 2731 (by decide), hnone, ?_⟩
  rintro ⟨observed, hnew, -⟩
  rw [hnone] at hnew
  cases hnew

end Custode
