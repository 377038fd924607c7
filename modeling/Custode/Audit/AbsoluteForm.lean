import Custode.Audit.Denials

/-!
# Targets with an authority

A request target with an authority is denied, and recorded as its text in front of the query, cut at
4096 bytes, beside its query, cut at 8192 bytes. At startup the validator wants to find an authority
in what was recorded, either in the two texts together or in the cut first text alone.

* `recordedAuthority_iff` — what it takes for the recorded texts to carry one (`KeepsAuthority`): a
  short target must have a short query, and a cut target must be cut on a character boundary and
  inside or behind an authority that is one up to the cut.
* `absoluteForm_denial_accepted_iff` — the denial of such a target is accepted at startup in
  exactly these cases.
* `absoluteForm_denial_rejected` — a short target with a long query is not.
-/

namespace Custode

open Found Found.Text

/-! ## Cuts of a target -/

/-- The text in front of the authority. -/
def UriParts.beforeAuthority (uri : UriParts) : Text :=
  match uri.scheme with
  | none => []
  | some scheme => scheme ++ "://".toList

/-- What is recorded of this target still carries its authority: a target within the path bound
whose query is within the query bound, or an over-long target that is cut on a character boundary
where its authority, cut at the same place, is one. -/
def UriParts.KeepsAuthority (http : HttpUri) (uri : UriParts) (authority : Text) : Prop :=
  if byteLen uri.beforeQuery ≤ maxAuditTargetPathBytes then
    ∀ q ∈ uri.query, byteLen q ≤ maxAuditTargetQueryBytes
  else
    IsBoundary uri.beforeQuery (cutOffset uri.beforeQuery maxAuditTargetPathBytes) ∧
      http.authorityOk (takeBytes (cutOffset uri.beforeQuery maxAuditTargetPathBytes -
        byteLen uri.beforeAuthority) authority) = true

section Admitted

variable {http : HttpUri} {uri : UriParts} {authority : Text}

/-- The text in front of the query, in its three parts. -/
lemma UriParts.beforeQuery_of_authority (h : uri.authority = some authority) :
    uri.beforeQuery = uri.beforeAuthority ++ (authority ++ uri.path) := by
  unfold UriParts.beforeQuery UriParts.beforeAuthority
  rw [h]
  cases uri.scheme with
  | none => rfl
  | some scheme => simp

namespace HttpUri.Admits

/-- An authority holds none of the characters that end one. -/
lemma authority_plain (h : http.Admits uri authority) :
    ∀ c ∈ authority, isAuthorityEnd c = false :=
  fun c hc => ((http.authority_chars authority h.ok).2 c hc).2.1

/-- What stands in front of an authority is short. -/
lemma beforeAuthority_short (h : http.Admits uri authority) : byteLen uri.beforeAuthority ≤ 67 := by
  unfold UriParts.beforeAuthority
  rcases hscheme : uri.scheme with _ | scheme
  · decide
  · have hshort := (http.scheme_short scheme (h.absolute scheme hscheme).1).1
    have hdelimiter : byteLen "://".toList = 3 := by decide
    simp only [byteLen_append, hdelimiter]
    omega

/-- The text in front of the query has no fragment and no space. -/
lemma beforeQuery_chars (h : http.Admits uri authority) :
    ∀ c ∈ uri.beforeQuery, c ≠ '#' ∧ c ≠ ' ' := by
  have hauthority : ∀ c ∈ authority, c ≠ '#' ∧ c ≠ ' ' := by
    intro c hc
    obtain ⟨-, hends, hspace⟩ := (http.authority_chars authority h.ok).2 c hc
    refine ⟨?_, hspace⟩
    rintro rfl
    cases hends
  have hlead : ∀ c ∈ uri.beforeAuthority, c ≠ '#' ∧ c ≠ ' ' := by
    unfold UriParts.beforeAuthority
    rcases hscheme : uri.scheme with _ | scheme
    · simp
    · have hchars := (http.scheme_short scheme (h.absolute scheme hscheme).1).2
      have hdelimiter : ∀ c ∈ "://".toList, c ≠ '#' ∧ c ≠ ' ' :=
        Text.forall_mem_of_all (by decide)
      intro c hc
      exact (List.mem_append.mp hc).elim (fun hmem => (hchars c hmem).2.2) (hdelimiter c)
  have hpath := h.path
  rw [List.all_eq_true] at hpath
  rw [UriParts.beforeQuery_of_authority h.has]
  intro c hc
  rw [List.mem_append, List.mem_append] at hc
  rcases hc with hmem | hmem | hmem
  · exact hlead c hmem
  · exact hauthority c hmem
  · exact (http.path_chars c (hpath c hmem)).2

/-- The recorded query has no fragment. -/
lemma recordedQuery_fragment (h : http.Admits uri authority)
    (hfits : ∀ q ∈ uri.query, byteLen q ≤ isizeMax) {query : Option Text}
    (hquery : AuditTarget.boundedQuery uri.query = some query) :
    '#' ∉ (query.map fun q => '?' :: q).getD [] := by
  rcases hq : uri.query with _ | q
  · rw [hq, AuditTarget.boundedQuery, Option.some.injEq] at hquery
    simp [← hquery]
  · have hchars := h.query q hq
    rw [List.all_eq_true] at hchars
    have hfragment : '#' ∉ q := fun hmem => (http.query_chars _ (hchars _ hmem)).1 rfl
    rw [hq, AuditTarget.boundedQuery, Option.map_eq_some_iff] at hquery
    obtain ⟨kept, hkept, rfl⟩ := hquery
    simp [fragment_notMem_of_bounded hkept (hfits q hq) (by decide) hfragment]

/-- The parser finds an authority in a cut of a target behind its scheme exactly when the cut
authority is one. -/
lemma hasAuthority_iff (h : http.Admits uri authority) {kept path : Text} {query : Option Text}
    (hkept : ∀ c ∈ kept, isAuthorityEnd c = false) (hpath : path <+: uri.path)
    (hquery : ∀ q ∈ query, q ∈ uri.query)
    (hbare : uri.scheme = none → query = none ∧ kept ≠ ['*'])
    (hlen : byteLen (uri.beforeAuthority ++ (kept ++ path)) +
      byteLen ((query.map fun q => '?' :: q).getD []) ≤ 65534) :
    http.hasAuthority (uri.beforeAuthority ++ (kept ++ path) ++
      (query.map fun q => '?' :: q).getD []) = true ↔ http.authorityOk kept = true := by
  rw [http.hasAuthority_iff]
  unfold UriParts.beforeAuthority at hlen ⊢
  rcases hscheme : uri.scheme with _ | scheme
  · obtain ⟨hnoPath, -, -⟩ := h.bare hscheme
    obtain ⟨rfl, hstar⟩ := hbare hscheme
    rw [hnoPath, List.prefix_nil] at hpath
    subst hpath
    rw [hscheme] at hlen
    simp only [List.append_nil, List.nil_append, Option.map_none, Option.getD_none] at hlen ⊢
    exact http.authority_form kept hkept hstar (by simpa using hlen)
  · obtain ⟨hschemeOk, hslash⟩ := h.absolute scheme hscheme
    have htext : UriParts.text ⟨some scheme, some kept, path, query⟩ =
        scheme ++ "://".toList ++ (kept ++ path) ++ (query.map fun q => '?' :: q).getD [] := by
      simp [UriParts.text, UriParts.beforeQuery]
    have hstart : path = [] ∨ ['/'] <+: path := by
      rcases path with _ | ⟨c, path⟩
      · exact .inl rfl
      · exact .inr (List.prefix_of_prefix_length_le hslash hpath (by simp))
    have hpathChars : path.all http.pathChar = true := by
      have hall := h.path
      rw [List.all_eq_true] at hall ⊢
      exact fun c hc => hall c (hpath.subset hc)
    rw [hscheme] at hlen
    have hform := http.absolute_form scheme kept path query hschemeOk hkept hstart hpathChars
      (fun q hq => h.query q (hquery q hq)) (by rw [htext, byteLen_append]; exact hlen)
    rw [htext] at hform
    exact hform

/-- A short target is read with its authority. -/
lemma hasAuthority_whole (h : http.Admits uri authority)
    (hlen : byteLen uri.beforeQuery ≤ maxAuditTargetPathBytes)
    (hquery : ∀ q ∈ uri.query, byteLen q ≤ maxAuditTargetQueryBytes) :
    http.hasAuthority (uri.beforeQuery ++ (uri.query.map fun q => '?' :: q).getD []) = true := by
  have hbounds : maxAuditTargetPathBytes = 4096 ∧ maxAuditTargetQueryBytes = 8192 := ⟨rfl, rfl⟩
  have hqueryLen : byteLen ((uri.query.map fun q => '?' :: q).getD []) ≤ 8193 := by
    rcases hq : uri.query with _ | q
    · simp
    · have hle := hquery q hq
      have hmark : ('?' : Char).utf8Size = 1 := by decide
      simp only [Option.map_some, Option.getD_some, byteLen_cons, hmark]
      omega
  rw [UriParts.beforeQuery_of_authority h.has] at hlen ⊢
  refine (h.hasAuthority_iff h.authority_plain (List.prefix_refl _) (fun q hq => hq) ?_ ?_).mpr h.ok
  · intro hscheme
    exact ⟨(h.bare hscheme).2.1, (h.bare hscheme).2.2⟩
  · omega

/-- A cut target is read with its authority exactly when the cut authority is one. -/
lemma hasAuthority_cut (h : http.Admits uri authority) {offset : Nat} (hlow : 67 < offset)
    (hhigh : offset ≤ 4096) (hlen : offset < byteLen uri.beforeQuery) :
    http.hasAuthority (takeBytes offset uri.beforeQuery) = true ↔
      http.authorityOk (takeBytes (offset - byteLen uri.beforeAuthority) authority) = true := by
  have hshort := h.beforeAuthority_short
  have hfits := byteLen_takeBytes_le offset uri.beforeQuery
  rw [UriParts.beforeQuery_of_authority h.has] at hlen hfits ⊢
  have hcut : takeBytes offset (uri.beforeAuthority ++ (authority ++ uri.path)) =
      uri.beforeAuthority ++ (takeBytes (offset - byteLen uri.beforeAuthority) authority ++
        takeBytes (offset - byteLen uri.beforeAuthority - byteLen authority) uri.path) := by
    rw [takeBytes_append, takeBytes_append, takeBytes_of_le (by omega)]
  rw [hcut] at hfits ⊢
  have hiff := h.hasAuthority_iff (fun c hc => h.authority_plain c
    ((takeBytes_isPrefix _ _).subset hc)) (takeBytes_isPrefix _ uri.path)
    (fun q (hq : q ∈ none) => by cases hq) ?_ (by simpa using hfits.trans (by omega))
  · simpa using hiff
  · intro hscheme
    refine ⟨rfl, ?_⟩
    -- a bare authority fills the cut, so it is not `*`
    obtain ⟨hnoPath, -, -⟩ := h.bare hscheme
    have hlead : uri.beforeAuthority = [] := by
      unfold UriParts.beforeAuthority
      rw [hscheme]
    have hchars := (http.authority_chars authority h.ok).2
    rw [hnoPath, hlead, List.append_nil, List.nil_append] at hlen
    have hfull : byteLen (takeBytes (offset - byteLen uri.beforeAuthority) authority) = offset := by
      rw [hlead]
      exact byteLen_takeBytes_eq_iff.mpr
        (isBoundary_of_oneByte (fun c hc => (hchars c hc).1) hlen.le)
    intro hstar
    rw [hstar] at hfull
    have hone : byteLen ['*'] = 1 := by decide
    omega

end HttpUri.Admits

end Admitted

/-! ## The recorded target -/

variable {X : Crates}

/-- What is recorded of a target with an authority: the text in front of its query and the query,
each bounded. -/
lemma recordedTarget {uri : Uri} {authority : Text}
    (hadmits : X.http.Admits uri.toUriParts authority) {target : AuditTarget}
    (htarget : AuditTarget.fromRequestUri uri = some target) :
    boundedAuditText uri.beforeQuery maxAuditTargetPathBytes = some target.path ∧
      AuditTarget.boundedQuery uri.query = some target.query := by
  obtain ⟨-, hqueryFits, hfits⟩ := uri.byteLen_parts
  obtain ⟨path, hpath, -⟩ := boundedAuditText_total maxAuditTargetPathBytes hfits (by decide)
  obtain ⟨query, hquery, -⟩ := AuditTarget.boundedQuery_total hqueryFits
  have hne : uri.beforeQuery ≠ [] := by
    have hauthority := (X.http.authority_chars authority hadmits.ok).1
    rw [UriParts.beforeQuery_of_authority hadmits.has]
    simp [hauthority]
  rw [AuditTarget.fromRequestUri_eq uri fun _ hscheme => (hadmits.bare hscheme).1,
    fromUriParts_eq hne hpath hquery, Option.some.injEq] at htarget
  subst htarget
  exact ⟨hpath, hquery⟩

/-- A target recorded whole carries its authority exactly when its query is recorded whole. -/
lemma recordedWhole_iff {uri : Uri} {authority : Text}
    (hadmits : X.http.Admits uri.toUriParts authority)
    (hshort : byteLen uri.beforeQuery ≤ maxAuditTargetPathBytes) {query : Option Text}
    (hquery : AuditTarget.boundedQuery uri.query = some query) :
    X.http.hasAuthority (uri.beforeQuery ++ (query.map fun q => '?' :: q).getD []) = true ↔
      ∀ q ∈ uri.query, byteLen q ≤ maxAuditTargetQueryBytes := by
  obtain ⟨-, hqueryFits, -⟩ := uri.byteLen_parts
  constructor
  · intro hfound q hq
    by_contra hlongQuery
    have hrecorded := hquery
    rw [hq, AuditTarget.boundedQuery, boundedAuditText_of_lt (not_le.mp hlongQuery)
      (hqueryFits q hq) (by decide), Option.map_some, Option.some.injEq] at hrecorded
    rw [X.http.hasAuthority_of_space] at hfound
    · cases hfound
    · rw [← hrecorded]
      simp [space_mem_truncationMarker]
    · rw [List.mem_append, not_or]
      exact ⟨fun hmem => (hadmits.beforeQuery_chars _ hmem).1 rfl,
        hadmits.recordedQuery_fragment hqueryFits hquery⟩
  · intro hshortQuery
    have hwhole : query = uri.query := by
      rcases hq : uri.query with _ | q
      · rw [hq] at hquery
        exact (Option.some.inj hquery).symm
      · rw [hq, AuditTarget.boundedQuery, boundedAuditText_of_le (hshortQuery q hq),
          Option.map_some, Option.some.injEq] at hquery
        exact hquery.symm
    rw [hwhole]
    exact hadmits.hasAuthority_whole hshort hshortQuery

/-- What is recorded of a target with an authority carries one exactly when the cuts keep it. -/
lemma recordedAuthority_iff {uri : Uri} {authority : Text}
    (hadmits : X.http.Admits uri.toUriParts authority) {target : AuditTarget}
    (htarget : AuditTarget.fromRequestUri uri = some target) {fields : ExistingAuditEventFields}
    (hpath : fields.path = target.path) (hquery : fields.query = target.query) :
    fields.targetHasAuthority X = true ↔ uri.toUriParts.KeepsAuthority X.http authority := by
  obtain ⟨path, query⟩ := target
  obtain ⟨hboundedPath, hboundedQuery⟩ := recordedTarget hadmits htarget
  obtain ⟨-, hqueryFits, hfits⟩ := uri.byteLen_parts
  have hspace : ' ' ∉ uri.beforeQuery := fun hmem => (hadmits.beforeQuery_chars _ hmem).2 rfl
  have hraw : fields.rawTargetText = path ++ (query.map fun q => '?' :: q).getD [] := by
    unfold ExistingAuditEventFields.rawTargetText
    rw [hpath, hquery]
    cases query with
    | none => simp
    | some q => rfl
  unfold ExistingAuditEventFields.targetHasAuthority
    ExistingAuditEventFields.parsedTargetHasAuthority
    ExistingAuditEventFields.truncatedTargetHasAuthority
  rw [hraw, hpath, Bool.or_eq_true, UriParts.KeepsAuthority]
  by_cases hlong : byteLen uri.beforeQuery ≤ maxAuditTargetPathBytes
  · -- recorded whole, so only the two texts together can carry the authority
    rw [boundedAuditText_of_le hlong, Option.some.injEq] at hboundedPath
    subst hboundedPath
    rw [if_pos hlong, truncatedAuditTextPrefix_of_noSpace hspace]
    simp only [Option.any_none, Bool.false_eq_true, or_false]
    exact recordedWhole_iff hadmits hlong hboundedQuery
  · -- cut, so the marker's space spoils the two texts together
    rw [not_le] at hlong
    have hrecorded := hboundedPath
    rw [boundedAuditText_of_lt hlong hfits (by decide), Option.some.injEq] at hboundedPath
    subst hboundedPath
    have hspoilt : X.http.hasAuthority
        (takeBytes (cutOffset uri.beforeQuery maxAuditTargetPathBytes) uri.beforeQuery ++
          truncationMarker (byteLen uri.beforeQuery) ++
            (query.map fun q => '?' :: q).getD []) = false :=
      X.http.hasAuthority_of_space (by simp [space_mem_truncationMarker]) (by
        rw [List.mem_append, not_or]
        exact ⟨fragment_notMem_of_bounded hrecorded hfits (by decide) fun hmem =>
          (hadmits.beforeQuery_chars _ hmem).1 rfl,
          hadmits.recordedQuery_fragment hqueryFits hboundedQuery⟩)
    have hmarker := byteLen_truncationMarker_bounds (hfits.trans isizeMax_le_usizeMax)
    have hroom : maxAuditTargetPathBytes = 4096 := rfl
    have hlow : 67 < cutOffset uri.beforeQuery maxAuditTargetPathBytes := by
      unfold cutOffset
      omega
    have hhigh : cutOffset uri.beforeQuery maxAuditTargetPathBytes ≤ 4096 := Nat.sub_le _ _
    have hcut := hadmits.hasAuthority_cut hlow hhigh (by omega)
    rw [hspoilt, if_neg (not_le.mpr hlong),
      truncatedAuditTextPrefix_of_lt hspace hlong hfits (by decide), ← hcut]
    by_cases hboundary :
        IsBoundary uri.beforeQuery (cutOffset uri.beforeQuery maxAuditTargetPathBytes)
    · simp [hboundary]
    · simp [hboundary]

/-- The startup reader finds an authority in the event of a denial, and the validator accepts it. -/
def AuthorityDenialAccepted (X : Crates) (denial : AuditDenial) (requestId : RequestId)
    (origin readOrigin : UpstreamOrigin) (timestamp : AuditTimestamp) : Prop :=
  ∃ event fields, AuditEvent.forDenial X denial requestId none origin timestamp = some event ∧
    ExistingAuditEventFields.read event readOrigin = .ok fields ∧
    fields.targetHasAuthority X = true ∧ fields.validate X = some (.ok ())

/-- The event of an absolute-form denial is accepted when the cuts keep the authority. -/
lemma absoluteForm_accepted_iff {uri : Uri} {authority : Text} {method : Method}
    (hmethod : method ≠ Method.connect) (hadmits : X.http.Admits uri.toUriParts authority)
    {target : AuditTarget} (htarget : AuditTarget.fromRequestUri uri = some target)
    (requestId : RequestId) (origin readOrigin : UpstreamOrigin) (timestamp : AuditTimestamp) :
    AuthorityDenialAccepted X ⟨.absoluteFormUnsupported, method, target⟩ requestId origin readOrigin
      timestamp ↔ uri.toUriParts.KeepsAuthority X.http authority := by
  have hbounded := AuditTarget.bounded_of_uri htarget
  obtain ⟨event, read, hevent, hread, hconnect⟩ :=
    read_forDenial (X := X)
      (show (AuditDenial.mk .absoluteFormUnsupported method target).target.Bounded from hbounded)
      requestId origin readOrigin timestamp
  have hmethodOk := validateMethod_deniedFields requestId timestamp readOrigin hconnect
    ⟨by simp, fun _ _ => hmethod⟩
  have hrecorded : (deniedFields ⟨.absoluteFormUnsupported, method, target⟩ read requestId
      timestamp readOrigin).targetHasAuthority X = true ↔
      uri.toUriParts.KeepsAuthority X.http authority :=
    recordedAuthority_iff hadmits htarget rfl rfl
  rw [← hrecorded]
  constructor
  · rintro ⟨event', fields, hevent', hread', hauthority, -⟩
    rw [hevent, Option.some.injEq] at hevent'
    subst hevent'
    rw [hread, Except.ok.injEq] at hread'
    subst hread'
    exact hauthority
  · intro hauthority
    refine ⟨event, _, hevent, hread, hauthority, validate_deniedFields_iff.mpr ⟨?_, hmethodOk⟩⟩
    exact if_pos hauthority

/-- **Targets with an authority.** Every request with an authority, other than `CONNECT`, is denied
as absolute-form, and the denial is accepted at startup exactly when the cuts of what was recorded
keep the authority. -/
theorem absoluteForm_denial_accepted_iff (X : Crates) (config : GatewayConfig) (method : Method)
    (hmethod : method ≠ Method.connect) (uri : Uri) (authority : Text)
    (hadmits : X.http.Admits uri.toUriParts authority) (requestId : RequestId)
    (origin readOrigin : UpstreamOrigin) (timestamp : AuditTimestamp) :
    ∃ denial, targetDecision config method uri = some (.error denial) ∧
      denial.reason = .absoluteFormUnsupported ∧
      (AuthorityDenialAccepted X denial requestId origin readOrigin timestamp ↔
        uri.toUriParts.KeepsAuthority X.http authority) := by
  obtain ⟨target, htarget, hdecision⟩ :=
    targetDecision_of_authority config hmethod (Option.isSome_iff_exists.mpr ⟨_, hadmits.has⟩)
  exact ⟨_, hdecision, rfl, absoluteForm_accepted_iff hmethod hadmits htarget requestId origin
    readOrigin timestamp⟩

/-! ## A short target with a long query -/

/-- `http://h/` with a query of `n` letters. -/
def repeatedQueryParts (n : Nat) : UriParts where
  scheme := some "http".toList
  authority := some ['h']
  path := ['/']
  query := some (List.replicate n 'a')

/-- The length of the URI with the repeated letter. -/
lemma repeatedQueryParts_byteLen (n : Nat) : byteLen (repeatedQueryParts n).text = 10 + n := by
  have hlead : byteLen ("http".toList ++ "://".toList ++ ['h'] ++ ['/']) = 9 := by decide
  have hmark : ('?' : Char).utf8Size = 1 := by decide
  have hletter : ('a' : Char).utf8Size = 1 := by decide
  simp only [repeatedQueryParts, UriParts.text, UriParts.beforeQuery, Option.map_some,
    Option.getD_some, byteLen_append _ ('?' :: _), hlead, byteLen_cons, hmark, byteLen_replicate,
    hletter]
  omega

/-- A request for `http://h/` with a query of `n` letters. -/
def repeatedQuery (n : Nat) (fits : 10 + n ≤ isizeMax) : Uri :=
  ⟨repeatedQueryParts n, (repeatedQueryParts_byteLen n).trans_le fits⟩

/-- `Uri::try_from` reads the URI with the repeated letter. -/
lemma repeatedQuery_admits {n : Nat} {fits : 10 + n ≤ isizeMax} :
    Reference.crates.http.Admits (repeatedQuery n fits).toUriParts ['h'] where
  has := rfl
  ok := by decide
  absolute := by
    rintro scheme ⟨⟩
    exact ⟨by decide, List.prefix_refl _⟩
  bare := by rintro ⟨⟩
  path := show Reference.crates.http.pathChar '/' && true = true by decide
  query := by
    rintro q ⟨⟩
    rw [List.all_eq_true]
    intro c hc
    rw [(List.mem_replicate.mp hc).2]
    decide

/-- Its authority is kept as long as its query is recorded whole. -/
lemma repeatedQuery_keepsAuthority_iff {n : Nat} {fits : 10 + n ≤ isizeMax} :
    (repeatedQuery n fits).toUriParts.KeepsAuthority Reference.crates.http ['h'] ↔ n ≤ 8192 := by
  have hshort : byteLen (repeatedQuery n fits).toUriParts.beforeQuery ≤
      maxAuditTargetPathBytes :=
    (show byteLen ("http".toList ++ "://".toList ++ ['h'] ++ ['/']) ≤ 4096 by decide)
  have hletter : ('a' : Char).utf8Size = 1 := by decide
  have hbound : maxAuditTargetQueryBytes = 8192 := rfl
  rw [UriParts.KeepsAuthority, if_pos hshort]
  simp [repeatedQuery, repeatedQueryParts, byteLen_replicate, hletter, hbound]

/-- The denial of `http://h/?a` is accepted. -/
theorem absoluteForm_denial_accepted_short : ∃ denial,
    targetDecision Reference.config Method.get (repeatedQuery 1 (by decide)) =
      some (.error denial) ∧ denial.reason = .absoluteFormUnsupported ∧
    AuthorityDenialAccepted Reference.crates denial Reference.requestId Reference.origin
      Reference.origin Reference.timestamp := by
  obtain ⟨denial, hdecision, hreason, hiff⟩ := absoluteForm_denial_accepted_iff Reference.crates
    Reference.config Method.get (by decide) (repeatedQuery 1 (by decide)) ['h']
    repeatedQuery_admits Reference.requestId Reference.origin Reference.origin Reference.timestamp
  exact ⟨denial, hdecision, hreason,
    hiff.mpr (repeatedQuery_keepsAuthority_iff.mpr (by decide))⟩

/-- The denial of `http://h/` with a query of 8193 letters is refused at the next start: the query's
marker spoils the two texts together, and the first text was not cut. -/
theorem absoluteForm_denial_rejected :
    Reference.crates.http.Admits (repeatedQuery 8193 (by decide)).toUriParts ['h'] ∧
    ∃ denial, targetDecision Reference.config Method.get (repeatedQuery 8193 (by decide)) =
        some (.error denial) ∧ denial.reason = .absoluteFormUnsupported ∧
      ¬ AuthorityDenialAccepted Reference.crates denial Reference.requestId Reference.origin
        Reference.origin Reference.timestamp := by
  refine ⟨repeatedQuery_admits, ?_⟩
  have hmethod : Method.get ≠ Method.connect := by decide
  obtain ⟨target, htarget, hdecision⟩ := targetDecision_of_authority Reference.config hmethod
    (rfl : (repeatedQuery 8193 (by decide)).authority.isSome = true)
  refine ⟨_, hdecision, rfl, ?_⟩
  rw [absoluteForm_accepted_iff hmethod repeatedQuery_admits htarget,
    repeatedQuery_keepsAuthority_iff]
  decide

end Custode
