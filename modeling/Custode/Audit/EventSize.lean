import Custode.Audit.RequestIds
import Custode.Audit.Wire
import Custode.Http.Decisions
import Custode.Reference
import Custode.Target.Grammar

/-!
# The size of an event

The smallest limit that `AuditEventBytes::parse` accepts is enough for every event: its texts are
bounded one by one, before they are escaped, and JSON at most doubles a text without control
characters. The four long ones, the request's path and query and those sent upstream, take 49152
bytes at most, an origin of 4096 bytes takes 8192, and the rest stays below 1600.

* `AuditTarget.Recorded` — the targets of events, from which `IsPlain` follows; the gateway's
  denials (`RecordableDenial.recorded`) and its requests upstream have no others;
* `AuditEvent.IsPlain` — the bounds of the texts of an event;
* `AuditEvent.length_line_le` — the line is at most 65536 bytes long;
* `serializeEvent_newAt` — so serializing an event of the gateway never fails.
-/

namespace Custode

open Found Found.Text Found.Json Found.Checks

/-! ## Texts without control characters -/

/-- A token character is no control character. -/
lemma not_isControl_of_isTokenChar {c : Char} (h : isTokenChar c = true) : ¬ IsControl c := by
  intro hcontrol
  have hall : ∀ n : Fin 32, isTokenChar (Char.ofNat n) = false := by decide +kernel
  have hc := hall ⟨c.toNat, hcontrol⟩
  rw [Char.ofNat_toNat, h] at hc
  cases hc

/-- The marker has no control character. -/
lemma not_isControl_truncationMarker (n : Nat) : ∀ c ∈ truncationMarker n, ¬ IsControl c := by
  have hlead : ∀ c ∈ auditTruncationPrefix, ¬ IsControl c := forall_mem_of_all (by decide)
  have htrail : ∀ c ∈ auditTruncationSuffix, ¬ IsControl c := forall_mem_of_all (by decide)
  intro c hc
  unfold truncationMarker at hc
  rw [List.mem_append, List.mem_append] at hc
  rcases hc with (hc | hc) | hc
  · exact hlead c hc
  · exact not_isControl_of_isDigit (isDigit_of_mem_decimal hc)
  · exact htrail c hc

/-- Cutting a text keeps it free of control characters. -/
lemma plain_boundedAuditText {value text : Text} {maxBytes : Nat}
    (h : boundedAuditText value maxBytes = some text) (hfits : byteLen value ≤ isizeMax)
    (hroom : 50 ≤ maxBytes) (hvalue : ∀ c ∈ value, ¬ IsControl c) : PlainText maxBytes text := by
  refine ⟨byteLen_boundedAuditText_le h hfits hroom, ?_⟩
  intro c hc
  rcases mem_boundedAuditText h hfits hroom hc with hc | hc
  · exact hvalue c hc
  · exact not_isControl_truncationMarker _ c hc

/-- The recorded method is plain text. -/
lemma plain_fromMethod {method : Method} {audited : AuditMethod}
    (h : AuditMethod.fromMethod method = some audited) :
    PlainText maxAllowedMethodBytes audited.value := by
  unfold AuditMethod.fromMethod at h
  obtain ⟨text, htext, rfl⟩ := Option.map_eq_some_iff.mp h
  apply plain_boundedAuditText htext method.fits (by decide)
  exact fun c hc => not_isControl_of_isTokenChar (method.isTokenChar_of_mem c hc)

/-- A text of an accepted alphabet has no control character. -/
lemma OriginFormPath.plain (path : OriginFormPath) :
    PlainText maxOriginFormPathBytes path.value := by
  have hgrammar : PathGrammar path.value := by
    rw [pathGrammar_iff, ← firstError_eq_none_iff, ← pathError_eq]
    exact path.accepted
  refine ⟨path.byteLen_le, not_isControl_of_bytes isOriginFormTextByte ?_ hgrammar.alphabet⟩
  intro byte hbyte
  obtain ⟨hlow, hhigh, -⟩ := alphabet_excludes hbyte
  omega

/-- An accepted query is plain text. -/
lemma OriginFormQuery.plain (query : OriginFormQuery) :
    PlainText maxOriginFormQueryBytes query.value := by
  have hgrammar : QueryGrammar query.value := by
    rw [queryGrammar_iff, ← firstError_eq_none_iff, ← queryError_eq]
    exact query.accepted
  refine ⟨query.byteLen_le, not_isControl_of_bytes isOriginFormQueryByte ?_ ?_⟩
  · intro byte hbyte
    unfold isOriginFormQueryByte at hbyte
    rw [Bool.or_eq_true, beq_iff_eq] at hbyte
    rcases hbyte with htext | rfl
    · obtain ⟨hlow, hhigh, -⟩ := alphabet_excludes htext
      omega
    · decide
  · intro byte hbyte
    unfold isOriginFormQueryByte
    rw [Bool.or_eq_true, beq_iff_eq]
    exact hgrammar.alphabet byte hbyte

/-- A digest is 64 hex digits. -/
lemma Hash.plain_toHexString (hash : Hash) : PlainText 64 hash.toHexString := by
  obtain ⟨hlength, hall, -⟩ := hexBytes_lowerHex hash.bytes
  rw [hash.size] at hlength
  exact ⟨hlength.le, not_isControl_of_lowerHex hall⟩

/-- A printed identity is plain text. -/
lemma RequestId.plain_display (id : RequestId) : PlainText 54 id.display := by
  obtain ⟨hfirst, hsecond⟩ := RequestId.isIdPart_halves id.runToken
  have hthird := isIdPart_hexDigits id.sequence.get
  have hlead : byteLen "req-".toList = 4 ∧ ∀ c ∈ "req-".toList, ¬ IsControl c :=
    ⟨rfl, forall_mem_of_all (by decide)⟩
  have hdash : byteLen ['-'] = 1 ∧ ¬ IsControl '-' := by decide
  have htext : id.display = "req-".toList ++ (id.runToken.halves.1 ++ ('-' ::
      (id.runToken.halves.2 ++ ('-' :: hexDigits 16 id.sequence.get)))) := by
    simp [RequestId.display, List.intercalate]
  rw [htext]
  constructor
  · simp only [byteLen_append, byteLen_cons, hlead.1, hfirst.1, hsecond.1, hthird.1]
    decide
  · intro c hc
    simp only [List.mem_append, List.mem_cons] at hc
    rcases hc with hc | hc | rfl | hc | rfl | hc
    · exact hlead.2 c hc
    · exact not_isControl_of_lowerHex hfirst.2 c hc
    · exact hdash.2
    · exact not_isControl_of_lowerHex hsecond.2 c hc
    · exact hdash.2
    · exact not_isControl_of_lowerHex hthird.2 c hc

/-- The classes of a printed timestamp: digits, and five marks. -/
lemma class_of_mem_nanosTimestamp {ok : Char → Bool} (h : ok ∈ nanosTimestamp) :
    ok = Char.isDigit ∨ ∃ mark ∈ ['-', 'T', ':', '.', 'Z'], ok = fun c => decide (c = mark) := by
  simp only [nanosTimestamp, literal, List.map_cons, List.map_nil, List.mem_append,
    List.mem_replicate, List.mem_cons, List.not_mem_nil, or_false] at h
  simp only [List.mem_cons, List.not_mem_nil, or_false, exists_eq_or_imp, exists_eq_left]
  tauto

/-- A printed timestamp is visible. -/
lemma plain_of_fits_nanosTimestamp {text : Text} (h : fits nanosTimestamp text = true) :
    PlainText 30 text := by
  have hvisible : ∀ c ∈ text, c.utf8Size = 1 ∧ ¬ IsControl c := by
    intro c hc
    obtain ⟨ok, hok, hclass⟩ := mem_of_fits h c hc
    rcases class_of_mem_nanosTimestamp hok with rfl | ⟨mark, hmark, rfl⟩
    · exact ⟨utf8Size_of_isDigit hclass, not_isControl_of_isDigit hclass⟩
    · obtain rfl : c = mark := of_decide_eq_true hclass
      have hmarks : ∀ mark ∈ ['-', 'T', ':', '.', 'Z'], mark.utf8Size = 1 ∧ ¬ IsControl mark :=
        forall_mem_of_all (by decide)
      exact hmarks c hmark
  refine ⟨?_, fun c hc => (hvisible c hc).2⟩
  rw [byteLen_eq_length fun c hc => (hvisible c hc).1, length_of_fits h]
  rfl

/-! ## Targets -/

/-- The targets that events record: an accepted target, and what is kept of a URI without control
characters. -/
inductive AuditTarget.Recorded : AuditTarget → Prop where
  | accepted (target : AcceptedTarget) : Recorded (AuditTarget.fromAccepted target)
  | bounded (uri : Uri) (target : AuditTarget) (noControl : ∀ c ∈ uri.text, ¬ IsControl c)
      (built : AuditTarget.fromRequestUri uri = some target) : Recorded target

/-- The texts of a target are plain. -/
def AuditTarget.IsPlain (target : AuditTarget) : Prop :=
  PlainText maxAuditTargetPathBytes target.path ∧
    ∀ q ∈ target.query, PlainText maxAuditTargetQueryBytes q

/-- The recorded path is cut from the front of the URI. -/
lemma AuditTarget.fromRequestUri_raw (uri : Uri) :
    ∃ raw, raw <+: uri.beforeQuery ∧ fromRequestUri uri = fromUriParts raw uri.query := by
  unfold fromRequestUri UriParts.beforeQuery
  rcases hauthority : uri.authority with _ | authority
  · exact ⟨uri.path, List.prefix_rfl, rfl⟩
  · rcases hscheme : uri.scheme with _ | scheme
    · exact ⟨authority, List.prefix_append _ _, rfl⟩
    · exact ⟨scheme ++ "://".toList ++ authority ++ uri.path, List.prefix_rfl, rfl⟩

/-- Texts without control characters make a plain target. -/
lemma AuditTarget.isPlain_fromUriParts {path : Text} {query : Option Text} {target : AuditTarget}
    (h : fromUriParts path query = some target) (hpath : byteLen path ≤ isizeMax)
    (hquery : ∀ q ∈ query, byteLen q ≤ isizeMax) (hpathChars : ∀ c ∈ path, ¬ IsControl c)
    (hqueryChars : ∀ q ∈ query, ∀ c ∈ q, ¬ IsControl c) : target.IsPlain := by
  simp only [fromUriParts, Option.bind_eq_bind, Option.bind_eq_some_iff, Option.pure_def,
    Option.some.injEq] at h
  obtain ⟨boundedPath, hboundedPath, bounded, hbounded, rfl⟩ := h
  constructor
  · apply plain_boundedAuditText hboundedPath
    · split
      · decide
      · exact hpath
    · decide
    · split
      · exact forall_mem_of_all (by decide)
      · exact hpathChars
  · intro q hq
    rcases query with _ | raw
    · obtain rfl := Option.some.inj hbounded
      cases hq
    · obtain ⟨text, htext, rfl⟩ := Option.map_eq_some_iff.mp hbounded
      obtain rfl := Option.some.inj hq
      exact plain_boundedAuditText htext (hquery raw rfl) (by decide) (hqueryChars raw rfl)

/-- Recorded targets are plain. -/
lemma AuditTarget.Recorded.isPlain {target : AuditTarget} (h : target.Recorded) :
    target.IsPlain := by
  cases h with
  | accepted target =>
      refine ⟨target.path.plain, ?_⟩
      intro q hq
      obtain ⟨query, -, rfl⟩ := Option.map_eq_some_iff.mp hq
      exact query.plain
  | bounded uri target noControl built =>
      obtain ⟨raw, hraw, heq⟩ := fromRequestUri_raw uri
      obtain ⟨-, hquery, hbefore⟩ := uri.byteLen_parts
      rw [heq] at built
      unfold UriParts.text at noControl
      apply isPlain_fromUriParts built ((byteLen_mono hraw).trans hbefore) hquery
      · exact fun c hc => noControl c (List.mem_append_left _ (hraw.subset hc))
      · intro q hq c hc
        apply noControl c (List.mem_append_right _ _)
        rw [Option.mem_def] at hq
        rw [hq]
        exact List.mem_cons_of_mem _ hc

/-- The target of a recordable denial is recorded. -/
lemma RecordableDenial.recorded {config : GatewayConfig} {method : Method} {uri : Uri}
    {denial : AuditDenial} (h : RecordableDenial config method uri denial)
    (hchars : ∀ c ∈ uri.text, ¬ IsControl c) : denial.target.Recorded := by
  cases h with
  | tooManyRequests read =>
      obtain ⟨target, htarget, rfl⟩ := Option.map_eq_some_iff.mp read
      exact .bounded uri target hchars htarget
  | target decided =>
      rcases targetDecision_eq_error decided with ⟨-, target, htarget, rfl⟩ |
        ⟨-, -, target, htarget, rfl⟩ | ⟨-, -, reason, target, -, htarget, rfl⟩ |
        ⟨-, -, accepted, rejection, -, -, rfl⟩
      · exact .bounded uri target hchars htarget
      · exact .bounded uri target hchars htarget
      · cases reason <;> exact .bounded uri target hchars htarget
      · unfold AuditDenial.allowlistRejected
        cases rejection.reason <;> exact .accepted rejection.target
  | @requestHeader allowed decided error => cases error <;> exact .accepted allowed.target
  | @requestBody allowed decided error => cases error <;> exact .accepted allowed.target
  | @requestBodyTimeout allowed decided => exact .accepted allowed.target

/-- The target of a forwarded request is recorded. -/
lemma ObservedAuditRequestInput.recorded {X : Crates} {target : AllowedTarget}
    {requestId : RequestId} {body : AccountedBody} {observed : ObservedAuditRequestInput}
    (h : ObservedAuditRequestInput.new X target requestId body = some observed) :
    observed.request.target.Recorded := by
  obtain ⟨upstream, -, hobserved⟩ := Option.bind_eq_some_iff.mp h
  obtain rfl := Option.some.inj hobserved
  exact .accepted target.target

/-! ## The JSON of an event -/

/-- An entry with a key of at most 15 bytes. -/
lemma entrySize_le (key : Text) {value : Json} {n : Nat} (hkey : PlainText 15 key)
    (hvalue : byteLen value.compact ≤ n) : entrySize (key, value) ≤ n + 34 := by
  have hquoted := hkey.byteLen_quoted_le
  unfold entrySize
  dsimp only
  omega

/-- Plain text at most doubles when it is written as a string. -/
lemma byteLen_string_le {n : Nat} {text : Text} (h : PlainText n text) :
    byteLen (Json.string text).compact ≤ 2 * n + 2 := by
  rw [compact]
  exact h.byteLen_quoted_le

/-- So does optional text. -/
lemma byteLen_optionalText_le {n : Nat} {text : Option Text} (h : ∀ t ∈ text, PlainText n t) :
    byteLen (optionalText text).compact ≤ 2 * n + 4 := by
  rcases text with _ | text
  · have hnull : byteLen (optionalText none).compact = 4 := rfl
    omega
  · exact (byteLen_string_le (h text rfl)).trans (by omega)

/-- A number that fits a `usize` has at most 20 digits. -/
lemma byteLen_natural_le {n : Nat} (h : n ≤ usizeMax) :
    byteLen (Json.number (.natural n)).compact ≤ 20 := by
  rw [compact, numberText, byteLen_decimal]
  exact length_decimal_le h

/-- A body summary is written in at most 300 bytes. -/
lemma AuditBodySummary.byteLen_json_le (body : AuditBodySummary) :
    byteLen body.json.compact ≤ 300 := by
  cases body with
  | empty => decide
  | nonEmpty blake3 bytes =>
      have hobject : byteLen (nonEmpty blake3 bytes).json.compact ≤ _ := byteLen_object_le _
      have hname : PlainText 9 "non_empty".toList := by decide
      have hstate := entrySize_le "state".toList (by decide) (byteLen_string_le hname)
      have hdigest := entrySize_le "blake3".toList (by decide)
        (byteLen_string_le blake3.plain_toHexString)
      have hcount := entrySize_le "bytes".toList (by decide)
        (byteLen_natural_le bytes.bounded)
      simp only [List.map_cons, List.map_nil, List.sum_cons, List.sum_nil] at hobject
      omega
  | notObserved => decide

/-- The bounds of the texts of an event. The digests, the request identity and the numbers have
theirs by their types. -/
structure AuditEvent.IsPlain (event : AuditEvent) : Prop where
  errorClass : ∀ name ∈ event.errorClass.map String.toList, PlainText 64 name
  method : PlainText maxAllowedMethodBytes event.method.value
  path : PlainText maxAuditTargetPathBytes event.path
  query : ∀ q ∈ event.query, PlainText maxAuditTargetQueryBytes q
  timestamp : PlainText 30 event.timestamp.text
  upstreamOrigin : PlainText 4096 event.upstreamOrigin
  upstreamPath : ∀ p ∈ event.upstreamPath, PlainText maxOriginFormPathBytes p
  upstreamQuery : ∀ q ∈ event.upstreamQuery, PlainText maxOriginFormQueryBytes q

/-- The line of a plain event, with its newline, fits the smallest limit. -/
lemma AuditEvent.length_line_le {event : AuditEvent} (h : event.IsPlain) :
    event.line.length ≤ minAuditEventBytes := by
  have hname : PlainText 14 event.decision.name := by cases event.decision <;> decide
  have hdecision := entrySize_le "decision".toList (by decide) (byteLen_string_le hname)
  have herrorClass := entrySize_le "error_class".toList (by decide)
    (byteLen_optionalText_le h.errorClass)
  have hmethod := entrySize_le "method".toList (by decide) (byteLen_string_le h.method)
  have hpath := entrySize_le "path".toList (by decide) (byteLen_string_le h.path)
  have hquery := entrySize_le "query".toList (by decide) (byteLen_optionalText_le h.query)
  have hrequestBody := entrySize_le "request_body".toList (by decide)
    event.requestBody.byteLen_json_le
  have hrequestId := entrySize_le "request_id".toList (by decide)
    (byteLen_string_le event.requestId.plain_display)
  have hresponseBody := entrySize_le "response_body".toList (by decide)
    event.responseBody.byteLen_json_le
  have hstatus := entrySize_le "status".toList (by decide)
    (byteLen_natural_le (n := event.status.code) (event.status.valid.2.le.trans (by decide)))
  have htimestamp := entrySize_le "timestamp".toList (by decide)
    (byteLen_string_le h.timestamp)
  have horigin := entrySize_le "upstream_origin".toList (by decide)
    (byteLen_string_le h.upstreamOrigin)
  have hupstreamPath := entrySize_le "upstream_path".toList (by decide)
    (byteLen_optionalText_le h.upstreamPath)
  have hupstreamQuery := entrySize_le "upstream_query".toList (by decide)
    (byteLen_optionalText_le h.upstreamQuery)
  have hversion := entrySize_le "version".toList (by decide)
    (byteLen_natural_le (n := AuditSchemaVersion.asU8) (by decide))
  have hobject : byteLen event.json.compact ≤ _ := byteLen_object_le _
  simp only [List.map_cons, List.map_nil, List.sum_cons, List.sum_nil] at hobject
  unfold AuditEvent.line serializeJsonEvent
  rw [List.length_append, length_bytes, List.length_singleton]
  unfold maxAllowedMethodBytes at hmethod
  unfold maxAuditTargetPathBytes maxOriginFormPathBytes at hpath
  unfold maxAuditTargetQueryBytes maxOriginFormQueryBytes at hquery
  unfold maxOriginFormPathBytes at hupstreamPath
  unfold maxOriginFormQueryBytes at hupstreamQuery
  unfold minAuditEventBytes
  omega

/-! ## The events of the gateway -/

/-- The texts of a URL contain no control characters. -/
def UrlCrate.PrintsNoControl (U : UrlCrate) : Prop :=
  ∀ raw url, U.parse raw = some url → ∀ c ∈ U.asStr url, ¬ IsControl c

/-- The origin's text is part of its URL's. -/
lemma UpstreamOrigin.not_isControl_asStr {X : Crates} (hX : X.url.PrintsNoControl) {raw : Text}
    {origin : UpstreamOrigin} (h : UpstreamOrigin.parse X raw = .ok origin) :
    ∀ c ∈ origin.asStr X, ¬ IsControl c := by
  intro c hc
  unfold UpstreamOrigin.asStr at hc
  rw [List.mem_reverse] at hc
  have hmem := (List.dropWhile_suffix _).subset hc
  exact hX raw origin.url (UpstreamOrigin.parse_eq_ok_iff.mp h).2 c (List.mem_reverse.mp hmem)

/-- The error classes are short names. -/
lemma AuditOutcome.plain_errorClass (outcome : AuditOutcome) :
    ∀ name ∈ outcome.eventParts.2.1.map String.toList, PlainText 64 name := by
  have hsome {name : String} (h : PlainText 64 name.toList) :
      ∀ t ∈ (some name).map String.toList, PlainText 64 t := by
    intro t ht
    obtain rfl := Option.some.inj ht
    exact h
  cases outcome with
  | allowed responseBody status upstream => simp [eventParts]
  | denied reason => exact hsome (by cases reason <;> decide)
  | responseError error upstream =>
      apply hsome
      cases error with
      | responseHeader error => cases error <;> decide
      | _ =>
          dsimp only [AuditResponseError.intoParts]
          decide
  | upstreamError error upstream => exact hsome (by cases error <;> decide)

/-- The event of a recorded target is built, and it is plain. -/
lemma AuditEvent.newAt_isPlain {X : Crates} (hX : X.url.PrintsNoControl) {raw : Text}
    {input : AuditEventInput} {timestamp : AuditTimestamp}
    (horigin : UpstreamOrigin.parse X raw = .ok input.request.upstreamOrigin)
    (hlength : byteLen (input.request.upstreamOrigin.asStr X) ≤ 4096)
    (htarget : input.request.target.Recorded) (htime : fits nanosTimestamp timestamp.text = true) :
    ∃ event, AuditEvent.newAt X input timestamp = some event ∧ event.IsPlain := by
  obtain ⟨method, hmethod, -⟩ := AuditMethod.fromMethod_total input.request.method
  obtain ⟨hpath, hquery⟩ := htarget.isPlain
  refine ⟨_, by rw [AuditEvent.newAt, hmethod, Option.map_some], ?_⟩
  constructor
  · exact input.outcome.plain_errorClass
  · exact plain_fromMethod hmethod
  · exact hpath
  · exact hquery
  · exact plain_of_fits_nanosTimestamp htime
  · exact ⟨hlength, UpstreamOrigin.not_isControl_asStr hX horigin⟩
  · intro path hmem
    obtain ⟨target, -, rfl⟩ := Option.map_eq_some_iff.mp hmem
    exact target.path.plain
  · intro query hmem
    obtain ⟨target, -, hquery⟩ := Option.bind_eq_some_iff.mp hmem
    obtain ⟨query, -, rfl⟩ := Option.map_eq_some_iff.mp hquery
    exact query.plain

/-- Every event of the gateway fits the smallest limit, so under every accepted limit it is
serialized. Its timestamp has the shape in which `humantime` prints the current time. -/
theorem serializeEvent_newAt {X : Crates} (hX : X.url.PrintsNoControl) {raw : Text}
    {input : AuditEventInput} {timestamp : AuditTimestamp}
    (horigin : UpstreamOrigin.parse X raw = .ok input.request.upstreamOrigin)
    (hlength : byteLen (input.request.upstreamOrigin.asStr X) ≤ 4096)
    (htarget : input.request.target.Recorded) (htime : fits nanosTimestamp timestamp.text = true) :
    ∃ event, AuditEvent.newAt X input timestamp = some event ∧
      event.line.length ≤ minAuditEventBytes ∧
      ∀ name rawValue limit, AuditEventBytes.parse name rawValue = .ok limit →
        serializeEvent event limit.get = .ok event.line := by
  obtain ⟨event, hevent, hplain⟩ := AuditEvent.newAt_isPlain hX horigin hlength htarget htime
  have hline := AuditEvent.length_line_le hplain
  refine ⟨event, hevent, hline, ?_⟩
  intro name rawValue limit _
  apply if_neg
  exact not_lt.mpr (hline.trans limit.large)

/-- The event of `GET /v1/models`, denied because of too many requests. -/
theorem serializeEvent_newAt_denied :
    ∃ event, AuditEvent.newAt Reference.crates
        ⟨.denied .tooManyRequests, .notObserved, Method.get, Reference.requestId,
          AuditTarget.fromAccepted ⟨Reference.modelsPath, none⟩, Reference.origin⟩
        Reference.timestamp = some event ∧
      event.line.length ≤ minAuditEventBytes ∧
      ∀ name rawValue limit, AuditEventBytes.parse name rawValue = .ok limit →
        serializeEvent event limit.get = .ok event.line := by
  have hnoControl : Reference.crates.url.PrintsNoControl := by
    intro raw url h
    unfold Reference.crates Reference.url at h
    dsimp only at h
    split at h
    · obtain rfl := Option.some.inj h
      exact forall_mem_of_all (by decide)
    · cases h
  have horigin : UpstreamOrigin.parse Reference.crates "https://api.openai.com".toList =
      .ok Reference.origin := UpstreamOrigin.parse_eq_ok_iff.mpr ⟨by decide, rfl⟩
  exact serializeEvent_newAt hnoControl horigin (by decide) (.accepted _) (by decide)

end Custode
