import Custode.Audit.Script

/-!
# The verifier on accepted logs

The lines that the startup validation accepts, checked by the script.

* `bodySummary_verified_iff` — an accepted body summary is verified when it is an object and, for a
  summary without fields, has no other entries.
* `auditId_eq_ok_iff_plain` — an accepted event is verified when it is `Plain`.
* `startup_lines_verified_iff` — an accepted log is verified when all of its lines are.
-/

namespace Custode

open Found Found.Text Found.Serde Found.Checks

variable {X : Crates} {time : Humantime} {jq : Jq}

/-! ## Names -/

/-- A name that was read as a string is that string's characters. -/
lemma toList_of_ofList {name : Text} {text : String} (h : String.ofList name = text) :
    name = text.toList := by
  rw [← h, String.toList_ofList]

/-- The script's comparison with a text is the equality of the two texts. -/
lemma isText_toList (text : String) (value : String) :
    (Json.string value.toList).isText text = decide (value = text) :=
  decide_eq_decide.mpr String.toList_inj

/-- The tag of a body summary. -/
def SummaryState.text : SummaryState → String
  | empty => "empty"
  | nonEmpty => "non_empty"
  | notObserved => "not_observed"

/-- A name that is read as a state is the state's own text. -/
lemma SummaryState.text_of_ofName {name : Text} {state : SummaryState}
    (h : ofName (String.ofList name) = some state) : name = state.text.toList := by
  unfold ofName at h
  split at h
  all_goals cases h
  all_goals
    rename_i hname
    exact toList_of_ofList hname

/-- The name of a decision. -/
def ExistingAuditDecision.text : ExistingAuditDecision → String
  | allowed => "allowed"
  | denied => "denied"
  | responseError => "response_error"
  | upstreamError => "upstream_error"

/-- A name that is read as a decision is the decision's own text. -/
lemma ExistingAuditDecision.text_of_ofName {name : Text} {decision : ExistingAuditDecision}
    (h : ofName (String.ofList name) = some decision) : name = decision.text.toList := by
  unfold ofName at h
  split at h
  all_goals cases h
  all_goals
    rename_i hname
    exact toList_of_ofList hname

/-- The name of an error class. -/
def ExistingAuditErrorClass.text : ExistingAuditErrorClass → String
  | absoluteFormUnsupported => "absolute_form_unsupported"
  | connectUnsupported => "connect_unsupported"
  | dotSegment => "dot_segment"
  | downstreamClosed => "downstream_closed"
  | encodedSeparator => "encoded_path_separator"
  | invalidPercentEncoding => "invalid_percent_encoding"
  | invalidRequestConnectionHeader => "invalid_request_connection_header"
  | invalidResponseConnectionHeader => "invalid_response_connection_header"
  | methodDenied => "method_denied"
  | nonOriginForm => "non_origin_form"
  | pathDenied => "path_denied"
  | pathTooLong => "path_too_long"
  | queryTooLong => "query_too_long"
  | requestBodyReadFailed => "request_body_read_failed"
  | requestBodyTimeout => "request_body_timeout"
  | requestBodyTooLarge => "request_body_too_large"
  | requestHeadersTooLarge => "request_headers_too_large"
  | responseBodyTooLarge => "response_body_too_large"
  | responseHeadersTooLarge => "response_headers_too_large"
  | responseStreamTimeout => "response_stream_timeout"
  | tooManyRequests => "too_many_requests"
  | upstreamConnectFailed => "upstream_connect_failed"
  | upstreamRequestFailed => "upstream_request_failed"
  | upstreamResponseStreamFailed => "upstream_response_stream_failed"
  | upstreamResponseTimeout => "upstream_response_timeout"
  | upstreamTimeout => "upstream_timeout"

/-- A name that is read as an error class is the class's own text. -/
lemma ExistingAuditErrorClass.text_of_ofName {name : String} {errorClass : ExistingAuditErrorClass}
    (h : ofName name = .ok errorClass) : name = errorClass.text := by
  unfold ofName at h
  split at h <;> · cases h <;> rfl

/-- The text of an error class is read as that class. -/
lemma ExistingAuditErrorClass.ofName_text (errorClass : ExistingAuditErrorClass) :
    ofName errorClass.text = .ok errorClass := by
  cases errorClass <;> rfl

/-- A name is that of one error class. -/
lemma ExistingAuditErrorClass.isText_iff (errorClass other : ExistingAuditErrorClass)
    (name : String) (h : other.text = name) :
    (Json.string errorClass.text.toList).isText name = decide (errorClass = other) := by
  rw [isText_toList, ← h, decide_eq_decide]
  refine ⟨fun htext => ?_, congrArg text⟩
  have hname := ofName_text errorClass
  rw [htext, ofName_text] at hname
  exact (Except.ok.inj hname).symm

/-! ## What was read -/

/-- A mapped error leaves an `ok` alone. -/
lemma mapError_ok {ε ε' α : Type} {f : ε → ε'} {result : Except ε α} {a : α}
    (h : result.mapError f = .ok a) : result = .ok a := by
  cases result with
  | error error => cases h
  | ok value =>
      cases h
      rfl

/-- What is read as checked text is a string that passed the check. -/
lemma readText_ok {α : Type} {check : Text → Except ExistingFieldError α} {json : Json} {a : α}
    (h : readText check json = .ok a) : ∃ value, json = .string value ∧ check value = .ok a := by
  obtain ⟨value, hvalue, h⟩ := exists_of_bind_eq_ok h
  exact ⟨value, readString_ok hvalue, mapError_ok h⟩

/-- What is read as a non-zero number is that number. -/
lemma readNonZeroU64_ok {json : Json} {number : NonZeroU64} (h : readNonZeroU64 json = .ok number) :
    json = .number (.natural number.get) := by
  obtain ⟨value, hvalue, hnumber⟩ := exists_of_bind_eq_ok h
  obtain ⟨rfl, -⟩ := readUnsigned_ok hvalue
  unfold nonZeroU64 at hnumber
  split_ifs at hnumber
  obtain rfl := Except.ok.inj hnumber
  rfl

/-- What is read as optional text is `null` or a string that passed the check. -/
lemma readOptionalText_ok {check : Text → Except ExistingFieldError Text} {json : Json}
    {value : Option Text} (h : readOptionalText check json = .ok value) :
    json = .null ∧ value = none ∨
      ∃ raw checked, json = .string raw ∧ value = some checked ∧ check raw = .ok checked := by
  obtain ⟨raw, hraw, hchecked⟩ := exists_of_bind_eq_ok h
  rcases readOption_ok hraw with ⟨rfl, rfl⟩ | ⟨text, rfl, htext⟩
  · exact .inl ⟨rfl, (Except.ok.inj hchecked).symm⟩
  · obtain rfl := readString_ok htext
    have hcheck := mapError_ok hchecked
    rw [readOptional] at hcheck
    rcases hresult : check text with error | checked
    · rw [hresult] at hcheck
      cases hcheck
    · rw [hresult] at hcheck
      exact .inr ⟨text, checked, rfl, (Except.ok.inj hcheck).symm, hresult⟩

/-- The bound check returns the text as it is. -/
lemma boundedText_ok {raw value : Text} {maxBytes : Nat} {fieldName : String}
    (h : deserializeExistingStringBounded raw maxBytes fieldName = .ok value) : value = raw := by
  unfold deserializeExistingStringBounded at h
  split_ifs at h
  exact (Except.ok.inj h).symm

/-- The path check returns the text as it is. -/
lemma originPath_ok {raw value : Text} (h : deserializeExistingOriginPath raw = .ok value) :
    value = raw := by
  obtain ⟨bounded, hbounded, hvalue⟩ := exists_of_bind_eq_ok h
  split_ifs at hvalue
  rw [← Except.ok.inj hvalue, boundedText_ok hbounded]

/-- The query check returns the text as it is. -/
lemma originQuery_ok {raw value : Text} (h : deserializeExistingOriginQuery raw = .ok value) :
    value = raw := by
  obtain ⟨bounded, hbounded, hvalue⟩ := exists_of_bind_eq_ok h
  split_ifs at hvalue
  rw [← Except.ok.inj hvalue, boundedText_ok hbounded]

/-- An optional text whose check answers the text. -/
lemma optionalText_of_read {check : Text → Except ExistingFieldError Text} {json : Json}
    {value : Option Text} (hcheck : ∀ raw checked, check raw = .ok checked → checked = raw)
    (h : readOptionalText check json = .ok value) : json = optionalText value := by
  rcases readOptionalText_ok h with ⟨rfl, rfl⟩ | ⟨raw, checked, rfl, rfl, hchecked⟩
  · rfl
  · rw [hcheck raw checked hchecked]
    rfl

/-! ## Body summaries -/

/-- The tag of a body summary. -/
def ExistingAuditBodySummary.state : ExistingAuditBodySummary → SummaryState
  | empty => .empty
  | nonEmpty _ _ => .nonEmpty
  | notObserved => .notObserved

/-- A summary is an object, and a summary without fields has no entry but its tag. -/
def PlainSummary (summary : Json) : Prop :=
  ∃ entries, summary = .object entries ∧
    (summary.field "state" = .string "non_empty".toList ∨ entries.length = 1)

/-- What an object says that is read as a summary. -/
structure SummaryReads (entries : List (Text × Json)) (body : ExistingAuditBodySummary) : Prop where
  state : (Json.object entries).field "state" = .string body.state.text.toList
  valid_iff (jq : Jq) : Script.validBodySummary jq (.object entries) = true ↔
    body.state.text = "non_empty" ∨ entries.length = 1

/-- A text of a shape passes the script's test for it. -/
lemma jqTest_of_fits {shape : Shape} {value : Text} (h : fits shape value = true) :
    jqTest shape value = true := by
  rw [jqTest, h, Bool.true_or]

/-- The entries of a summary without fields. -/
lemma keysAre_state_iff {entries : List (Text × Json)} {value : Json}
    (h : (entries.filter fun entry => decide (entry.1 = "state".toList)) =
      [("state".toList, value)]) :
    (Json.object entries).keysAre ["state"] = true ↔ entries.length = 1 := by
  rw [Json.keysAre_object_iff]
  constructor
  · intro hkeys
    have hall : ∀ entry ∈ entries, decide (entry.1 = "state".toList) = true := by
      intro entry hentry
      have hkey := (hkeys entry.1).mp (List.mem_map_of_mem hentry)
      rw [decide_eq_true_eq]
      exact List.mem_singleton.mp hkey
    rw [← List.filter_eq_self.mpr hall, h, List.length_singleton]
  · intro hlength
    obtain ⟨entry, rfl⟩ := List.length_eq_one_iff.mp hlength
    have hentry : entry = ("state".toList, value) := by
      have hmem : ("state".toList, value) ∈ [entry] := by
        refine List.mem_of_mem_filter (p := fun entry => decide (entry.1 = "state".toList)) ?_
        rw [h]
        exact List.mem_singleton_self _
      exact (List.mem_singleton.mp hmem).symm
    rw [hentry]
    exact fun key => Iff.rfl

variable (jq) in
/-- The entries of a summary with fields. -/
lemma nonEmpty_valid {entries : List (Text × Json)} {tag : Json}
    {record : (f : NonEmptyField) → f.Value}
    (htag : (entries.filter fun entry => decide (entry.1 = "state".toList)) =
      [("state".toList, tag)])
    (h : nonEmptyVisitor.Describes (entries.filter fun entry => entry.1 ≠ "state".toList) record) :
    (Json.object entries).keysAre ["blake3", "bytes", "state"] = true ∧
      Script.positiveInteger jq ((Json.object entries).field "bytes") = true ∧
      Script.validBlake3 ((Json.object entries).field "blake3") = true := by
  obtain ⟨digest, hdigest, hreadDigest⟩ := h.exists_entry (f := .blake3) rfl
  obtain ⟨count, hcount, hreadCount⟩ := h.exists_entry (f := .bytes) rfl
  -- beside the tag, the field of a key has one entry
  have hfield : ∀ (key : String) {value : Json}, key.toList ≠ "state".toList →
      (key.toList, value) ∈ (entries.filter fun entry => entry.1 ≠ "state".toList) →
      (Json.object entries).field key = value := by
    intro key value hne hmem
    apply Json.get_of_filter
    rw [← Json.filter_key_of_nodup h.nodup hmem, List.filter_filter]
    apply List.filter_congr
    rintro entry -
    by_cases hkey : entry.1 = key.toList
    · rw [hkey, decide_eq_true hne, Bool.and_true]
    · rw [decide_eq_false hkey, Bool.false_and]
  refine ⟨?_, ?_, ?_⟩
  · rw [Json.keysAre_object_iff]
    intro key
    constructor
    · intro hkey
      obtain ⟨entry, hentry, rfl⟩ := List.mem_map.mp hkey
      by_cases hstate : entry.1 = "state".toList
      · rw [hstate]
        decide
      · have hrest : entry ∈ entries.filter fun entry => entry.1 ≠ "state".toList :=
          List.mem_filter.mpr ⟨hentry, decide_eq_true hstate⟩
        obtain ⟨f, hf⟩ := h.known entry.1 (List.mem_map_of_mem hrest)
        rw [← hf]
        cases f <;> decide
    · intro hkey
      have hexpected : key = "blake3".toList ∨ key = "bytes".toList ∨ key = "state".toList := by
        simpa using hkey
      rcases hexpected with rfl | rfl | rfl
      · exact List.mem_map_of_mem (List.mem_of_mem_filter hdigest)
      · exact List.mem_map_of_mem (List.mem_of_mem_filter hcount)
      · apply List.mem_map_of_mem (a := ("state".toList, tag))
        refine List.mem_of_mem_filter (p := fun entry => decide (entry.1 = "state".toList)) ?_
        rw [htag]
        exact List.mem_singleton_self _
  · rw [hfield "bytes" (by decide) hcount]
    obtain ⟨hpositive, hwhole⟩ := jq.positive (record .bytes).get (record .bytes).nonZero
    rw [readNonZeroU64_ok hreadCount, Script.positiveInteger]
    exact decide_eq_true ⟨hwhole, hpositive⟩
  · rw [hfield "blake3" (by decide) hdigest]
    obtain ⟨value, rfl, hvalue⟩ := readText_ok hreadDigest
    unfold deserializeBlake3Hex at hvalue
    split_ifs at hvalue with hhex
    exact jqTest_of_fits (fits_lowerHex hhex.1 hhex.2)

/-- A summary without fields is verified when it has its tag only. -/
lemma validBodySummary_iff_of_tag {entries : List (Text × Json)} {state : SummaryState}
    (hstate : state ≠ .nonEmpty)
    (htag : (entries.filter fun entry => decide (entry.1 = "state".toList)) =
      [("state".toList, .string state.text.toList)]) (jq : Jq) :
    Script.validBodySummary jq (.object entries) = true ↔
      state.text = "non_empty" ∨ entries.length = 1 := by
  have hfield : (Json.object entries).field "state" = .string state.text.toList :=
    Json.get_of_filter htag
  have hplain : (Json.object entries).isObject = true := rfl
  have hname : ((Json.string state.text.toList).isText "not_observed" ||
      (Json.string state.text.toList).isText "empty") = true ∧ state.text ≠ "non_empty" := by
    cases state with
    | nonEmpty => exact absurd rfl hstate
    | empty => decide
    | notObserved => decide
  rw [Script.validBodySummary, hplain, hfield, Bool.true_and, if_pos hname.1,
    keysAre_state_iff htag]
  exact (or_iff_right hname.2).symm

/-- What an object is that is read as a summary. -/
lemma ExistingAuditBodySummary.object_of_deserialize {entries : List (Text × Json)}
    {body : ExistingAuditBodySummary} (h : deserialize (.object entries) = .ok body) :
    SummaryReads entries body := by
  obtain ⟨⟨state, rest⟩, htag, hbody⟩ := exists_of_bind_eq_ok h
  obtain ⟨name, hname, hfilter, rfl⟩ := readTagged_object_ok htag
  obtain rfl := SummaryState.text_of_ofName hname
  have hstate : (Json.object entries).field "state" = .string state.text.toList :=
    Json.get_of_filter hfilter
  cases state with
  | empty =>
      cases hbody
      exact ⟨hstate, validBodySummary_iff_of_tag nofun hfilter⟩
  | nonEmpty =>
      obtain ⟨record, hrecord, hbody⟩ := exists_of_bind_eq_ok hbody
      cases hbody
      refine ⟨hstate, fun jq => iff_of_true ?_ (.inl rfl)⟩
      obtain ⟨hkeys, hbytes, hblake3⟩ :=
        nonEmpty_valid jq hfilter (StructVisitor.visitMap_ok hrecord)
      have hplain : (Json.object entries).isObject = true := rfl
      rw [Script.validBodySummary, hplain, hstate, hkeys, hbytes, hblake3]
      rfl
  | notObserved =>
      cases hbody
      exact ⟨hstate, validBodySummary_iff_of_tag nofun hfilter⟩

/-- An accepted body summary is verified when it is an object and, without fields, has no other
entries. -/
lemma bodySummary_verified_iff {summary : Json} {body : ExistingAuditBodySummary}
    (h : ExistingAuditBodySummary.deserialize summary = .ok body) :
    Script.validBodySummary jq summary = true ↔ PlainSummary summary := by
  cases summary with
  | object entries =>
      have hreads := ExistingAuditBodySummary.object_of_deserialize h
      rw [hreads.valid_iff jq]
      constructor
      · rintro (hstate | hlength)
        · exact ⟨entries, rfl, .inl (by rw [hreads.state, hstate])⟩
        · exact ⟨entries, rfl, .inr hlength⟩
      · rintro ⟨entries', hentries, hplain⟩
        obtain rfl := Json.object.inj hentries
        rcases hplain with hstate | hlength
        · rw [hreads.state] at hstate
          exact .inl (String.toList_injective (Json.string.inj hstate))
        · exact .inr hlength
  | _ => exact iff_of_false (by exact nofun) (by rintro ⟨entries, hentries, -⟩; cases hentries)

/-! ## Events -/

/-- An event in the shape that is written: an object with every key, plain strings for the decision
and the error class, and plain summaries. -/
structure Plain (event : Json) : Prop where
  object : ∃ entries, event = .object entries ∧ "error_class".toList ∈ entries.map Prod.fst
  decision : (event.field "decision").isString = true
  errorClass : (event.field "error_class").isNull = true ∨
    (event.field "error_class").isString = true
  requestBody : PlainSummary (event.field "request_body")
  responseBody : PlainSummary (event.field "response_body")

/-- What an object says that is read as an event: every field is read from the value of its key. -/
lemma read_get_of_describes {entries : List (Text × Json)} {record : (f : WireField) → f.Value}
    (h : (wireVisitor X time).Describes entries record) (f : WireField) :
    f.read X time ((Json.object entries).get f.name) = .ok (record f) := by
  by_cases hkey : f.name ∈ entries.map Prod.fst
  · obtain ⟨⟨key, json⟩, hentry, hname⟩ := List.mem_map.mp hkey
    obtain rfl : key = f.name := hname
    rw [Json.get_of_filter (Json.filter_key_of_nodup h.nodup hentry)]
    exact h.present f json hentry
  · -- only an error class may be missing, and `null` is read the same
    have hmissing := h.absent f hkey
    rw [Json.get_of_notMem hkey]
    cases f with
    | errorClass => exact congrArg Except.ok (Option.some.inj hmissing)
    | _ => cases hmissing

/-- The keys of an object that is read as an event. -/
lemma keysAre_of_describes {entries : List (Text × Json)} {record : (f : WireField) → f.Value}
    (h : (wireVisitor X time).Describes entries record) :
    (Json.object entries).keysAre Script.expectedKeys = true ↔
      "error_class".toList ∈ entries.map Prod.fst := by
  have hexpected : ∀ key, key ∈ Script.expectedKeys.map String.toList ↔
      ∃ f, WireField.name f = key := by
    intro key
    have hmap : Script.expectedKeys.map String.toList =
        (wireVisitor X time).fields.map WireField.name := rfl
    rw [hmap, List.mem_map]
    exact ⟨fun ⟨f, _, hf⟩ => ⟨f, hf⟩, fun ⟨f, hf⟩ => ⟨f, (wireVisitor X time).complete f, hf⟩⟩
  rw [Json.keysAre_object_iff]
  constructor
  · intro hkeys
    exact (hkeys _).mpr ((hexpected _).mpr ⟨.errorClass, rfl⟩)
  · intro hclass key
    rw [hexpected]
    refine ⟨h.known key, ?_⟩
    rintro ⟨f, rfl⟩
    by_cases hf : f = .errorClass
    · rw [hf]
      exact hclass
    · have hmissing : (wireVisitor X time).missing f = none := by
        cases f with
        | errorClass => exact absurd rfl hf
        | _ => rfl
      obtain ⟨json, hentry, -⟩ := h.exists_entry hmissing
      exact List.mem_map_of_mem hentry

/-! ### The cross-field checks -/

/-- The values that the cross-field checks of the script read. -/
structure EventReads (event : Json) (fields : ExistingAuditEventFields) : Prop where
  decision : event.field "decision" = .string fields.decision.text.toList
  errorClass : event.field "error_class" =
    optionalText (fields.errorClass.map fun errorClass => errorClass.text.toList)
  requestState : (event.field "request_body").field "state" =
    .string fields.requestBody.state.text.toList
  responseState : (event.field "response_body").field "state" =
    .string fields.responseBody.state.text.toList
  upstreamPath : event.field "upstream_path" = optionalText fields.upstreamPath
  upstreamQuery : event.field "upstream_query" = optionalText fields.upstreamQuery

/-- The checks that a validated event passed. -/
structure Validated (X : Crates) (fields : ExistingAuditEventFields) : Prop where
  errorClass : fields.validateErrorClass = .ok fields.errorClass
  requestBody : fields.validateRequestBody fields.errorClass = .ok ()
  responseBody : fields.validateResponseBody fields.errorClass = .ok ()
  upstream : fields.validateUpstreamTarget X = some (.ok ())

/-- The error class that validation returns is the event's own. -/
lemma errorClass_of_validate {fields : ExistingAuditEventFields}
    {errorClass : Option ExistingAuditErrorClass} (h : fields.validateErrorClass = .ok errorClass) :
    errorClass = fields.errorClass := by
  unfold ExistingAuditEventFields.validateErrorClass at h
  split at h
  · rename_i hclass
    cases h
    exact hclass.symm
  · cases h
  · cases h
  all_goals
    rename_i hclass
    split_ifs at h
    cases h
    exact hclass.symm

/-- Every check of an event that validation accepts has passed. -/
lemma validated_of_validate {fields : ExistingAuditEventFields}
    (h : fields.validate X = some (.ok ())) : Validated X fields := by
  unfold ExistingAuditEventFields.validate at h
  split at h
  · cases h
  · rename_i hchecked
    obtain ⟨errorClass, hclass, hchecked⟩ := exists_of_bind_eq_ok hchecked
    obtain ⟨_, _, hchecked⟩ := exists_of_bind_eq_ok hchecked
    obtain ⟨_, _, hchecked⟩ := exists_of_bind_eq_ok hchecked
    obtain ⟨_, hrequest, hchecked⟩ := exists_of_bind_eq_ok hchecked
    obtain ⟨_, hresponse, _⟩ := exists_of_bind_eq_ok hchecked
    obtain rfl := errorClass_of_validate hclass
    exact ⟨hclass, hrequest, hresponse, h⟩

section CrossField

variable {event : Json} {fields : ExistingAuditEventFields}

/-- A validated event has an upstream target exactly when it is no denial. -/
lemma Validated.target (h : Validated X fields) :
    (fields.decision = .denied → fields.upstreamPath = none ∧ fields.upstreamQuery = none) ∧
      (fields.decision ≠ .denied → ∃ path, fields.upstreamPath = some path) := by
  have hupstream := h.upstream
  unfold ExistingAuditEventFields.validateUpstreamTarget at hupstream
  split at hupstream
  · rename_i hdenied
    split_ifs at hupstream with hnone
    · exact ⟨fun _ => hnone, fun h => absurd hdenied h⟩
    · cases hupstream
  all_goals
    rename_i hdecision
    refine ⟨fun hdenied => (nomatch hdecision.symm.trans hdenied), fun _ => ?_⟩
    obtain ⟨result, -, hresult⟩ := Option.map_eq_some_iff.mp hupstream
    obtain ⟨expected, -, hmatched⟩ := exists_of_bind_eq_ok hresult
    split_ifs at hmatched with hsame
    exact ⟨_, hsame.1⟩

/-- The script's test of the target state holds of a validated event. -/
lemma EventReads.validTargetState (hreads : EventReads event fields) (h : Validated X fields) :
    Script.validTargetState event = true := by
  obtain ⟨hdenied, hattempted⟩ := h.target
  unfold Script.validTargetState
  simp only [hreads.decision, hreads.upstreamPath, hreads.upstreamQuery]
  cases hdecision : fields.decision with
  | denied =>
      obtain ⟨hpath, hquery⟩ := hdenied hdecision
      rw [hpath, hquery]
      rfl
  | _ =>
      obtain ⟨path, hpath⟩ := hattempted (by rw [hdecision]; exact nofun)
      rw [hpath]
      cases fields.upstreamQuery <;> rfl

/-- The error class of each decision. -/
lemma Validated.class_cases (h : Validated X fields) :
    fields.decision = .allowed ∧ fields.errorClass = none ∨
      ∃ errorClass, fields.errorClass = some errorClass ∧
        (fields.decision = .denied ∧ errorClass.isDenial = true ∨
          fields.decision = .responseError ∧ errorClass.isResponseError = true ∨
          fields.decision = .upstreamError ∧ errorClass.isUpstreamError = true) := by
  have hclass := h.errorClass
  unfold ExistingAuditEventFields.validateErrorClass at hclass
  split at hclass
  · rename_i hdecision hnone
    exact .inl ⟨hdecision, hnone⟩
  · cases hclass
  · cases hclass
  · rename_i errorClass hdecision hsome
    split_ifs at hclass with hdenial
    exact .inr ⟨errorClass, hsome, .inl ⟨hdecision, hdenial⟩⟩
  · rename_i errorClass hdecision hsome
    split_ifs at hclass with hresponse
    exact .inr ⟨errorClass, hsome, .inr (.inl ⟨hdecision, hresponse⟩)⟩
  · rename_i errorClass hdecision hsome
    split_ifs at hclass with hupstream
    exact .inr ⟨errorClass, hsome, .inr (.inr ⟨hdecision, hupstream⟩)⟩

/-- A text of the list is found in it. -/
lemma containsValue_of_mem {values : List String} {text : String} (h : text ∈ values) :
    Script.containsValue values (.string text.toList) = true := by
  rw [Script.containsValue, List.any_eq_true]
  exact ⟨text, h, by rw [isText_toList, decide_eq_true rfl]⟩

/-- The error classes of a denial are those of the script's list. -/
lemma mem_deniedErrorClasses {errorClass : ExistingAuditErrorClass}
    (h : errorClass.isDenial = true) : errorClass.text ∈ Script.deniedErrorClasses := by
  unfold ExistingAuditErrorClass.isDenial at h
  split at h
  all_goals first | decide | cases h

/-- The error classes of a response are those of the script's list. -/
lemma mem_responseErrorClasses {errorClass : ExistingAuditErrorClass}
    (h : errorClass.isResponseError = true) : errorClass.text ∈ Script.responseErrorClasses := by
  unfold ExistingAuditErrorClass.isResponseError at h
  split at h
  all_goals first | decide | cases h

/-- The error classes of a failed exchange are those of the script's list. -/
lemma mem_upstreamErrorClasses {errorClass : ExistingAuditErrorClass}
    (h : errorClass.isUpstreamError = true) : errorClass.text ∈ Script.upstreamErrorClasses := by
  unfold ExistingAuditErrorClass.isUpstreamError at h
  split at h
  all_goals first | decide | cases h

/-- The script lists the error classes of each decision. -/
lemma EventReads.validErrorClass (hreads : EventReads event fields) (h : Validated X fields) :
    Script.validErrorClass event = true := by
  unfold Script.validErrorClass
  simp only [hreads.decision, hreads.errorClass, isText_toList]
  rcases h.class_cases with ⟨hdecision, hnone⟩ | ⟨errorClass, hsome, hcases⟩
  · rw [hdecision, hnone]
    rfl
  · rw [hsome]
    rcases hcases with ⟨hdecision, hclass⟩ | ⟨hdecision, hclass⟩ | ⟨hdecision, hclass⟩
    · rw [hdecision]
      exact containsValue_of_mem (mem_deniedErrorClasses hclass)
    · rw [hdecision]
      exact containsValue_of_mem (mem_responseErrorClasses hclass)
    · rw [hdecision]
      exact containsValue_of_mem (mem_upstreamErrorClasses hclass)

/-- A request that was sent upstream was read. -/
lemma Validated.requestBody_isObserved (h : Validated X fields)
    (hsent : fields.decision ≠ .denied) : fields.requestBody.isObserved = true := by
  have hbody := h.requestBody
  have hany :
      fields.errorClass.any ExistingAuditErrorClass.requiresUnobservedRequestBody = false := by
    rcases h.class_cases with ⟨-, hnone⟩ | ⟨errorClass, hsome, hcases⟩
    · rw [hnone]
      rfl
    · rw [hsome]
      rcases hcases with ⟨hdenied, -⟩ | ⟨-, hclass⟩ | ⟨-, hclass⟩
      · exact absurd hdenied hsent
      · cases errorClass <;> first | rfl | cases hclass
      · cases errorClass <;> first | rfl | cases hclass
  unfold ExistingAuditEventFields.validateRequestBody at hbody
  rw [hany, if_neg Bool.false_ne_true] at hbody
  split_ifs at hbody with hobserved
  exact hobserved.resolve_left hsent

/-- The script and the startup reader agree on which bodies were observed. -/
lemma observedBody_iff {summary : Json} {body : ExistingAuditBodySummary}
    (h : summary.field "state" = .string body.state.text.toList) :
    Script.observedBody summary = body.isObserved := by
  rw [Script.observedBody, h]
  cases body <;>
    · simp only [ExistingAuditBodySummary.state, ExistingAuditBodySummary.isObserved]
      decide

/-- The script and the startup reader agree on which bodies were not observed. -/
lemma notObserved_iff {summary : Json} {body : ExistingAuditBodySummary}
    (h : summary.field "state" = .string body.state.text.toList) :
    (summary.field "state").isText "not_observed" = body.isNotObserved := by
  rw [h]
  cases body <;>
    · simp only [ExistingAuditBodySummary.state, ExistingAuditBodySummary.isNotObserved]
      decide

/-- The bodies of a response error. -/
lemma Validated.responseError_body {errorClass : ExistingAuditErrorClass} (h : Validated X fields)
    (hdecision : fields.decision = .responseError) (hsome : fields.errorClass = some errorClass) :
    (if errorClass = .invalidResponseConnectionHeader ∨ errorClass = .responseHeadersTooLarge then
      fields.responseBody.isNotObserved
    else if errorClass = .responseBodyTooLarge then
      decide (fields.responseBody.state.text = "non_empty")
    else fields.responseBody.isObserved) = true := by
  have hresponse := h.responseBody
  unfold ExistingAuditEventFields.validateResponseBody at hresponse
  rw [hdecision, hsome] at hresponse
  simp only [ExistingAuditEventFields.validateResponseErrorBody] at hresponse
  split_ifs at hresponse with hmatched
  generalize fields.responseBody = body at hmatched ⊢
  cases errorClass <;> first
    | exact hmatched
    | cases hmatched
    | (cases body <;> first | rfl | cases hmatched)

/-- The script asks for the bodies that the startup validation asks for. -/
lemma EventReads.validBodyState (hreads : EventReads event fields) (h : Validated X fields) :
    Script.validBodyState event = true := by
  have hresponse := h.responseBody
  unfold ExistingAuditEventFields.validateResponseBody at hresponse
  unfold Script.validBodyState
  simp only [hreads.decision, hreads.errorClass, observedBody_iff hreads.requestState,
    observedBody_iff hreads.responseState, notObserved_iff hreads.responseState]
  rcases h.class_cases with ⟨hdecision, hnone⟩ | ⟨errorClass, hsome, hcases⟩
  · have hrequest := h.requestBody_isObserved (by rw [hdecision]; exact nofun)
    rw [hdecision] at hresponse ⊢
    have hobserved : fields.responseBody.isObserved = true := by
      by_contra hnot
      rw [if_neg hnot] at hresponse
      cases hresponse
    rw [hrequest, hobserved]
    rfl
  · rcases hcases with ⟨hdecision, hclass⟩ | ⟨hdecision, hclass⟩ | ⟨hdecision, hclass⟩
    · rw [hdecision] at hresponse ⊢
      have hobserved : fields.responseBody.isNotObserved = true := by
        by_contra hnot
        rw [if_neg hnot] at hresponse
        cases hresponse
      rw [hobserved]
      rfl
    · have hrequest := h.requestBody_isObserved (by rw [hdecision]; exact nofun)
      have hbody := h.responseError_body hdecision hsome
      rw [hdecision, hsome, hrequest, hreads.responseState, isText_toList "non_empty"]
      have hconnection := errorClass.isText_iff .invalidResponseConnectionHeader
        "invalid_response_connection_header" rfl
      have hheaders := errorClass.isText_iff .responseHeadersTooLarge
        "response_headers_too_large" rfl
      have hlarge := errorClass.isText_iff .responseBodyTooLarge "response_body_too_large" rfl
      simp only [Option.map_some, optionalText, hconnection, hheaders, hlarge, Bool.or_eq_true,
        decide_eq_true_eq]
      exact hbody
    · have hrequest := h.requestBody_isObserved (by rw [hdecision]; exact nofun)
      rw [hdecision] at hresponse ⊢
      have hobserved : fields.responseBody.isNotObserved = true := by
        by_contra hnot
        rw [if_neg hnot] at hresponse
        cases hresponse
      rw [hrequest, hobserved]
      rfl

end CrossField

/-! ### Request ids -/

/-- A request id that the startup validation reads passes the tests of the script. -/
lemma requestId_verified {value : Text} (h : isExistingRequestId value = true) :
    jqTest Script.requestIdShape value = true ∧
      (value.drop 38).take 16 ≠ List.replicate 16 '0' := by
  obtain ⟨first, second, sequence, hvalue, hfirst, hsecond, hsequence, hnonZero⟩ :=
    isExistingRequestId_eq_true_iff.mp h
  have hjoined : value =
      "req-".toList ++ first ++ ['-'] ++ second ++ ['-'] ++ sequence := by
    rw [hvalue]
    simp [List.intercalate]
  constructor
  · apply jqTest_of_fits
    rw [hjoined]
    refine fits_append_iff.mpr ⟨_, sequence, rfl, ?_, fits_lowerHex hsequence.1 hsequence.2⟩
    refine fits_append_iff.mpr ⟨_, ['-'], rfl, ?_, fits_literal ['-']⟩
    refine fits_append_iff.mpr ⟨_, second, rfl, ?_, fits_lowerHex hsecond.1 hsecond.2⟩
    refine fits_append_iff.mpr ⟨_, ['-'], rfl, ?_, fits_literal ['-']⟩
    exact fits_append_iff.mpr ⟨_, first, rfl, fits_literal _, fits_lowerHex hfirst.1 hfirst.2⟩
  · have hfront : ("req-".toList ++ first ++ ['-'] ++ second ++ ['-']).length = 38 := by
      simp only [List.length_append, hfirst.length, hsecond.length]
      rfl
    have hslice : (value.drop 38).take 16 = sequence := by
      rw [hjoined, List.drop_left' hfront, List.take_of_length_le hsequence.length.le]
    rw [hslice]
    rintro rfl
    exact absurd hnonZero (by decide)

/-! ### One event -/

/-- The script answers an identity when its checks pass, which is the one in the event. -/
lemma auditId_eq_ok_iff {event : Json} {id : Text} :
    Script.auditId jq event = .ok id ↔
      (∀ check ∈ Script.eventChecks jq event, check.1 = true) ∧
        event.field "request_id" = .string id ∧ jqTest Script.requestIdShape id = true ∧
        (id.drop 38).take 16 ≠ List.replicate 16 '0' := by
  have hchecks : (∀ check ∈ Script.eventChecks jq event, check.1 = true) ↔
      (Script.eventChecks jq event).find? (fun check => !check.1) = none := by
    rw [List.find?_eq_none]
    simp only [Bool.not_eq_true, Bool.not_eq_false']
  rw [hchecks]
  unfold Script.auditId
  constructor
  · intro h
    split at h
    · cases h
    · rename_i hpassed
      split at h
      · rename_i requestId hid
        split_ifs at h with hshape hzero
        obtain rfl := Except.ok.inj h
        exact ⟨hpassed, hid, by simpa using hshape, hzero⟩
      · cases h
  · rintro ⟨hpassed, hid, hshape, hzero⟩
    simp only [hpassed, hid, hshape, Bool.not_true, Bool.false_eq_true, if_false, if_neg hzero]

section Event

variable {entries : List (Text × Json)} {record : (f : WireField) → f.Value}

/-- The values that the cross-field checks read, from an event of the written shape. -/
lemma eventReads_of_plain (h : (wireVisitor X time).Describes entries record)
    (hplain : Plain (.object entries)) :
    EventReads (.object entries) (ExistingAuditEventFields.ofRecord record) := by
  have hread := read_get_of_describes h
  constructor
  · obtain ⟨name, hname, hjson | hjson⟩ := readUnitVariant_ok (hread .decision)
    · obtain rfl := ExistingAuditDecision.text_of_ofName hname
      exact hjson
    · have hstring := hplain.decision
      rw [Json.field, show "decision".toList = WireField.decision.name from rfl, hjson] at hstring
      cases hstring
  · rcases readOption_ok (hread .errorClass) with ⟨hjson, hnone⟩ | ⟨errorClass, hsome, hclass⟩
    · rw [ExistingAuditEventFields.ofRecord, hnone]
      exact hjson
    · rw [ExistingAuditEventFields.ofRecord, hsome]
      obtain ⟨name, hname, hjson | hjson⟩ := readUnitVariant_ok hclass
      · rcases hresult : ExistingAuditErrorClass.ofName (String.ofList name) with error | read
        · rw [hresult] at hname
          cases hname
        · rw [hresult] at hname
          obtain rfl : read = errorClass := Option.some.inj hname
          have htext := toList_of_ofList (ExistingAuditErrorClass.text_of_ofName hresult)
          rw [htext] at hjson
          exact hjson
      · have hstring := hplain.errorClass
        rw [Json.field, show "error_class".toList = WireField.errorClass.name from rfl, hjson]
          at hstring
        rcases hstring with hstring | hstring <;> cases hstring
  · obtain ⟨summary, hjson, -⟩ := hplain.requestBody
    have hbody :
        ExistingAuditBodySummary.deserialize ((Json.object entries).field "request_body") =
          .ok (record .requestBody) := hread .requestBody
    rw [hjson] at hbody ⊢
    exact (ExistingAuditBodySummary.object_of_deserialize hbody).state
  · obtain ⟨summary, hjson, -⟩ := hplain.responseBody
    have hbody :
        ExistingAuditBodySummary.deserialize ((Json.object entries).field "response_body") =
          .ok (record .responseBody) := hread .responseBody
    rw [hjson] at hbody ⊢
    exact (ExistingAuditBodySummary.object_of_deserialize hbody).state
  · exact optionalText_of_read (fun _ _ => originPath_ok) (hread .upstreamPath)
  · exact optionalText_of_read (fun _ _ => originQuery_ok) (hread .upstreamQuery)

/-- A JSON value that the script takes for an object is one. -/
lemma object_of_isObject {event : Json} (h : event.isObject = true) :
    ∃ entries, event = .object entries := by
  cases event with
  | object entries => exact ⟨entries, rfl⟩
  | _ => cases h

/-- What is read as text is a string. -/
lemma isString_of_readText {α : Type} {check : Text → Except ExistingFieldError α} {json : Json}
    {a : α} (h : readText check json = .ok a) : json.isString = true := by
  obtain ⟨value, rfl, -⟩ := readText_ok h
  rfl

/-- A version that startup reads passes the script's test. -/
lemma validVersion_of_read {json : Json} {version : AuditSchemaVersion}
    (h : readExistingVersion json = .ok version) : Script.validVersion jq json = true := by
  obtain ⟨value, hvalue, hversion⟩ := exists_of_bind_eq_ok h
  obtain ⟨rfl, -⟩ := readUnsigned_ok hvalue
  split_ifs at hversion with hcurrent
  rw [Script.validVersion, jq.exact value (by rw [hcurrent]; decide), hcurrent]
  decide

/-- A timestamp that startup reads passes the script's test. -/
lemma validTimestamp_of_read {json : Json} {timestamp : Text}
    (h : readText (deserializeExistingTimestamp time) json = .ok timestamp) :
    Script.validTimestamp json = true := by
  obtain ⟨value, rfl, hvalue⟩ := readText_ok h
  unfold deserializeExistingTimestamp at hvalue
  split at hvalue
  · cases hvalue
  · rename_i instant hinstant
    split_ifs at hvalue with hformat
    apply jqTest_of_fits
    rw [hformat]
    exact time.format_shape value instant hinstant

/-- A status that startup reads passes the script's test. -/
lemma validStatus_of_read {json : Json} {status : StatusCode}
    (h : readExistingStatus json = .ok status) : Script.validStatus jq json = true := by
  obtain ⟨value, hvalue, hstatus⟩ := exists_of_bind_eq_ok h
  obtain ⟨rfl, hmax⟩ := readUnsigned_ok hvalue
  have hcode := mapError_ok hstatus
  unfold deserializeExistingStatus at hcode
  split at hcode
  · rename_i status hfrom
    unfold StatusCode.fromU16 at hfrom
    split_ifs at hfrom with hrange
    have hlow : (100 : ℚ) ≤ value := by exact_mod_cast hrange.1
    have hhigh : (value : ℚ) ≤ 999 := by exact_mod_cast Nat.le_of_lt_succ hrange.2
    have hwhole : (value : ℚ) = ((value : ℚ).floor : ℚ) := by
      rw [← Int.cast_natCast, Rat.floor_intCast]
    rw [Script.validStatus, jq.exact value (Nat.le_trans hmax (by decide))]
    exact decide_eq_true ⟨hwhole, hlow, hhigh⟩
  · cases hcode

/-- The error class of an event that the script verifies. -/
lemma isNull_or_isString_of_validErrorClass {event : Json}
    (h : Script.validErrorClass event = true) :
    (event.field "error_class").isNull = true ∨ (event.field "error_class").isString = true := by
  unfold Script.validErrorClass at h
  simp only at h
  split_ifs at h
  · exact .inl h
  all_goals
    rw [Bool.and_eq_true] at h
    exact .inr h.1

/-- The checks of the script hold for an event of the written shape. -/
lemma eventChecks_of_plain (h : (wireVisitor X time).Describes entries record)
    (hvalid : Validated X (ExistingAuditEventFields.ofRecord record))
    (hplain : Plain (.object entries)) :
    ∀ check ∈ Script.eventChecks jq (.object entries), check.1 = true := by
  have hread := read_get_of_describes h
  have hreads := eventReads_of_plain h hplain
  obtain ⟨entries', hentries, hclass⟩ := hplain.object
  obtain rfl := Json.object.inj hentries
  have hkeys := (keysAre_of_describes h).mpr hclass
  have hdecision : ((Json.object entries).field "decision").isString = true ∧
      Script.validDecision ((Json.object entries).field "decision") = true := by
    rw [hreads.decision]
    cases (ExistingAuditEventFields.ofRecord record).decision <;> exact ⟨rfl, by decide⟩
  have hquery : ((Json.object entries).field "query").isNull = true ∨
      ((Json.object entries).field "query").isString = true := by
    rcases readOptionalText_ok (hread .query) with ⟨hjson, -⟩ | ⟨raw, checked, hjson, -⟩
    · exact .inl (congrArg Json.isNull hjson)
    · exact .inr (congrArg Json.isString hjson)
  simp only [Script.eventChecks, List.forall_mem_cons, Bool.and_eq_true, Bool.or_eq_true]
  refine ⟨rfl, hkeys, validVersion_of_read (hread .version),
    validTimestamp_of_read (hread .timestamp), hdecision, isString_of_readText (hread .method),
    isString_of_readText (hread .path), hquery, isString_of_readText (hread .upstreamOrigin),
    validStatus_of_read (hread .status),
    (bodySummary_verified_iff (hread .requestBody)).mpr hplain.requestBody,
    (bodySummary_verified_iff (hread .responseBody)).mpr hplain.responseBody,
    hreads.validErrorClass hvalid, hreads.validTargetState hvalid, hreads.validBodyState hvalid,
    List.forall_mem_nil _⟩

end Event

/-- An accepted event is verified, with its request id, when it has the written shape. -/
lemma auditId_eq_ok_iff_plain {event : Json} {fields : ExistingAuditEventFields} {id : Text}
    (hread : ExistingAuditEventFields.deserialize X time event = .ok fields)
    (hvalid : fields.validate X = some (.ok ())) :
    Script.auditId jq event = .ok id ↔ Plain event ∧ id = fields.requestId := by
  rw [auditId_eq_ok_iff]
  by_cases hobject : event.isObject = true
  · obtain ⟨entries, rfl⟩ := object_of_isObject hobject
    rcases hvisit : (wireVisitor X time).visitMap entries with error | record
    · rw [ExistingAuditEventFields.deserialize, StructVisitor.visit, hvisit] at hread
      cases hread
    · rw [ExistingAuditEventFields.deserialize, StructVisitor.visit, hvisit] at hread
      obtain rfl := Except.ok.inj hread
      have hdescribes := StructVisitor.visitMap_ok hvisit
      have hfields := read_get_of_describes hdescribes
      obtain ⟨requestId, hid, hchecked⟩ := readText_ok (hfields .requestId)
      unfold deserializeExistingRequestId at hchecked
      split_ifs at hchecked with hexisting
      have hsame : requestId = record .requestId := Except.ok.inj hchecked
      constructor
      · rintro ⟨hchecks, hfield, -, -⟩
        simp only [Script.eventChecks, List.forall_mem_cons, Bool.and_eq_true] at hchecks
        obtain ⟨-, hkeys, -, -, ⟨hdecision, -⟩, -, -, -, -, -, hrequest, hresponse, herror, -⟩ :=
          hchecks
        refine ⟨⟨⟨entries, rfl, (keysAre_of_describes hdescribes).mp hkeys⟩, hdecision,
          isNull_or_isString_of_validErrorClass herror,
          (bodySummary_verified_iff (hfields .requestBody)).mp hrequest,
          (bodySummary_verified_iff (hfields .responseBody)).mp hresponse⟩, ?_⟩
        exact (Json.string.inj (hfield.symm.trans hid)).trans hsame
      · rintro ⟨hplain, rfl⟩
        have hverified := requestId_verified hexisting
        rw [hsame] at hverified
        exact ⟨eventChecks_of_plain hdescribes (validated_of_validate hvalid) hplain,
          hid.trans (congrArg Json.string hsame), hverified⟩
  · refine iff_of_false ?_ ?_
    · rintro ⟨hchecks, -⟩
      exact hobject (hchecks _ List.mem_cons_self)
    · rintro ⟨hplain, -⟩
      obtain ⟨entries, rfl, -⟩ := hplain.object
      exact hobject rfl

/-! ## The log -/

/-- The values of the lines of a log. -/
def lineValues (parse : JsonParser) (content : List UInt8) : Option (List Json) :=
  (readLines content).mapM fun line => (parse line.dropLast).map Prod.fst

/-- The values are read and validated as the events. -/
def AcceptsValues (X : Crates) (time : Humantime) (values : List Json)
    (events : List ExistingAuditEventFields) : Prop :=
  List.Forall₂ (fun value event => ExistingAuditEventFields.deserialize X time value = .ok event ∧
    event.validate X = some (.ok ())) values events

/-- The values of accepted lines are accepted values. -/
lemma acceptsValues_of_acceptsLines {parse : JsonParser} {lines : List (List UInt8)}
    {events : List ExistingAuditEventFields} (h : AcceptsLines X time parse lines events)
    {values : List Json}
    (hvalues : (lines.mapM fun line => (parse line.dropLast).map Prod.fst) = some values) :
    AcceptsValues X time values events := by
  induction h generalizing values with
  | nil =>
      obtain rfl := Option.some.inj hvalues
      exact .nil
  | cons hline hlines ih =>
      obtain ⟨json, rest, hparse, hread, hvalid⟩ := fromSlice_eq_ok hline
      rw [List.mapM_cons, hparse] at hvalues
      obtain ⟨tail, htail, hcons⟩ := Option.bind_eq_some_iff.mp
        ((Option.bind_some json _).symm.trans hvalues)
      obtain rfl := Option.some.inj hcons
      exact .cons ⟨hread, hvalid⟩ (ih htail)

/-- Values without extra entries pass the script's first check. -/
lemma requireValidNdjson_of_plain {values : List Json} (h : ∀ value ∈ values, Plain value)
    (lineNumber : Nat) : Script.requireValidNdjson values lineNumber = .ok () := by
  induction values generalizing lineNumber with
  | nil => rfl
  | cons value values ih =>
      rw [List.forall_mem_cons] at h
      obtain ⟨entries, rfl, -⟩ := h.1.object
      exact ih h.2 (lineNumber + 1)

/-- The script answers the identities of accepted values without extra entries. -/
lemma mapM_auditId_of_plain {values : List Json} {events : List ExistingAuditEventFields}
    (h : AcceptsValues X time values events) (hplain : ∀ value ∈ values, Plain value) :
    values.mapM (Script.auditId jq) = .ok (events.map (·.requestId)) := by
  induction h with
  | nil => rfl
  | cons hvalue hvalues ih =>
      rw [List.forall_mem_cons] at hplain
      rw [List.mapM_cons, (auditId_eq_ok_iff_plain hvalue.1 hvalue.2).mpr ⟨hplain.1, rfl⟩,
        ih hplain.2]
      rfl

/-- Accepted values that the script answers identities for have no extra entries. -/
lemma plain_of_mapM_auditId {values : List Json} {events : List ExistingAuditEventFields}
    (h : AcceptsValues X time values events) {ids : List Text}
    (hids : values.mapM (Script.auditId jq) = .ok ids) : ∀ value ∈ values, Plain value := by
  induction h generalizing ids with
  | nil => exact List.forall_mem_nil _
  | cons hvalue hvalues ih =>
      rw [List.mapM_cons] at hids
      obtain ⟨id, hid, hrest⟩ := exists_of_bind_eq_ok hids
      obtain ⟨rest, htail, -⟩ := exists_of_bind_eq_ok hrest
      rw [List.forall_mem_cons]
      exact ⟨((auditId_eq_ok_iff_plain hvalue.1 hvalue.2).mp hid).1, ih htail⟩

/-- Accepted values that the script verifies have no extra entries. -/
lemma plain_of_verified {values : List Json} {events : List ExistingAuditEventFields}
    (hevents : AcceptsValues X time values events) (h : Script.verifyAuditLog jq values = .ok ()) :
    ∀ value ∈ values, Plain value := by
  obtain ⟨_, -, hscript⟩ := exists_of_bind_eq_ok h
  unfold Script.requireValidAuditEvents at hscript
  rcases hids : values.mapM (Script.auditId jq) with message | ids
  · rw [hids] at hscript
    cases hscript
  · exact plain_of_mapM_auditId hevents hids

/-- The script verifies accepted values without extra entries and with distinct identities. -/
lemma verified_of_plain {values : List Json} {events : List ExistingAuditEventFields}
    (hevents : AcceptsValues X time values events) (hnodup : (events.map (·.requestId)).Nodup)
    (hplain : ∀ value ∈ values, Plain value) : Script.verifyAuditLog jq values = .ok () := by
  unfold Script.verifyAuditLog Script.requireValidAuditEvents
  rw [requireValidNdjson_of_plain hplain 1, mapM_auditId_of_plain hevents hplain]
  exact if_pos (by rw [List.dedup_eq_self.mpr hnodup])

/-- The script accepts a log that the startup validation accepts exactly when every line has the
written shape. -/
theorem startup_lines_verified_iff {P : Type} (X : Crates) (time : Humantime) (jq : Jq)
    (parse : JsonParser) (faults : Faults) (path : P) (content : FileBytes) (reader : LogReader)
    (haccepted : inspectAuditLog X time parse faults path content.data = some (.ok reader))
    (values : List Json) (hvalues : lineValues parse content.data = some values) :
    Script.verifyAuditLog jq values = .ok () ↔ ∀ value ∈ values, Plain value := by
  obtain ⟨events, hlines, hnodup⟩ := accepts_of_inspectAuditLog haccepted
  have hevents := acceptsValues_of_acceptsLines hlines hvalues
  exact ⟨plain_of_verified hevents, verified_of_plain hevents hnodup⟩

/-! ## Events that were written -/

/-- The summary that is written has no extra entries. -/
lemma plainSummary_json (summary : AuditBodySummary) : PlainSummary summary.json := by
  cases summary with
  | empty => exact ⟨_, rfl, .inr rfl⟩
  | nonEmpty blake3 bytes => exact ⟨_, rfl, .inl rfl⟩
  | notObserved => exact ⟨_, rfl, .inr rfl⟩

/-- Every event that is written has the written shape. -/
theorem plain_json (event : AuditEvent) : Plain event.json where
  object := ⟨_, rfl, List.mem_cons_of_mem _ List.mem_cons_self⟩
  decision := rfl
  errorClass := by
    have hclass : event.json.field "error_class" =
      optionalText (event.errorClass.map String.toList) := rfl
    rw [hclass]
    cases event.errorClass with
    | none => exact .inl rfl
    | some errorClass => exact .inr rfl
  requestBody := plainSummary_json event.requestBody
  responseBody := plainSummary_json event.responseBody

/-! ## One log that the script accepts, and one that it does not -/

/-- `jq` on natural numbers. -/
def Reference.jqNumbers : Jq where
  number
    | .natural n => n
    | .other _ _ => 0
  exact _ _ := rfl
  positive := by
    intro n hn
    change (0 : ℚ) < n ∧ (n : ℚ) = ((n : ℚ).floor : ℚ)
    refine ⟨by exact_mod_cast hn, ?_⟩
    rw [← Int.cast_natCast, Rat.floor_intCast]

/-- The value of a log with one line. -/
lemma lineValues_singleton {json : Json} {content : FileBytes}
    (hcontent : content.data = bytes json.compact ++ [newline]) :
    lineValues (Reference.parser [json]) content.data = some [json] := by
  have hlines : readLines content.data = [bytes json.compact ++ [newline]] := by
    rw [hcontent]
    exact readLines_append json.newline_notMem_compact []
  rw [lineValues, hlines, List.mapM_cons, List.dropLast_concat, Reference.parser_head]
  rfl

/-- The fields of `Reference.event`. -/
def referenceFields : ExistingAuditEventFields where
  decision := .denied
  errorClass := some .tooManyRequests
  method := "GET".toList
  path := ['/']
  query := none
  requestBody := .notObserved
  requestId := Reference.requestId.display
  responseBody := .notObserved
  status := .tooManyRequests
  timestamp := Reference.timestamp.text
  upstreamOrigin := Reference.origin
  upstreamPath := none
  upstreamQuery := none
  version := .current

/-- The fields of the reference event are valid. -/
lemma referenceFields_valid : referenceFields.validate Reference.crates = some (.ok ()) := by
  decide +kernel

/-- Each entry of the reference event is read as its field. -/
lemma read_referenceEntry (f : WireField) :
    f.read Reference.crates Reference.humantime (Reference.event.entry f) =
      .ok (referenceFields.record f) :=
  Reference.event.read_entry rfl (by decide +kernel) (by decide +kernel) f

/-- The log of `Reference.event`. -/
def referenceLog : FileBytes where
  data := Reference.event.line
  fits := by decide +kernel

/-- A refused request, as it is written, is accepted by both. -/
theorem startup_lines_verified_written :
    Script.verifyAuditLog Reference.jqNumbers [Reference.event.json] = .ok () :=
  (startup_lines_verified_iff Reference.crates Reference.humantime Reference.jqNumbers
    (Reference.parser [Reference.event.json]) (fun _ => none) () referenceLog _
    (inspectAuditLog_singleton rfl (ExistingAuditEventFields.deserialize_map read_referenceEntry)
      referenceFields_valid)
    [Reference.event.json] (lineValues_singleton rfl)).mpr
      (List.forall_mem_singleton.mpr (plain_json Reference.event))

/-- The request body of the event has one more key, which the startup validation does not read. -/
def notedEntry : WireField → Json :=
  Function.update Reference.event.entry .requestBody
    (.object [("state".toList, .string "not_observed".toList), ("note".toList, .null)])

/-- A refused request whose request body is `{"state":"not_observed","note":null}`. -/
def notedEvent : Json := .object
  ((wireVisitor Reference.crates Reference.humantime).fields.map fun f => (f.name, notedEntry f))

/-- Each entry of the event with the extra note is read as its field. -/
lemma read_notedEntry (f : WireField) :
    f.read Reference.crates Reference.humantime (notedEntry f) =
      .ok (referenceFields.record f) := by
  unfold notedEntry
  by_cases hf : f = .requestBody
  · subst hf
    rw [Function.update_self]
    rfl
  · rw [Function.update_of_ne hf]
    exact read_referenceEntry f

/-- The startup validation accepts the line, and the script does not. -/
theorem startup_line_not_verified :
    ∃ (content : FileBytes) (reader : LogReader) (values : List Json),
      content.data = bytes notedEvent.compact ++ [newline] ∧
      inspectAuditLog Reference.crates Reference.humantime (Reference.parser [notedEvent])
        (fun _ => none) () content.data = some (.ok reader) ∧
      lineValues (Reference.parser [notedEvent]) content.data = some values ∧
      Script.verifyAuditLog Reference.jqNumbers values ≠ .ok () := by
  have hfits : (bytes notedEvent.compact ++ [newline]).length ≤ isizeMax := by decide +kernel
  have hnot : ¬ Plain notedEvent := by
    intro hplain
    obtain ⟨entries, hentries, hstate | hlength⟩ := hplain.requestBody
    · cases hstate
    · cases hentries
      cases hlength
  have hread := ExistingAuditEventFields.deserialize_map read_notedEntry
  have haccepted := @inspectAuditLog_singleton Unit _ _ () _ _ ⟨_, hfits⟩ rfl hread
    referenceFields_valid
  have hvalues := @lineValues_singleton notedEvent ⟨_, hfits⟩ rfl
  refine ⟨⟨_, hfits⟩, _, _, rfl, haccepted, hvalues, ?_⟩
  intro hverified
  have hevents :
      AcceptsValues Reference.crates Reference.humantime [notedEvent] [referenceFields] :=
    .cons ⟨hread, referenceFields_valid⟩ .nil
  exact hnot (plain_of_verified hevents hverified notedEvent (List.mem_singleton_self _))

end Custode
