import Custode.Audit.Startup
import Mathlib.Data.List.Dedup

/-!
# The audit log verifier

`scripts/verify-audit-log.sh` reads the same lines with `jq`: every line is one JSON object, and
`audit_id` checks its fields and answers its request id. Strings, keys and order are the same for
both readers; how `jq` reads a number is a parameter (`Jq`).

`startup_lines_verified_iff` says which of the logs that the startup validation accepts the script
accepts. The derived deserializers read more than objects with the fixed keys:

* a struct also from an array of its fields, and a plain variant from `{"name": null}`;
* an event without `error_class`, since the type of the field reads as `null` where it is missing;
* the variants of a body summary without fields beside any other entries.

`Script.verifyFile_eq` and `Script.verifyFile_of_torn` take the checks of the values back to the
bytes of the file.
-/

namespace Custode

open Found Found.Text Found.Serde

/-! ## Values in `jq` -/

/-- The numbers of `jq`. -/
structure Jq where
  number : JsonNumber → ℚ
  /-- A natural number up to 2^53 is read as it is. -/
  exact : ∀ n ≤ 2 ^ 53, number (.natural n) = n
  /-- A positive natural number is read as one. -/
  positive : ∀ n, 0 < n →
    0 < number (.natural n) ∧ number (.natural n) = (number (.natural n)).floor

namespace Found.Json

variable (json : Json)

/-- The value of a key of an object: the last entry counts. -/
def get (key : Text) : Json :=
  match json with
  | .object entries =>
      match (entries.filter fun entry => decide (entry.1 = key)).getLast? with
      | some (_, value) => value
      | none => .null
  | _ => .null

/-- `.key` -/
def field (key : String) : Json := json.get key.toList

/-- `type == "object"` -/
def isObject : Bool :=
  match json with
  | .object _ => true
  | _ => false

/-- `type == "string"` -/
def isString : Bool :=
  match json with
  | .string _ => true
  | _ => false

/-- `. == null` -/
def isNull : Bool :=
  match json with
  | .null => true
  | _ => false

/-- `. == "text"` -/
def isText (text : String) : Bool :=
  match json with
  | .string value => decide (value = text.toList)
  | _ => false

/-- `(keys | sort) == [..]`, for an object and sorted texts: the keys of an object are distinct. -/
def keysAre (expected : List String) : Bool :=
  match json with
  | .object entries =>
      (entries.all fun entry => (expected.map String.toList).contains entry.1) &&
        (expected.map String.toList).all fun key => (entries.map Prod.fst).contains key
  | _ => false

variable {json} {entries : List (Text × Json)} {value : Json} {key : Text}

/-- The value of a key that stands once. -/
lemma get_of_filter (h : (entries.filter fun entry => decide (entry.1 = key)) = [(key, value)]) :
    (object entries).get key = value := by
  simp only [get, h, List.getLast?_singleton]

/-- The value of a key that does not stand is `null`. -/
lemma get_of_notMem (h : key ∉ entries.map Prod.fst) : (object entries).get key = null := by
  have hfilter : (entries.filter fun entry => decide (entry.1 = key)) = [] := by
    rw [List.filter_eq_nil_iff]
    intro entry hentry
    rw [decide_eq_true_eq]
    exact fun hkey => h (hkey ▸ List.mem_map_of_mem hentry)
  simp only [get, hfilter, List.getLast?_nil]

/-- A key that stands once has one entry. -/
lemma filter_key_of_nodup (hnodup : (entries.map Prod.fst).Nodup)
    (hmem : (key, value) ∈ entries) :
    (entries.filter fun entry => decide (entry.1 = key)) = [(key, value)] := by
  induction entries with
  | nil => cases hmem
  | cons entry entries ih =>
      rw [List.map_cons, List.nodup_cons] at hnodup
      by_cases hkey : entry.1 = key
      · have hrest : (entries.filter fun entry => decide (entry.1 = key)) = [] := by
          rw [List.filter_eq_nil_iff]
          intro later hlater
          rw [decide_eq_true_eq, ← hkey]
          exact fun hsame => hnodup.1 (hsame ▸ List.mem_map_of_mem hlater)
        rw [List.filter_cons_of_pos (by simpa using hkey), hrest]
        rcases List.mem_cons.mp hmem with hentry | hlater
        · rw [hentry]
        · refine absurd ?_ hnodup.1
          rw [hkey]
          exact List.mem_map_of_mem hlater
      · rw [List.filter_cons_of_neg (by simpa using hkey)]
        apply ih hnodup.2
        rcases List.mem_cons.mp hmem with hentry | hlater
        · exact absurd (by rw [← hentry]) hkey
        · exact hlater

/-- The keys of an object are the expected ones when the two sets agree. -/
lemma keysAre_object_iff {expected : List String} :
    (object entries).keysAre expected = true ↔
      ∀ key, key ∈ entries.map Prod.fst ↔ key ∈ expected.map String.toList := by
  simp only [keysAre, Bool.and_eq_true, List.all_eq_true, List.contains_iff_mem]
  constructor
  · rintro ⟨hknown, hpresent⟩ key
    refine ⟨?_, hpresent key⟩
    intro hkey
    obtain ⟨entry, hentry, rfl⟩ := List.mem_map.mp hkey
    exact hknown entry hentry
  · intro h
    exact ⟨fun entry hentry => (h entry.1).mp (List.mem_map_of_mem hentry),
      fun key hkey => (h key).mpr hkey⟩

end Found.Json

/-- `test("^..$")`: `$` also matches in front of a newline that ends the text. -/
def jqTest (shape : Shape) (value : Text) : Bool :=
  fits shape value || (value.getLast? == some '\n' && fits shape value.dropLast)

/-! ## The predicates of the script -/

namespace Script

variable (jq : Jq)

/-- Source: `verify-audit-log.sh` `expected_keys` -/
def expectedKeys : List String :=
  ["decision", "error_class", "method", "path", "query", "request_body", "request_id",
    "response_body", "status", "timestamp", "upstream_origin", "upstream_path", "upstream_query",
    "version"]

/-- Source: `verify-audit-log.sh` `positive_integer` -/
def positiveInteger : Json → Bool
  | .number n => decide (jq.number n = (jq.number n).floor ∧ 0 < jq.number n)
  | _ => false

/-- Source: `verify-audit-log.sh` `valid_status` -/
def validStatus : Json → Bool
  | .number n => decide (jq.number n = (jq.number n).floor ∧ 100 ≤ jq.number n ∧ jq.number n ≤ 999)
  | _ => false

/-- `.version == 3` -/
def validVersion : Json → Bool
  | .number n => decide (jq.number n = 3)
  | _ => false

/-- Source: `verify-audit-log.sh` `valid_timestamp` -/
def validTimestamp : Json → Bool
  | .string value => jqTest nanosTimestamp value
  | _ => false

/-- Source: `verify-audit-log.sh` `valid_blake3` -/
def validBlake3 : Json → Bool
  | .string value => jqTest (List.replicate 64 isLowerHexChar) value
  | _ => false

/-- Source: `verify-audit-log.sh` `valid_body_summary` -/
def validBodySummary (summary : Json) : Bool :=
  summary.isObject &&
    (if (summary.field "state").isText "not_observed" ||
        (summary.field "state").isText "empty" then
      summary.keysAre ["state"]
    else if (summary.field "state").isText "non_empty" then
      summary.keysAre ["blake3", "bytes", "state"] &&
        positiveInteger jq (summary.field "bytes") &&
        validBlake3 (summary.field "blake3")
    else false)

/-- Source: `verify-audit-log.sh` `observed_body` -/
def observedBody (summary : Json) : Bool :=
  (summary.field "state").isText "empty" ||
    (summary.field "state").isText "non_empty"

/-- Source: `verify-audit-log.sh` `denied_error_classes` -/
def deniedErrorClasses : List String :=
  ["absolute_form_unsupported", "connect_unsupported", "dot_segment", "encoded_path_separator",
    "invalid_percent_encoding", "invalid_request_connection_header", "method_denied",
    "non_origin_form", "path_denied", "path_too_long", "query_too_long", "request_body_read_failed",
    "request_body_timeout", "request_body_too_large", "request_headers_too_large",
    "too_many_requests"]

/-- Source: `verify-audit-log.sh` `response_error_classes` -/
def responseErrorClasses : List String :=
  ["downstream_closed", "invalid_response_connection_header", "response_body_too_large",
    "response_headers_too_large", "response_stream_timeout", "upstream_response_stream_failed",
    "upstream_response_timeout"]

/-- Source: `verify-audit-log.sh` `upstream_error_classes` -/
def upstreamErrorClasses : List String :=
  ["upstream_connect_failed", "upstream_request_failed", "upstream_timeout"]

/-- The value is one of some texts.
Source: `verify-audit-log.sh` `contains_value` -/
def containsValue (values : List String) (value : Json) : Bool :=
  values.any fun text => value.isText text

/-- Source: `verify-audit-log.sh` `valid_decision` -/
def validDecision (decision : Json) : Bool :=
  containsValue ["allowed", "denied", "upstream_error", "response_error"] decision

/-- Source: `verify-audit-log.sh` `valid_error_class` -/
def validErrorClass (event : Json) : Bool :=
  let errorClass := event.field "error_class"
  if (event.field "decision").isText "allowed" then errorClass.isNull
  else if (event.field "decision").isText "denied" then
    errorClass.isString && containsValue deniedErrorClasses errorClass
  else if (event.field "decision").isText "response_error" then
    errorClass.isString && containsValue responseErrorClasses errorClass
  else if (event.field "decision").isText "upstream_error" then
    errorClass.isString && containsValue upstreamErrorClasses errorClass
  else false

/-- Source: `verify-audit-log.sh` `valid_target_state` -/
def validTargetState (event : Json) : Bool :=
  let decision := event.field "decision"
  if decision.isText "denied" then
    (event.field "upstream_path").isNull && (event.field "upstream_query").isNull
  else if decision.isText "allowed" || decision.isText "response_error"
      || decision.isText "upstream_error" then
    (event.field "upstream_path").isString &&
      ((event.field "upstream_query").isNull || (event.field "upstream_query").isString)
  else false

/-- Source: `verify-audit-log.sh` `valid_body_state` -/
def validBodyState (event : Json) : Bool :=
  let decision := event.field "decision"
  let errorClass := event.field "error_class"
  let requestBody := event.field "request_body"
  let responseBody := event.field "response_body"
  if decision.isText "allowed" then observedBody requestBody && observedBody responseBody
  else if decision.isText "denied" then (responseBody.field "state").isText "not_observed"
  else if decision.isText "upstream_error" then
    observedBody requestBody && (responseBody.field "state").isText "not_observed"
  else if decision.isText "response_error" then
    observedBody requestBody &&
      (if errorClass.isText "invalid_response_connection_header"
          || errorClass.isText "response_headers_too_large" then
        (responseBody.field "state").isText "not_observed"
      else if errorClass.isText "response_body_too_large" then
        (responseBody.field "state").isText "non_empty"
      else observedBody responseBody)
  else false

/-- `req-<16 hex>-<16 hex>-<16 hex>`. -/
def requestIdShape : Shape :=
  let part := List.replicate 16 isLowerHexChar
  literal "req-".toList ++ part ++ literal ['-'] ++ part ++ literal ['-'] ++ part

/-- The checks of `audit_id` in front of the request id, each with its message. -/
def eventChecks (event : Json) : List (Bool × String) :=
  [(event.isObject, "audit event is not an object"),
    (event.keysAre expectedKeys, "audit event does not match schema fields"),
    (validVersion jq (event.field "version"), "audit event has invalid schema version"),
    (validTimestamp (event.field "timestamp"), "audit event has invalid timestamp"),
    ((event.field "decision").isString && validDecision (event.field "decision"),
      "audit event has invalid decision"),
    ((event.field "method").isString, "audit event has invalid method"),
    ((event.field "path").isString, "audit event has invalid path"),
    ((event.field "query").isNull || (event.field "query").isString,
      "audit event has invalid query"),
    ((event.field "upstream_origin").isString, "audit event has invalid upstream_origin"),
    (validStatus jq (event.field "status"), "audit event has invalid status"),
    (validBodySummary jq (event.field "request_body"), "audit event has invalid request_body"),
    (validBodySummary jq (event.field "response_body"), "audit event has invalid response_body"),
    (validErrorClass event, "audit event has invalid error_class"),
    (validTargetState event, "audit event has invalid upstream target"),
    (validBodyState event, "audit event has invalid body state")]

/-- The request id of a valid event, or the message of the first check that fails.
Source: `verify-audit-log.sh` `audit_id` -/
def auditId (event : Json) : Except String Text :=
  match (eventChecks jq event).find? fun check => !check.1 with
  | some (_, message) => .error message
  | none =>
      match event.field "request_id" with
      | .string requestId =>
          if !jqTest requestIdShape requestId then .error "audit event has invalid request_id"
          else if (requestId.drop 38).take 16 = List.replicate 16 '0' then
            .error "audit event has zero request sequence"
          else .ok requestId
      | _ => .error "audit event is missing string request_id"

/-! ## The script -/

/-- Why the script fails. -/
inductive Failure where
  | notOneJsonObject (line : Nat)
  | invalidAuditEvents (message : String)

/-- Source: `verify-audit-log.sh` `require_valid_ndjson` -/
def requireValidNdjson : List Json → Nat → Except Failure Unit
  | [], _ => .ok ()
  | value :: values, lineNumber =>
      if value.isObject then requireValidNdjson values (lineNumber + 1)
      else .error (.notOneJsonObject lineNumber)

/-- Source: `verify-audit-log.sh` `require_valid_audit_events` -/
def requireValidAuditEvents (values : List Json) : Except Failure Unit :=
  match values.mapM (auditId jq) with
  | .error message => .error (.invalidAuditEvents message)
  | .ok ids =>
      if ids.dedup.length = ids.length then .ok ()
      else .error (.invalidAuditEvents "audit log has duplicate request_id")

/-- The checks of the script on the values of the lines. -/
def verifyAuditLog (values : List Json) : Except Failure Unit := do
  requireValidNdjson values 1
  requireValidAuditEvents jq values

/-! ## The script on a file -/

/-- Why the script fails on a file. -/
inductive Stop where
  | notNewlineTerminated
  | failure (failure : Failure)

/-- An empty file passes.
Source: `verify-audit-log.sh` `require_newline_terminated` -/
def requireNewlineTerminated (content : List UInt8) : Except Stop Unit :=
  match content.getLast? with
  | none => .ok ()
  | some byte => if byte = newline then .ok () else .error .notNewlineTerminated

/-- The object that is all of a line.
Source: `verify-audit-log.sh` `jq -e -s 'length == 1 and (.[0] | type) == "object"'` -/
def lineObject (parse : JsonParser) (line : List UInt8) : Option Json :=
  match parse line with
  | some (value, rest) => if value.isObject && rest.all isJsonSpace then some value else none
  | none => none

/-- The objects of the lines.
Source: `verify-audit-log.sh` `require_valid_ndjson` -/
def readObjects (parse : JsonParser) : List (List UInt8) → Nat → Except Failure (List Json)
  | [], _ => .ok []
  | line :: lines, lineNumber =>
      match lineObject parse line.dropLast with
      | none => .error (.notOneJsonObject lineNumber)
      | some value => do
          let values ← readObjects parse lines (lineNumber + 1)
          return value :: values

/-- The checks of the script on a file that can be read.
Source: `verify-audit-log.sh` -/
def verifyFile (parse : JsonParser) (content : List UInt8) : Except Stop Unit := do
  requireNewlineTerminated content
  let values ← (readObjects parse (readLines content) 1).mapError .failure
  (requireValidAuditEvents jq values).mapError .failure

section File

variable {jq} {parse : JsonParser} {content : List UInt8} {lines : List (List UInt8)}
  {values : List Json}

/-- A value that is all of a line. -/
def IsLineValue (parse : JsonParser) (line : List UInt8) (value : Json) : Prop :=
  ∃ rest, parse line.dropLast = some (value, rest) ∧ rest.all isJsonSpace = true

/-- The objects are the values of the lines, if they are objects. -/
lemma readObjects_eq (h : List.Forall₂ (IsLineValue parse) lines values) (lineNumber : Nat) :
    readObjects parse lines lineNumber =
      (requireValidNdjson values lineNumber).map fun _ => values := by
  induction h generalizing lineNumber with
  | nil => rfl
  | @cons line value lines values hline hlines ih =>
      obtain ⟨rest, hparse, hspace⟩ := hline
      have hobject : lineObject parse line.dropLast =
          if value.isObject then some value else none := by
        rw [lineObject, hparse]
        simp only [hspace, Bool.and_true]
      rw [readObjects, requireValidNdjson, hobject]
      by_cases hvalue : value.isObject = true
      · simp only [if_pos hvalue, ih (lineNumber + 1)]
        cases requireValidNdjson values (lineNumber + 1) with
        | error failure => rfl
        | ok _ => rfl
      · simp only [if_neg hvalue]
        rfl

/-- Content of whole lines passes the newline check. -/
lemma requireNewlineTerminated_of_endsLine (h : EndsLine content) :
    requireNewlineTerminated content = .ok () := by
  rcases h with rfl | hlast
  · rfl
  · rw [requireNewlineTerminated, hlast]
    exact if_pos rfl

/-- A file of whole lines is checked as their values are. -/
lemma verifyFile_eq (hends : EndsLine content)
    (h : List.Forall₂ (IsLineValue parse) (readLines content) values) :
    verifyFile jq parse content = (verifyAuditLog jq values).mapError .failure := by
  rw [verifyFile, requireNewlineTerminated_of_endsLine hends, readObjects_eq h, verifyAuditLog]
  cases requireValidNdjson values 1 with
  | error failure => rfl
  | ok _ => rfl

/-- A file that is torn fails the first check. -/
lemma verifyFile_of_torn (h : ¬ EndsLine content) :
    verifyFile jq parse content = .error .notNewlineTerminated := by
  have hne : content ≠ [] := fun hnil => h (.inl hnil)
  have hlast := List.getLast?_eq_some_getLast hne
  have hbyte : content.getLast hne ≠ newline := fun hnewline =>
    h (.inr (hlast.trans (congrArg some hnewline)))
  rw [verifyFile, requireNewlineTerminated, hlast]
  simp only [if_neg hbyte]
  rfl

end File

end Script

end Custode
