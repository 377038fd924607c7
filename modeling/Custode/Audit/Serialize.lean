import Custode.Audit.Existing
import Custode.Found.Json
import Custode.Ports

/-!
# Audit events as lines

The JSON of an event, in the order of its fields, and `serialize_event`, which checks the size of
the line. A line has one newline, its last byte (`newline_of_serializeEvent`).
-/

namespace Custode

open Found Found.Text

/-! ## The JSON of an event -/

/-- Source: `audit.rs` `AuditDecision` (`rename_all = "snake_case"`) -/
def AuditDecision.name : AuditDecision → Text
  | allowed => "allowed".toList
  | denied => "denied".toList
  | responseError => "response_error".toList
  | upstreamError => "upstream_error".toList

/-- Source: `audit.rs` `AuditBodySummaryKind` (`tag = "state"`, `rename_all = "snake_case"`) -/
def AuditBodySummary.json : AuditBodySummary → Json
  | empty => .object [("state".toList, .string "empty".toList)]
  | nonEmpty blake3 bytes => .object
      [("state".toList, .string "non_empty".toList),
        ("blake3".toList, .string blake3.toHexString),
        ("bytes".toList, .number (.natural bytes.get))]
  | notObserved => .object [("state".toList, .string "not_observed".toList)]

/-- The numeric schema version.
Source: `audit.rs` `AuditSchemaVersion::as_u8` -/
def AuditSchemaVersion.asU8 : Nat := 3

/-- An optional text. -/
def optionalText : Option Text → Json
  | none => .null
  | some text => .string text

/-- Source: `audit.rs` `AuditEvent` -/
def AuditEvent.json (event : AuditEvent) : Json :=
  .object
    [("decision".toList, .string event.decision.name),
      ("error_class".toList, optionalText (event.errorClass.map String.toList)),
      ("method".toList, .string event.method.value),
      ("path".toList, .string event.path),
      ("query".toList, optionalText event.query),
      ("request_body".toList, event.requestBody.json),
      ("request_id".toList, .string event.requestId.display),
      ("response_body".toList, event.responseBody.json),
      ("status".toList, .number (.natural event.status.code)),
      ("timestamp".toList, .string event.timestamp.text),
      ("upstream_origin".toList, .string event.upstreamOrigin),
      ("upstream_path".toList, optionalText event.upstreamPath),
      ("upstream_query".toList, optionalText event.upstreamQuery),
      ("version".toList, .number (.natural AuditSchemaVersion.asU8))]

/-! ## Lines -/

/-- The newline byte. -/
def newline : UInt8 := '\n'.toUInt8

/-- Serializes the current audit event schema.
Source: `audit.rs` `serialize_json_event` -/
def serializeJsonEvent (event : AuditEvent) : List UInt8 := bytes event.json.compact

/-- Serializes one bounded audit event as NDJSON bytes.
Source: `audit.rs` `serialize_event` -/
def serializeEvent (event : AuditEvent) (maxEventBytes : Nat) : Except AuditError (List UInt8) :=
  let serialized := serializeJsonEvent event ++ [newline]
  if maxEventBytes < serialized.length then
    .error (.eventTooLarge serialized.length maxEventBytes)
  else .ok serialized

/-- The line of an event. -/
def AuditEvent.line (event : AuditEvent) : List UInt8 := serializeJsonEvent event ++ [newline]

/-- What is serialized is the line of the event. -/
lemma serializeEvent_eq_ok {event : AuditEvent} {maxEventBytes : Nat} {serialized : List UInt8}
    (h : serializeEvent event maxEventBytes = .ok serialized) : serialized = event.line := by
  unfold serializeEvent at h
  simp only at h
  split at h
  · cases h
  · cases h
    rfl

/-- The size check only fails with `EventTooLarge`. -/
lemma serializeEvent_eq_error {event : AuditEvent} {maxEventBytes : Nat} {error : AuditError}
    (h : serializeEvent event maxEventBytes = .error error) :
    error = .eventTooLarge event.line.length maxEventBytes ∧ maxEventBytes < event.line.length := by
  unfold serializeEvent at h
  simp only at h
  split at h
  · rename_i hlarge
    cases h
    exact ⟨rfl, hlarge⟩
  · cases h

/-- The newline of a line is its last byte. -/
lemma newline_notMem_serializeJsonEvent (event : AuditEvent) :
    newline ∉ serializeJsonEvent event := Json.newline_notMem_compact event.json

end Custode
