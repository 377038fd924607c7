import Custode.Audit.Serialize
import Custode.Found.Checks
import Custode.Found.Serde
import Custode.Found.Shape

/-!
# Reading an event back from JSON

The derived deserializers of `ExistingAuditEventWireFields` and `ExistingAuditBodySummary`, with the
field deserializers of `audit.rs`, and `ExistingAuditEvent`, which validates what was read. The
timestamp is read by `humantime`.

A missing `error_class` is read as `null`: the field has no `deserialize_with`, and its type is an
option. Every other field has to be there.

* `ExistingAuditEventFields.deserialize_json` — an event that was written is read back.
-/

namespace Custode

open Found Found.Text Found.Serde Found.Checks

/-- `YYYY-MM-DDThh:mm:ss.nnnnnnnnnZ`. -/
def nanosTimestamp : Shape :=
  let digits := fun n => List.replicate n Char.isDigit
  digits 4 ++ literal ['-'] ++ digits 2 ++ literal ['-'] ++ digits 2 ++ literal ['T']
    ++ digits 2 ++ literal [':'] ++ digits 2 ++ literal [':'] ++ digits 2 ++ literal ['.']
    ++ digits 9 ++ literal ['Z']

/-- The functions of the `humantime` crate, on nanoseconds since the epoch. -/
structure Humantime where
  /-- `humantime::parse_rfc3339` -/
  parseRfc3339 : Text → Option Int
  /-- `humantime::format_rfc3339_nanos` -/
  formatRfc3339Nanos : Int → Text
  /-- An instant that was parsed is printed with nine digits of its fraction. -/
  format_shape : ∀ value instant, parseRfc3339 value = some instant →
    fits nanosTimestamp (formatRfc3339Nanos instant) = true

/-- A deserializer of a field. -/
abbrev FieldReader (α : Type) := Reader ExistingFieldError α

/-! ## Scalars -/

/-- Reads a string and checks it. -/
def readText {α : Type} (check : Text → Except ExistingFieldError α) : FieldReader α :=
  fun json => do
  let value ← readString json
  (check value).mapError .custom

/-- Reads `null`, or a string and checks it. -/
def readOptionalText (check : Text → Except ExistingFieldError Text) : FieldReader (Option Text) :=
  fun json => do
    let value ← readOption readString json
    (readOptional check value).mapError .custom

/-- Reads a status.
Source: `audit.rs` `deserialize_existing_status` -/
def readExistingStatus : FieldReader StatusCode := fun json => do
  let value ← readUnsigned 65535 json
  (deserializeExistingStatus value).mapError .custom

/-- Validates the existing audit timestamp.
Source: `audit.rs` `deserialize_existing_timestamp` -/
def deserializeExistingTimestamp (time : Humantime) (value : Text) :
    Except ExistingFieldError Text :=
  match time.parseRfc3339 value with
  | none => .error (.invalidValue "an RFC 3339 timestamp")
  | some instant =>
      if value = time.formatRfc3339Nanos instant then .ok value
      else .error (.invalidValue "an RFC 3339 timestamp in audit nanosecond format")

/-- Validates the existing audit upstream origin.
Source: `audit.rs` `deserialize_existing_upstream_origin` -/
def deserializeExistingUpstreamOrigin (X : Crates) (value : Text) :
    Except ExistingFieldError UpstreamOrigin :=
  (UpstreamOrigin.parse X value).mapError fun _ => .invalidValue "a supported upstream origin"

/-- Reads the schema version.
Source: `audit.rs` `deserialize_existing_version` -/
def readExistingVersion : FieldReader AuditSchemaVersion := fun json => do
  let value ← readUnsigned 255 json
  if value = AuditSchemaVersion.asU8 then return .current
  else .error (.custom (.invalidValue "the current audit schema version"))

/-- Reads a non-zero number (`NonZeroU64`). -/
def readNonZeroU64 : FieldReader NonZeroU64 := fun json => do
  let value ← readUnsigned u64Max json
  match nonZeroU64 value with
  | some number => return number
  | none => .error (.custom (.invalidValue "a nonzero u64"))

/-! ## Enums -/

/-- The variant of a decision.
Source: `audit.rs` `ExistingAuditDecision` (`rename_all = "snake_case"`) -/
def ExistingAuditDecision.ofName : String → Option ExistingAuditDecision
  | "allowed" => some .allowed
  | "denied" => some .denied
  | "response_error" => some .responseError
  | "upstream_error" => some .upstreamError
  | _ => none

/-- Reads a decision. -/
def ExistingAuditDecision.deserialize : FieldReader ExistingAuditDecision :=
  readUnitVariant fun name => ofName (String.ofList name)

/-- Reads an error class. -/
def ExistingAuditErrorClass.deserialize : FieldReader ExistingAuditErrorClass :=
  readUnitVariant fun name => (ofName (String.ofList name)).toOption

/-- The variants of a body summary. -/
inductive SummaryState where
  | empty
  | nonEmpty
  | notObserved

/-- The variant of a body summary.
Source: `audit.rs` `ExistingAuditBodySummary` (`tag = "state"`, `rename_all = "snake_case"`) -/
def SummaryState.ofName : String → Option SummaryState
  | "empty" => some .empty
  | "non_empty" => some .nonEmpty
  | "not_observed" => some .notObserved
  | _ => none

/-- The fields of a non-empty summary. -/
inductive NonEmptyField where
  | blake3
  | bytes
  deriving DecidableEq

/-- The type of a field. -/
abbrev NonEmptyField.Value : NonEmptyField → Type
  | blake3 => Text
  | bytes => NonZeroU64

/-- The struct variant of a non-empty summary.
Source: `audit.rs` `ExistingAuditBodySummary::NonEmpty` -/
def nonEmptyVisitor : StructVisitor ExistingFieldError NonEmptyField.Value where
  fields := [.blake3, .bytes]
  complete := by rintro (_ | _) <;> decide
  name
    | .blake3 => "blake3".toList
    | .bytes => "bytes".toList
  distinct := by decide
  read
    | .blake3 => readText deserializeBlake3Hex
    | .bytes => readNonZeroU64
  missing
    | .blake3 => none
    | .bytes => none

/-- Reads a body summary.
Source: `audit.rs` `ExistingAuditBodySummary` -/
def ExistingAuditBodySummary.deserialize : FieldReader ExistingAuditBodySummary := fun json => do
  let (state, rest) ←
    readTagged "state".toList (fun name => SummaryState.ofName (String.ofList name)) json
  match state with
  | .empty => do
      readUnit rest
      return .empty
  | .nonEmpty => do
      let record ← nonEmptyVisitor.visit rest
      return .nonEmpty (record .blake3) (record .bytes)
  | .notObserved => do
      readUnit rest
      return .notObserved

/-! ## Events -/

/-- The fields of an event. -/
inductive WireField where
  | decision
  | errorClass
  | method
  | path
  | query
  | requestBody
  | requestId
  | responseBody
  | status
  | timestamp
  | upstreamOrigin
  | upstreamPath
  | upstreamQuery
  | version
  deriving DecidableEq

namespace WireField

/-- The type of a field. -/
abbrev Value : WireField → Type
  | decision => ExistingAuditDecision
  | errorClass => Option ExistingAuditErrorClass
  | method | path | requestId | timestamp => Text
  | query | upstreamPath | upstreamQuery => Option Text
  | requestBody | responseBody => ExistingAuditBodySummary
  | status => StatusCode
  | upstreamOrigin => UpstreamOrigin
  | version => AuditSchemaVersion

/-- The key of a field. -/
def name : WireField → Text
  | decision => "decision".toList
  | errorClass => "error_class".toList
  | method => "method".toList
  | path => "path".toList
  | query => "query".toList
  | requestBody => "request_body".toList
  | requestId => "request_id".toList
  | responseBody => "response_body".toList
  | status => "status".toList
  | timestamp => "timestamp".toList
  | upstreamOrigin => "upstream_origin".toList
  | upstreamPath => "upstream_path".toList
  | upstreamQuery => "upstream_query".toList
  | version => "version".toList

/-- The deserializer of a field. -/
def read (X : Crates) (time : Humantime) : (f : WireField) → FieldReader f.Value
  | decision => ExistingAuditDecision.deserialize
  | errorClass => readOption ExistingAuditErrorClass.deserialize
  | method => readText deserializeExistingMethod
  | path => readText deserializeExistingPath
  | query => readOptionalText fun value =>
      deserializeExistingStringBounded value maxAuditTargetQueryBytes "audit query"
  | requestBody => ExistingAuditBodySummary.deserialize
  | requestId => readText deserializeExistingRequestId
  | responseBody => ExistingAuditBodySummary.deserialize
  | status => readExistingStatus
  | timestamp => readText (deserializeExistingTimestamp time)
  | upstreamOrigin => readText (deserializeExistingUpstreamOrigin X)
  | upstreamPath => readOptionalText deserializeExistingOriginPath
  | upstreamQuery => readOptionalText deserializeExistingOriginQuery
  | version => readExistingVersion

/-- What a missing field is (serde's `missing_field`, which reads an option as `None`, where there
is no `deserialize_with`). -/
def missing : (f : WireField) → Option f.Value
  | errorClass => some none
  | decision => none
  | method => none
  | path => none
  | query => none
  | requestBody => none
  | requestId => none
  | responseBody => none
  | status => none
  | timestamp => none
  | upstreamOrigin => none
  | upstreamPath => none
  | upstreamQuery => none
  | version => none

end WireField

/-- The visitor of an event.
Source: `audit.rs` `ExistingAuditEventWireFields` -/
def wireVisitor (X : Crates) (time : Humantime) :
    StructVisitor ExistingFieldError WireField.Value where
  fields := [.decision, .errorClass, .method, .path, .query, .requestBody, .requestId,
    .responseBody, .status, .timestamp, .upstreamOrigin, .upstreamPath, .upstreamQuery, .version]
  complete := by rintro (_ | _) <;> decide
  name := WireField.name
  distinct := by decide
  read := WireField.read X time
  missing := WireField.missing

/-- The fields of an event, from what was read.
Source: `audit.rs` `Deserialize for ExistingAuditEventFields` -/
def ExistingAuditEventFields.ofRecord (record : (f : WireField) → f.Value) :
    ExistingAuditEventFields where
  decision := record .decision
  errorClass := record .errorClass
  method := record .method
  path := record .path
  query := record .query
  requestBody := record .requestBody
  requestId := record .requestId
  responseBody := record .responseBody
  status := record .status
  timestamp := record .timestamp
  upstreamOrigin := record .upstreamOrigin
  upstreamPath := record .upstreamPath
  upstreamQuery := record .upstreamQuery
  version := record .version

/-- Reads the fields of an event.
Source: `audit.rs` `Deserialize for ExistingAuditEventFields` -/
def ExistingAuditEventFields.deserialize (X : Crates) (time : Humantime) :
    FieldReader ExistingAuditEventFields := fun json =>
  ((wireVisitor X time).visit json).map ofRecord

/-- Reads an event and validates it; `none` where the validation panics.
Source: `audit.rs` `ExistingAuditEvent` (`try_from = "ExistingAuditEventFields"`) -/
def ExistingAuditEventFields.deserializeValid (X : Crates) (time : Humantime) (json : Json) :
    Option (Except (ReadError ExistingFieldError) ExistingAuditEventFields) :=
  match deserialize X time json with
  | .error error => some (.error error)
  | .ok fields =>
      match fields.validate X with
      | none => none
      | some (.error message) => some (.error (.custom (.custom message)))
      | some (.ok ()) => some (.ok fields)

/-! ## Reading a written event back -/

/-- What stands for a field in the JSON of an event. -/
def AuditEvent.entry (event : AuditEvent) : WireField → Json
  | .decision => .string event.decision.name
  | .errorClass => optionalText (event.errorClass.map String.toList)
  | .method => .string event.method.value
  | .path => .string event.path
  | .query => optionalText event.query
  | .requestBody => event.requestBody.json
  | .requestId => .string event.requestId.display
  | .responseBody => event.responseBody.json
  | .status => .number (.natural event.status.code)
  | .timestamp => .string event.timestamp.text
  | .upstreamOrigin => .string event.upstreamOrigin
  | .upstreamPath => optionalText event.upstreamPath
  | .upstreamQuery => optionalText event.upstreamQuery
  | .version => .number (.natural AuditSchemaVersion.asU8)

/-- The fields by their names. -/
def ExistingAuditEventFields.record (fields : ExistingAuditEventFields) : (f : WireField) → f.Value
  | .decision => fields.decision
  | .errorClass => fields.errorClass
  | .method => fields.method
  | .path => fields.path
  | .query => fields.query
  | .requestBody => fields.requestBody
  | .requestId => fields.requestId
  | .responseBody => fields.responseBody
  | .status => fields.status
  | .timestamp => fields.timestamp
  | .upstreamOrigin => fields.upstreamOrigin
  | .upstreamPath => fields.upstreamPath
  | .upstreamQuery => fields.upstreamQuery
  | .version => fields.version

/-- A string that passes its check is read as text. -/
lemma readText_string {α : Type} {check : Text → Except ExistingFieldError α} {value : Text} {a : α}
    (h : check value = .ok a) : readText check (.string value) = .ok a := by
  change (check value).mapError ReadError.custom = .ok a
  rw [h]
  rfl

/-- Optional text that passes its check is read back. -/
lemma readOptionalText_optionalText {check : Text → Except ExistingFieldError Text}
    {value a : Option Text} (h : readOptional check value = .ok a) :
    readOptionalText check (optionalText value) = .ok a := by
  cases value with
  | none =>
      cases h
      rfl
  | some value =>
      change (readOptional check (some value)).mapError ReadError.custom = .ok a
      rw [h]
      rfl

/-- The name of a decision is read as that decision. -/
lemma ExistingAuditDecision.deserialize_name (decision : AuditDecision) :
    deserialize (.string decision.name) = .ok (ofDecision decision) := by
  cases decision <;> rfl

/-- The name of an error class is read as that class. -/
lemma ExistingAuditErrorClass.deserialize_optionalText {name : Option String}
    {errorClass : Option ExistingAuditErrorClass} (h : readOptional ofName name = .ok errorClass) :
    readOption deserialize (optionalText (name.map String.toList)) = .ok errorClass := by
  cases name with
  | none =>
      cases h
      rfl
  | some name =>
      rw [readOptional] at h
      rcases hname : ofName name with error | read
      · rw [hname] at h
        cases h
      · rw [hname] at h
        cases h
        change (deserialize (.string name.toList)).map some = _
        rw [deserialize, readUnitVariant, readVariant, String.ofList_toList, hname]
        rfl

/-- What stands for a field in the JSON of a non-empty summary. -/
def NonEmptyField.entry (blake3 : Text) (bytes : NonZeroU64) : NonEmptyField → Json
  | .blake3 => .string blake3
  | .bytes => .number (.natural bytes.get)

/-- The fields of a non-empty summary by their names. -/
def NonEmptyField.record (digest : Text) (bytes : NonZeroU64) : (f : NonEmptyField) → f.Value
  | .blake3 => digest
  | .bytes => bytes

/-- A number within the bound is read back. -/
lemma readUnsigned_of_le {n max : Nat} (h : n ≤ max) :
    readUnsigned (ε := ExistingFieldError) max (.number (.natural n)) = .ok n := if_pos h

/-- A non-zero number is read back. -/
lemma readNonZeroU64_natural (number : NonZeroU64) :
    readNonZeroU64 (.number (.natural number.get)) = .ok number := by
  have hnumber : nonZeroU64 number.get = some number :=
    nonZeroU64_of_pos number.nonZero number.bounded
  unfold readNonZeroU64
  rw [readUnsigned_of_le number.bounded]
  simp only [bind, Except.bind, hnumber]
  rfl

/-- The code of a status is read back. -/
lemma readExistingStatus_natural {code status : StatusCode}
    (h : deserializeExistingStatus code.code = .ok status) :
    readExistingStatus (.number (.natural code.code)) = .ok status := by
  have hmax : code.code ≤ 65535 := by
    have hcode := code.valid.2
    omega
  unfold readExistingStatus
  rw [readUnsigned_of_le hmax]
  change (deserializeExistingStatus code.code).mapError ReadError.custom = .ok status
  rw [h]
  rfl

/-- A body summary is read back. -/
lemma ExistingAuditBodySummary.deserialize_json {summary : AuditBodySummary}
    {body : ExistingAuditBodySummary} (h : read summary = .ok body) :
    deserialize summary.json = .ok body := by
  cases summary with
  | empty =>
      cases h
      rfl
  | nonEmpty blake3 bytes =>
      rw [read] at h
      rcases hdigest : deserializeBlake3Hex blake3.toHexString with error | digest
      · rw [hdigest] at h
        cases h
      · rw [hdigest] at h
        cases h
        have htag : readTagged (ε := ExistingFieldError) "state".toList
            (fun name => SummaryState.ofName (String.ofList name))
            (AuditBodySummary.nonEmpty blake3 bytes).json =
              .ok (.nonEmpty, .object (nonEmptyVisitor.fields.map fun f =>
                (nonEmptyVisitor.name f, f.entry blake3.toHexString bytes))) := rfl
        have hread : ∀ f, nonEmptyVisitor.read f (f.entry blake3.toHexString bytes) =
            .ok (f.record digest bytes) := by
          rintro (_ | _)
          · exact readText_string hdigest
          · exact readNonZeroU64_natural bytes
        have hvisit := StructVisitor.visitMap_of_describes
          (StructVisitor.describes_map (V := nonEmptyVisitor) hread)
        rw [deserialize, htag]
        change (nonEmptyVisitor.visitMap _ >>= fun record =>
          .ok (ExistingAuditBodySummary.nonEmpty (record .blake3) (record .bytes))) = _
        rw [hvisit]
        rfl
  | notObserved =>
      cases h
      rfl

/-- Every field of an event that was written is read back. -/
lemma AuditEvent.read_entry {X : Crates} {time : Humantime} {event : AuditEvent}
    {origin : UpstreamOrigin} {fields : ExistingAuditEventFields}
    (horigin : deserializeExistingUpstreamOrigin X event.upstreamOrigin = .ok origin)
    (htime : deserializeExistingTimestamp time event.timestamp.text = .ok event.timestamp.text)
    (hread : ExistingAuditEventFields.read event origin = .ok fields) (f : WireField) :
    f.read X time (event.entry f) = .ok (fields.record f) := by
  obtain ⟨errorClass, hclass, hread⟩ := exists_of_bind_eq_ok hread
  obtain ⟨method, hmethod, hread⟩ := exists_of_bind_eq_ok hread
  obtain ⟨path, hpath, hread⟩ := exists_of_bind_eq_ok hread
  obtain ⟨query, hquery, hread⟩ := exists_of_bind_eq_ok hread
  obtain ⟨requestBody, hrequest, hread⟩ := exists_of_bind_eq_ok hread
  obtain ⟨requestId, hid, hread⟩ := exists_of_bind_eq_ok hread
  obtain ⟨responseBody, hresponse, hread⟩ := exists_of_bind_eq_ok hread
  obtain ⟨status, hstatus, hread⟩ := exists_of_bind_eq_ok hread
  obtain ⟨upstreamPath, hupstream, hread⟩ := exists_of_bind_eq_ok hread
  obtain ⟨upstreamQuery, hqueries, hread⟩ := exists_of_bind_eq_ok hread
  rw [← Except.ok.inj hread]
  cases f with
  | decision => exact ExistingAuditDecision.deserialize_name event.decision
  | errorClass => exact ExistingAuditErrorClass.deserialize_optionalText hclass
  | method => exact readText_string hmethod
  | path => exact readText_string hpath
  | query => exact readOptionalText_optionalText hquery
  | requestBody => exact ExistingAuditBodySummary.deserialize_json hrequest
  | requestId => exact readText_string hid
  | responseBody => exact ExistingAuditBodySummary.deserialize_json hresponse
  | status => exact readExistingStatus_natural hstatus
  | timestamp => exact readText_string htime
  | upstreamOrigin => exact readText_string horigin
  | upstreamPath => exact readOptionalText_optionalText hupstream
  | upstreamQuery => exact readOptionalText_optionalText hqueries
  | version => rfl

/-- An object with an entry for every field is read as the fields. -/
lemma ExistingAuditEventFields.deserialize_map {X : Crates} {time : Humantime}
    {entry : WireField → Json} {fields : ExistingAuditEventFields}
    (h : ∀ f : WireField, f.read X time (entry f) = .ok (fields.record f)) :
    deserialize X time (.object
        ((wireVisitor X time).fields.map fun f => ((wireVisitor X time).name f, entry f))) =
      .ok fields := by
  have hvisit := StructVisitor.visitMap_of_describes
    (StructVisitor.describes_map (V := wireVisitor X time) h)
  rw [deserialize, StructVisitor.visit, hvisit]
  rfl

/-- An event that was written is read back as its fields. -/
theorem ExistingAuditEventFields.deserialize_json {X : Crates} {time : Humantime}
    {event : AuditEvent} {origin : UpstreamOrigin} {fields : ExistingAuditEventFields}
    (horigin : deserializeExistingUpstreamOrigin X event.upstreamOrigin = .ok origin)
    (htime : deserializeExistingTimestamp time event.timestamp.text = .ok event.timestamp.text)
    (hread : ExistingAuditEventFields.read event origin = .ok fields) :
    deserialize X time event.json = .ok fields :=
  deserialize_map (event.read_entry horigin htime hread)

end Custode
