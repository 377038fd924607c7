import Custode.Found.Utf8

/-!
# Request target parsing

The origin-form parsers of `target.rs`. A path or query is accepted by the first-error checks
`pathError` and `queryError`, made in the order of the source; `OriginFormPath` and
`OriginFormQuery` carry a text together with the fact that its checks passed, so a value of these
types is an accepted one. `OriginFormPath.parse` and `OriginFormQuery.parse` are the only way in
(`parse_value`).

The scanners run over UTF-8 bytes, as in the source: escapes are consumed three bytes at a time.
-/

namespace Custode

open Found Found.Text

/-- Maximum accepted origin-form request path bytes.
Source: `target.rs` `MAX_ORIGIN_FORM_PATH_BYTES` -/
def maxOriginFormPathBytes : Nat := 4096

/-- Maximum accepted origin-form request query bytes.
Source: `target.rs` `MAX_ORIGIN_FORM_QUERY_BYTES` -/
def maxOriginFormQueryBytes : Nat := 8192

/-! ## Bytes -/

/-- Decodes one ASCII hex digit.
Source: `target.rs` `hex_value` -/
def hexValue (byte : UInt8) : Option UInt8 :=
  if '0'.toUInt8 ≤ byte ∧ byte ≤ '9'.toUInt8 then some (byte - '0'.toUInt8)
  else if 'A'.toUInt8 ≤ byte ∧ byte ≤ 'F'.toUInt8 then some (byte - 'A'.toUInt8 + 10)
  else if 'a'.toUInt8 ≤ byte ∧ byte ≤ 'f'.toUInt8 then some (byte - 'a'.toUInt8 + 10)
  else none

/-- An ASCII hex digit (`u8::is_ascii_hexdigit`). -/
def isAsciiHexdigit (byte : UInt8) : Bool := (hexValue byte).isSome

/-- Decodes two ASCII hex digits into one byte.
Source: `target.rs` `decode_hex_pair` -/
def decodeHexPair (first second : UInt8) : Option UInt8 := do
  let high ← hexValue first
  let low ← hexValue second
  some ((high <<< 4) + low)

/-- The byte is valid raw origin-form path-or-query text.
Source: `target.rs` `is_origin_form_text_byte` -/
def isOriginFormTextByte (byte : UInt8) : Bool :=
  ('A'.toUInt8 ≤ byte && byte ≤ 'Z'.toUInt8)
    || ('a'.toUInt8 ≤ byte && byte ≤ 'z'.toUInt8)
    || ('0'.toUInt8 ≤ byte && byte ≤ '9'.toUInt8)
    || ("-._~!$&'()*+,;=:@/%".toList.map Char.toUInt8).contains byte

/-- The byte is valid raw origin-form path text.
Source: `target.rs` `is_origin_form_path_byte` -/
def isOriginFormPathByte (byte : UInt8) : Bool :=
  isOriginFormTextByte byte || byte == '\\'.toUInt8

/-- The byte is valid raw origin-form query text.
Source: `target.rs` `is_origin_form_query_byte` -/
def isOriginFormQueryByte (byte : UInt8) : Bool :=
  isOriginFormTextByte byte || byte == '?'.toUInt8

/-! ## Scanners -/

/-- The loop of `hasValidPercentEncoding`. -/
def scanPercentEncoding : List UInt8 → Bool
  | [] => true
  | byte :: bytes =>
      if byte = '%'.toUInt8 then
        match bytes with
        | first :: second :: rest =>
            if !isAsciiHexdigit first || !isAsciiHexdigit second then false
            else scanPercentEncoding rest
        | _ => false
      else scanPercentEncoding bytes

/-- All percent escape sequences have two hex digits.
Source: `target.rs` `has_valid_percent_encoding` -/
def hasValidPercentEncoding (value : Text) : Bool := scanPercentEncoding (bytes value)

/-- Decoded dot-segment recognition state.
Source: `target.rs` `DotSegmentState` -/
inductive DotSegmentState where
  | empty
  | oneDot
  | tooLong
  | twoDots
  deriving DecidableEq

/-- Advances the state after decoding one dot byte.
Source: `target.rs` `DotSegmentState::accept_dot` -/
def DotSegmentState.acceptDot : DotSegmentState → DotSegmentState
  | .empty => .oneDot
  | .oneDot => .twoDots
  | .tooLong | .twoDots => .tooLong

/-- The state is a forbidden dot segment.
Source: `target.rs` `DotSegmentState::is_rejected` -/
def DotSegmentState.isRejected : DotSegmentState → Bool
  | .oneDot | .twoDots => true
  | .empty | .tooLong => false

/-- The loop of `segmentIsDotSegment`. -/
def scanDotSegment (state : DotSegmentState) : List UInt8 → Bool
  | [] => state.isRejected
  | byte :: bytes =>
      if byte = '%'.toUInt8 then
        match bytes with
        | first :: second :: rest =>
            match decodeHexPair first second with
            | none => false
            | some decoded =>
                if decoded ≠ '.'.toUInt8 then false
                else if state.acceptDot = .tooLong then false
                else scanDotSegment state.acceptDot rest
        | _ => false
      else if byte ≠ '.'.toUInt8 then false
      else if state.acceptDot = .tooLong then false
      else scanDotSegment state.acceptDot bytes

/-- A path segment is a literal or percent-encoded dot segment.
Source: `target.rs` `segment_is_dot_segment` -/
def segmentIsDotSegment (segment : Text) : Bool := scanDotSegment .empty (bytes segment)

/-- Some path segment decodes exactly to `.` or `..`.
Source: `target.rs` `has_dot_segment` -/
def hasDotSegment (path : Text) : Bool := (path.splitOn '/').any segmentIsDotSegment

/-- Path text contains a delimiter that belongs outside the parsed path component.
Source: `target.rs` `has_path_component_delimiter` -/
def hasPathComponentDelimiter (path : Text) : Bool :=
  (bytes path).any fun byte => byte == '?'.toUInt8 || byte == '#'.toUInt8

/-- Query text contains a delimiter that belongs outside the parsed query component.
Source: `target.rs` `has_query_component_delimiter` -/
def hasQueryComponentDelimiter (query : Text) : Bool := (bytes query).contains '#'.toUInt8

/-- The loop of `hasForbiddenSeparator`. -/
def scanForbiddenSeparator : List UInt8 → Bool
  | [] => false
  | byte :: bytes =>
      if byte = '\\'.toUInt8 then true
      else if byte = '%'.toUInt8 then
        match bytes with
        | first :: second :: rest =>
            match decodeHexPair first second with
            | none => false
            | some decoded =>
                if decoded = '/'.toUInt8 ∨ decoded = '\\'.toUInt8 then true
                else scanForbiddenSeparator rest
        | _ => false
      else scanForbiddenSeparator bytes

/-- Path text includes a separator spelling that would change segment structure during upstream
URL construction.
Source: `target.rs` `has_forbidden_separator` -/
def hasForbiddenSeparator (path : Text) : Bool := scanForbiddenSeparator (bytes path)

/-- Raw path text cannot occur in an HTTP request-target.
Source: `target.rs` `has_invalid_path_character` -/
def hasInvalidPathCharacter (path : Text) : Bool :=
  (bytes path).any fun byte => !isOriginFormPathByte byte

/-- Raw query text cannot occur in an HTTP request-target.
Source: `target.rs` `has_invalid_query_character` -/
def hasInvalidQueryCharacter (query : Text) : Bool :=
  (bytes query).any fun byte => !isOriginFormQueryByte byte

/-! ## The parsers -/

/-- Origin-form path parsing error.
Source: `target.rs` `OriginFormPathError` -/
inductive OriginFormPathError where
  | dotSegment
  | encodedSeparator
  | invalidPercentEncoding
  | invalidRequestTargetCharacter
  | nonOriginForm
  | tooLong
  deriving DecidableEq

/-- Origin-form query parsing error.
Source: `target.rs` `OriginFormQueryError` -/
inductive OriginFormQueryError where
  | fragmentDelimiter
  | invalidPercentEncoding
  | invalidRequestTargetCharacter
  | tooLong
  deriving DecidableEq

/-- The first check of `OriginFormPath::parse` that a path fails.
Source: `target.rs` `OriginFormPath::parse` -/
def pathError (path : Text) : Option OriginFormPathError :=
  if maxOriginFormPathBytes < byteLen path then some .tooLong
  else if ¬ ['/'] <+: path then some .nonOriginForm
  else if ['/', '/'] <+: path then some .nonOriginForm
  else if hasPathComponentDelimiter path then some .nonOriginForm
  else if hasInvalidPathCharacter path then some .invalidRequestTargetCharacter
  else if !hasValidPercentEncoding path then some .invalidPercentEncoding
  else if hasForbiddenSeparator path then some .encodedSeparator
  else if hasDotSegment path then some .dotSegment
  else none

/-- The first check of `OriginFormQuery::parse` that a query fails.
Source: `target.rs` `OriginFormQuery::parse` -/
def queryError (query : Text) : Option OriginFormQueryError :=
  if maxOriginFormQueryBytes < byteLen query then some .tooLong
  else if hasQueryComponentDelimiter query then some .fragmentDelimiter
  else if hasInvalidQueryCharacter query then some .invalidRequestTargetCharacter
  else if !hasValidPercentEncoding query then some .invalidPercentEncoding
  else none

/-- Origin-form request path accepted by the gateway.
Source: `target.rs` `OriginFormPath` -/
structure OriginFormPath where
  /-- Parsed origin-form path. -/
  value : Text
  /-- The path passed every check. -/
  accepted : pathError value = none
  deriving DecidableEq

/-- Origin-form request query accepted by the gateway.
Source: `target.rs` `OriginFormQuery` -/
structure OriginFormQuery where
  /-- Parsed query string without `?`. -/
  value : Text
  /-- The query passed every check. -/
  accepted : queryError value = none
  deriving DecidableEq

/-- Parses an origin-form path.
Source: `target.rs` `OriginFormPath::parse` -/
def OriginFormPath.parse (path : Text) : Except OriginFormPathError OriginFormPath :=
  match h : pathError path with
  | some error => .error error
  | none => .ok ⟨path, h⟩

/-- Parses an origin-form query string without `?`.
Source: `target.rs` `OriginFormQuery::parse` -/
def OriginFormQuery.parse (query : Text) : Except OriginFormQueryError OriginFormQuery :=
  match h : queryError query with
  | some error => .error error
  | none => .ok ⟨query, h⟩

/-- A path is accepted when it has no error. -/
lemma OriginFormPath.parse_eq_ok_iff {path : Text} {accepted : OriginFormPath} :
    OriginFormPath.parse path = .ok accepted ↔ pathError path = none ∧ accepted.value = path := by
  obtain ⟨value, hvalue⟩ := accepted
  unfold OriginFormPath.parse
  split
  · rename_i error herror
    simp [herror]
  · rename_i hnone
    simp [hnone, eq_comm]

/-- A path is refused with its error. -/
lemma OriginFormPath.parse_eq_error_iff {path : Text} {error : OriginFormPathError} :
    OriginFormPath.parse path = .error error ↔ pathError path = some error := by
  unfold OriginFormPath.parse
  split
  · rename_i error' herror
    simp [herror]
  · rename_i hnone
    simp [hnone]

/-- A path without an error is accepted. -/
lemma OriginFormPath.parse_eq_ok {path : Text} (h : pathError path = none) :
    OriginFormPath.parse path = .ok ⟨path, h⟩ :=
  OriginFormPath.parse_eq_ok_iff.mpr ⟨h, rfl⟩

/-- A query is accepted when it has no error. -/
lemma OriginFormQuery.parse_eq_ok_iff {query : Text} {accepted : OriginFormQuery} :
    OriginFormQuery.parse query = .ok accepted ↔
      queryError query = none ∧ accepted.value = query := by
  obtain ⟨value, hvalue⟩ := accepted
  unfold OriginFormQuery.parse
  split
  · rename_i error herror
    simp [herror]
  · rename_i hnone
    simp [hnone, eq_comm]

/-- A query is refused with its error. -/
lemma OriginFormQuery.parse_eq_error_iff {query : Text} {error : OriginFormQueryError} :
    OriginFormQuery.parse query = .error error ↔ queryError query = some error := by
  unfold OriginFormQuery.parse
  split
  · rename_i error' herror
    simp [herror]
  · rename_i hnone
    simp [hnone]

/-- A query without an error is accepted. -/
lemma OriginFormQuery.parse_eq_ok {query : Text} (h : queryError query = none) :
    OriginFormQuery.parse query = .ok ⟨query, h⟩ :=
  OriginFormQuery.parse_eq_ok_iff.mpr ⟨h, rfl⟩

/-! ## What an accepted text looks like -/

/-- A path is too long exactly when it exceeds the byte limit: it is the first check. -/
lemma pathError_eq_tooLong_iff {path : Text} :
    pathError path = some .tooLong ↔ maxOriginFormPathBytes < byteLen path := by
  unfold pathError
  constructor
  · intro h
    by_contra hlen
    rw [if_neg hlen] at h
    split_ifs at h <;> cases h
  · intro h
    rw [if_pos h]

/-- A query is too long exactly when it exceeds the byte limit: it is the first check. -/
lemma queryError_eq_tooLong_iff {query : Text} :
    queryError query = some .tooLong ↔ maxOriginFormQueryBytes < byteLen query := by
  unfold queryError
  constructor
  · intro h
    by_contra hlen
    rw [if_neg hlen] at h
    split_ifs at h <;> cases h
  · intro h
    rw [if_pos h]

/-- The conditions under which a query is accepted. -/
lemma queryError_eq_none_iff {query : Text} :
    queryError query = none ↔ byteLen query ≤ maxOriginFormQueryBytes ∧
      hasQueryComponentDelimiter query = false ∧ hasInvalidQueryCharacter query = false ∧
      hasValidPercentEncoding query = true := by
  unfold queryError
  split_ifs <;> grind

/-- An accepted path is within its bound. -/
lemma OriginFormPath.byteLen_le (path : OriginFormPath) :
    byteLen path.value ≤ maxOriginFormPathBytes := by
  by_contra h
  have := pathError_eq_tooLong_iff.mpr (not_le.mp h)
  rw [path.accepted] at this
  cases this

/-- An accepted query is within its bound. -/
lemma OriginFormQuery.byteLen_le (query : OriginFormQuery) :
    byteLen query.value ≤ maxOriginFormQueryBytes :=
  (queryError_eq_none_iff.mp query.accepted).1

/-- An accepted path starts with `/`. -/
lemma OriginFormPath.slash_prefix (path : OriginFormPath) : ['/'] <+: path.value := by
  by_contra h
  have hacc := path.accepted
  unfold pathError at hacc
  rw [if_pos h] at hacc
  split_ifs at hacc

end Custode
