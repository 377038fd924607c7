import Custode.Config

/-!
# Header filtering

`headers.rs`: the aggregate byte limit, the names listed by `Connection`, and what is forwarded in
each direction. A header function answers `none` where the source would panic in an `expect`;
`forwardRequestHeaders_ne_none` and `forwardResponseHeaders_ne_none` say that it never does.
-/

namespace Custode

open Found Found.Text

/-- Header handling error.
Source: `headers.rs` `HeaderError` -/
inductive HeaderError where
  | invalidConnectionHeader
  | tooLarge
  deriving DecidableEq

/-- Request headers proven safe for upstream forwarding.
Source: `headers.rs` `ForwardedRequestHeaders` -/
structure ForwardedRequestHeaders where
  headers : HeaderMap
  deriving DecidableEq

/-- Response headers proven safe for downstream forwarding.
Source: `headers.rs` `ForwardedResponseHeaders` -/
structure ForwardedResponseHeaders where
  headers : HeaderMap
  deriving DecidableEq

/-! ## The names listed by `Connection` -/

/-- The text of a visible-ASCII header value (`HeaderValue::to_str`). -/
def headerText (value : HeaderValue) : Option Text :=
  if value.all fun byte => (32 ≤ byte && byte < 127) || byte == 9 then
    some (value.map fun byte => Char.ofNat byte.toNat)
  else none

/-- Reads a header name, folding it to lower case (`HeaderName::from_bytes`). -/
def headerName (token : Text) : Option HeaderName :=
  if isToken token ∧ byteLen token ≤ 65535 then some (token.map Char.toLower) else none

/-- Strips leading and trailing blanks of visible-ASCII text (`str::trim`). -/
def trimBlanks (text : Text) : Text :=
  let blank := fun c => c == ' ' || c == '\t'
  ((text.dropWhile blank).reverse.dropWhile blank).reverse

/-- The names in the comma-separated tokens of one `Connection` value. -/
def connectionTokenNames : List Text → Except HeaderError (List HeaderName)
  | [] => .ok []
  | rawToken :: rawTokens => do
      let name ← ((headerName (trimBlanks rawToken)).elim
        (.error .invalidConnectionHeader) .ok : Except HeaderError HeaderName)
      let names ← connectionTokenNames rawTokens
      return name :: names

/-- The dynamic header names listed by `Connection`. A blank token is no header name, so the
source's check for it is part of `headerName`.
Source: `headers.rs` `connection_header_names` -/
def connectionHeaderNames : HeaderMap → Except HeaderError (List HeaderName)
  | [] => .ok []
  | (name, value) :: headers =>
      if name = "connection".toList then do
        let text ← ((headerText value).elim (.error .invalidConnectionHeader) .ok :
          Except HeaderError Text)
        let listed ← connectionTokenNames (text.splitOn ',')
        let names ← connectionHeaderNames headers
        return listed ++ names
      else connectionHeaderNames headers

/-! ## The byte limit -/

/-- The remaining byte budget for a valid running header total.
Source: `headers.rs` `remaining_header_bytes` -/
def remainingHeaderBytes (bytes max : Nat) : Option Nat :=
  if bytes ≤ max then some (max - bytes) else none

/-- Adds two header byte counts after the caller proves the sum fits.
Source: `headers.rs` `checked_header_bytes` -/
def checkedHeaderBytes (bytes amount : Nat) : Option Nat :=
  if bytes + amount ≤ usizeMax then some (bytes + amount) else none

/-- Adds bytes after proving the configured aggregate bound still has room.
Source: `headers.rs` `add_header_bytes` -/
def addHeaderBytes (bytes amount max : Nat) : Option (Except HeaderError Nat) := do
  let remaining ← remainingHeaderBytes bytes max
  if remaining < amount then return .error .tooLarge
  let total ← checkedHeaderBytes bytes amount
  return .ok total

/-- The loop of `enforceHeaderLimit`, over the byte counts of names and values in turn. -/
def addAllHeaderBytes (max bytes : Nat) : List Nat → Option (Except HeaderError Unit)
  | [] => some (.ok ())
  | amount :: amounts =>
      match addHeaderBytes bytes amount max with
      | none => none
      | some (.error error) => some (.error error)
      | some (.ok total) => addAllHeaderBytes max total amounts

/-- Enforces the configured aggregate header byte limit.
Source: `headers.rs` `enforce_header_limit` -/
def enforceHeaderLimit (headers : HeaderMap) (maxHeaderBytes : Nat) :
    Option (Except HeaderError Unit) :=
  addAllHeaderBytes maxHeaderBytes 0
    (headers.flatMap fun header => [byteLen header.1, header.2.length])

/-! ## Filtering -/

/-- The header is an HTTP standard hop-by-hop header.
Source: `headers.rs` `is_standard_hop_by_hop` -/
def isStandardHopByHop (name : HeaderName) : Bool :=
  ["connection", "keep-alive", "proxy-authenticate", "proxy-authorization", "proxy-connection",
    "te", "trailer", "transfer-encoding", "upgrade"].any fun standard => name == standard.toList

/-- The header is hop-by-hop or named by `Connection`.
Source: `headers.rs` `is_hop_by_hop` -/
def isHopByHop (name : HeaderName) (connectionHeaders : List HeaderName) : Bool :=
  isStandardHopByHop name || connectionHeaders.contains name

/-- A request header is safe to forward upstream.
Source: `headers.rs` `request_header_is_forwarded` -/
def requestHeaderIsForwarded (name : HeaderName) (connectionHeaders : List HeaderName) : Bool :=
  !isHopByHop name connectionHeaders && name != "host".toList && name != "content-length".toList

/-- A response header is safe to forward downstream.
Source: `headers.rs` `response_header_is_forwarded` -/
def responseHeaderIsForwarded (name : HeaderName) (connectionHeaders : List HeaderName) : Bool :=
  !isHopByHop name connectionHeaders && name != "content-length".toList

/-- The shared body of the two forwarding functions: the byte limit, then the listed names, then
the entries that `isForwarded` keeps, in order. -/
def forwardHeaders (isForwarded : HeaderName → List HeaderName → Bool) (incoming : HeaderMap)
    (maxHeaderBytes : Nat) : Option (Except HeaderError HeaderMap) :=
  match enforceHeaderLimit incoming maxHeaderBytes with
  | none => none
  | some (.error error) => some (.error error)
  | some (.ok ()) =>
      some ((connectionHeaderNames incoming).map fun connectionHeaders =>
        incoming.filter fun header => isForwarded header.1 connectionHeaders)

/-- Applies request header filtering before upstream forwarding.
Source: `headers.rs` `forward_request_headers` -/
def forwardRequestHeaders (incoming : HeaderMap) (maxHeaderBytes : RequestHeaderBytes) :
    Option (Except HeaderError ForwardedRequestHeaders) :=
  (forwardHeaders requestHeaderIsForwarded incoming maxHeaderBytes.get).map
    (Except.map fun headers => ⟨headers⟩)

/-- Applies response header filtering before returning to the harness.
Source: `headers.rs` `forward_response_headers` -/
def forwardResponseHeaders (incoming : HeaderMap) (maxHeaderBytes : ResponseHeaderBytes) :
    Option (Except HeaderError ForwardedResponseHeaders) :=
  (forwardHeaders responseHeaderIsForwarded incoming maxHeaderBytes.get).map
    (Except.map fun headers => ⟨headers⟩)

/-! ## The `expect`s are unreachable -/

/-- One addition within the limit: it stays within the limit, or it is refused. -/
lemma addHeaderBytes_of_le {bytes max : Nat} (hmax : max ≤ usizeMax) (h : bytes ≤ max)
    (amount : Nat) :
    (∃ total, addHeaderBytes bytes amount max = some (.ok total) ∧ total ≤ max) ∨
      addHeaderBytes bytes amount max = some (.error .tooLarge) := by
  rw [addHeaderBytes, remainingHeaderBytes, if_pos h]
  by_cases hfit : max - bytes < amount
  · exact .inr (if_pos hfit)
  · refine .inl ⟨bytes + amount, ?_, by omega⟩
    have hsum : bytes + amount ≤ usizeMax := by omega
    simp [hfit, checkedHeaderBytes, hsum]

/-- The running total never leaves the limit, so no step of the loop panics. -/
lemma addAllHeaderBytes_ne_none {max bytes : Nat} (hmax : max ≤ usizeMax) (h : bytes ≤ max)
    (amounts : List Nat) : addAllHeaderBytes max bytes amounts ≠ none := by
  induction amounts generalizing bytes with
  | nil => simp [addAllHeaderBytes]
  | cons amount amounts ih =>
      rw [addAllHeaderBytes]
      rcases addHeaderBytes_of_le hmax h amount with ⟨total, hadd, htotal⟩ | hadd
      · rw [hadd]
        exact ih htotal
      · rw [hadd]
        exact Option.some_ne_none _

/-- Forwarding headers does not panic within a limit that can be counted. -/
lemma forwardHeaders_ne_none {isForwarded : HeaderName → List HeaderName → Bool}
    {incoming : HeaderMap} {max : Nat} (hmax : max ≤ usizeMax) :
    forwardHeaders isForwarded incoming max ≠ none := by
  have h : enforceHeaderLimit incoming max ≠ none :=
    addAllHeaderBytes_ne_none hmax (Nat.zero_le max) _
  rw [forwardHeaders]
  split
  · exact absurd ‹_› h
  · exact Option.some_ne_none _
  · exact Option.some_ne_none _

/-- The limit of the request headers can be counted. -/
lemma maxRequestHeaderBytes_le : maxRequestHeaderBytes ≤ usizeMax := by decide

/-- The limit of the response headers can be counted. -/
lemma maxResponseHeaderBytes_le : maxResponseHeaderBytes ≤ usizeMax := by decide

/-- Request header filtering returns. -/
lemma forwardRequestHeaders_ne_none (incoming : HeaderMap) (max : RequestHeaderBytes) :
    forwardRequestHeaders incoming max ≠ none := by
  rw [forwardRequestHeaders, ne_eq, Option.map_eq_none_iff]
  exact forwardHeaders_ne_none (max.bounded.trans maxRequestHeaderBytes_le)

/-- Response header filtering returns. -/
lemma forwardResponseHeaders_ne_none (incoming : HeaderMap) (max : ResponseHeaderBytes) :
    forwardResponseHeaders incoming max ≠ none := by
  rw [forwardResponseHeaders, ne_eq, Option.map_eq_none_iff]
  exact forwardHeaders_ne_none (max.bounded.trans maxResponseHeaderBytes_le)

end Custode
