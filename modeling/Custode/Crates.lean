import Custode.Target.Segments

/-!
# What the gateway takes from other crates

The value types of the `http` and `url` crates that the gateway passes around, and the functions of
those crates that it calls. The values are plain data. The functions are the fields of `Crates`,
each with what the gateway relies on about it:

* `HttpUri` — `Uri::try_from`, with its parse rules for origin-form, asterisk-form, absolute-form
  and authority-form text;
* `UrlCrate` — `Url::set_path` and `Url::set_query` on an `http` or `https` URL;
* `Crates.blake3` — the BLAKE3 hash, of which nothing is assumed;
* `Crates.responseBuilds` — whether `http`'s response builder takes a status and header pairs.

The model is stated for every `Crates`. `Custode.Reference` is one.
-/

namespace Custode

open Found Found.Text

/-! ## Values of the `http` crate -/

/-- An HTTP status code (`http::StatusCode`). -/
structure StatusCode where
  code : Nat
  valid : 100 ≤ code ∧ code < 1000
  deriving DecidableEq

namespace StatusCode

/-- Reads a numeric status (`StatusCode::from_u16`). -/
def fromU16 (code : Nat) : Option StatusCode :=
  if valid : 100 ≤ code ∧ code < 1000 then some ⟨code, valid⟩ else none

def ok : StatusCode := ⟨200, by decide⟩
def badRequest : StatusCode := ⟨400, by decide⟩
def forbidden : StatusCode := ⟨403, by decide⟩
def methodNotAllowed : StatusCode := ⟨405, by decide⟩
def requestTimeout : StatusCode := ⟨408, by decide⟩
def payloadTooLarge : StatusCode := ⟨413, by decide⟩
def uriTooLong : StatusCode := ⟨414, by decide⟩
def tooManyRequests : StatusCode := ⟨429, by decide⟩
def requestHeaderFieldsTooLarge : StatusCode := ⟨431, by decide⟩
def internalServerError : StatusCode := ⟨500, by decide⟩
def badGateway : StatusCode := ⟨502, by decide⟩
def gatewayTimeout : StatusCode := ⟨504, by decide⟩

/-- A status is read back from its code. -/
@[simp] lemma fromU16_code (status : StatusCode) : fromU16 status.code = some status := by
  rw [fromU16, dif_pos status.valid]

end StatusCode

/-- A character of an HTTP token. -/
def isTokenChar (c : Char) : Bool :=
  c.isAlphanum || "!#$%&'*+-.^_|~".toList.contains c || c.toNat == 0x60

/-- A non-empty HTTP token. -/
def isToken (s : Text) : Bool := !s.isEmpty && s.all isTokenChar

/-- A token is a non-empty text of token characters. -/
lemma isToken_iff {s : Text} : isToken s = true ↔ s ≠ [] ∧ ∀ c ∈ s, isTokenChar c = true := by
  unfold isToken
  rw [Bool.and_eq_true, Bool.not_eq_true', List.isEmpty_eq_false_iff, List.all_eq_true]

/-- A token character is ASCII. -/
lemma utf8Size_of_isTokenChar {c : Char} (h : isTokenChar c) : c.utf8Size = 1 := by
  have hsmall : c.toNat ≤ 127 := by
    simp only [isTokenChar, Bool.or_eq_true, List.contains_iff_mem, beq_iff_eq] at h
    rcases h with (h | h) | h
    · have hranges : (decide (65 ≤ c.val ∧ c.val ≤ 90) ||
          (decide (97 ≤ c.val) && decide (c.val ≤ 122)) ||
          (decide (48 ≤ c.val) && decide (c.val ≤ 57))) = true := h
      simp only [Bool.or_eq_true, Bool.and_eq_true, decide_eq_true_eq, UInt32.le_iff_toNat_le]
        at hranges
      rcases hranges with (h | h) | h
      · exact le_trans h.2 (by decide)
      · exact le_trans h.2 (by decide)
      · exact le_trans h.2 (by decide)
    · have hall : ∀ c ∈ "!#$%&'*+-.^_|~".toList, c.toNat ≤ 127 := forall_mem_of_all (by decide)
      exact hall c h
    · omega
  rw [Char.utf8Size_eq_one_iff, UInt32.le_iff_toNat_le]
  exact hsmall

/-- An HTTP method (`http::Method`). -/
structure Method where
  text : Text
  token : isToken text = true
  fits : byteLen text ≤ isizeMax
  deriving DecidableEq

namespace Method

/-- Reads a method (`Method::from_bytes`). -/
def fromBytes (text : Text) : Option Method :=
  if h : isToken text = true ∧ byteLen text ≤ isizeMax then some ⟨text, h.1, h.2⟩ else none

/-- A method is read as its own text. -/
lemma text_of_fromBytes {text : Text} {method : Method} (h : fromBytes text = some method) :
    method.text = text := by
  unfold fromBytes at h
  split at h
  · cases h
    rfl
  · cases h

/-- `CONNECT` -/
def connect : Method := ⟨"CONNECT".toList, by decide, by decide⟩

/-- `GET` -/
def get : Method := ⟨"GET".toList, by decide, by decide⟩

/-- A method is made of token characters. -/
lemma isTokenChar_of_mem (method : Method) : ∀ c ∈ method.text, isTokenChar c = true :=
  (isToken_iff.mp method.token).2

/-- A method is ASCII. -/
lemma utf8Size_of_mem (method : Method) : ∀ c ∈ method.text, c.utf8Size = 1 :=
  fun c hc => utf8Size_of_isTokenChar (method.isTokenChar_of_mem c hc)

/-- A method holds no space. -/
lemma space_notMem (method : Method) : ' ' ∉ method.text :=
  fun hmem => absurd (method.isTokenChar_of_mem _ hmem) (by decide)

end Method

/-- The components of an HTTP URI. -/
structure UriParts where
  scheme : Option Text
  authority : Option Text
  path : Text
  query : Option Text
  deriving DecidableEq

/-- The part of a URI text in front of the query. -/
def UriParts.beforeQuery (uri : UriParts) : Text :=
  match uri.authority with
  | none => uri.path
  | some authority =>
      match uri.scheme with
      | none => authority ++ uri.path
      | some scheme => scheme ++ "://".toList ++ authority ++ uri.path

/-- The URI text. -/
def UriParts.text (uri : UriParts) : Text :=
  uri.beforeQuery ++ (uri.query.map fun query => '?' :: query).getD []

/-- An HTTP URI (`http::Uri`). -/
structure Uri extends UriParts where
  fits : byteLen toUriParts.text ≤ isizeMax

/-- A header name, in lower case (`http::HeaderName`). -/
abbrev HeaderName := Text

/-- A header value (`http::HeaderValue`). -/
abbrev HeaderValue := List UInt8

/-- The entries of a header map in iteration order (`http::HeaderMap`). -/
abbrev HeaderMap := List (HeaderName × HeaderValue)

/-- Bytes in memory (`bytes::Bytes`, `Vec<u8>`). -/
structure Bytes where
  data : List UInt8
  fits : data.length ≤ isizeMax
  deriving DecidableEq

/-- The largest `u64`. -/
def u64Max : Nat := 2 ^ 64 - 1

/-- A non-zero `u64` (`NonZeroU64`). -/
structure NonZeroU64 where
  get : Nat
  nonZero : 0 < get
  bounded : get ≤ u64Max
  deriving DecidableEq

/-! ## `http::Uri` parsing -/

/-- A character that ends an authority. -/
def isAuthorityEnd (c : Char) : Bool := c == '/' || c == '?' || c == '#'

/-- `Uri::try_from` with its parse rules. -/
structure HttpUri where
  /-- Parses a URI text (`Uri::try_from`). -/
  tryFrom : Text → Option UriParts
  /-- The text is a scheme. -/
  schemeOk : Text → Bool
  /-- The text is an authority. -/
  authorityOk : Text → Bool
  /-- The character may stand in a path. -/
  pathChar : Char → Bool
  /-- The character may stand in a query. -/
  queryChar : Char → Bool
  /-- A scheme is short ASCII text without `:`. -/
  scheme_short : ∀ scheme, schemeOk scheme = true → byteLen scheme ≤ 64 ∧
    ∀ c ∈ scheme, c.utf8Size = 1 ∧ c ≠ ':' ∧ c ≠ '#' ∧ c ≠ ' '
  /-- An authority is non-empty ASCII text without the delimiters that end it. -/
  authority_chars : ∀ authority, authorityOk authority = true → authority ≠ [] ∧
    ∀ c ∈ authority, c.utf8Size = 1 ∧ isAuthorityEnd c = false ∧ c ≠ ' '
  /-- A path has no query or fragment delimiter and no space. -/
  path_chars : ∀ c, pathChar c = true → c ≠ '?' ∧ c ≠ '#' ∧ c ≠ ' '
  /-- A query has no fragment delimiter and no space. -/
  query_chars : ∀ c, queryChar c = true → c ≠ '#' ∧ c ≠ ' '
  /-- A space is not a URI character. A fragment is dropped unread, so it may hold one. -/
  no_space : ∀ text, ' ' ∈ text → '#' ∉ text → tryFrom text = none
  /-- The empty text is not a URI. -/
  empty : tryFrom [] = none
  /-- Text that starts with `/` is origin-form. -/
  origin_form : ∀ text uri, tryFrom ('/' :: text) = some uri → uri.authority = none
  /-- `*` is asterisk-form, and takes no query. -/
  asterisk_form : ∀ uri, tryFrom ['*'] = some uri → uri.authority = none
  /-- `*` takes no query. -/
  asterisk_query : ∀ text, tryFrom ('*' :: '?' :: text) = none
  /-- Absolute-form text of at most 65534 bytes has an authority iff what stands between `://` and
  the next delimiter is one. -/
  absolute_form : ∀ scheme authority path query, schemeOk scheme = true →
    (∀ c ∈ authority, isAuthorityEnd c = false) → (path = [] ∨ ['/'] <+: path) →
    path.all pathChar = true → (∀ q ∈ query, q.all queryChar = true) →
    byteLen (UriParts.text ⟨some scheme, some authority, path, query⟩) ≤ 65534 →
    ((∃ uri, tryFrom (UriParts.text ⟨some scheme, some authority, path, query⟩) = some uri ∧
      uri.authority.isSome) ↔ authorityOk authority = true)
  /-- Text of at most 65534 bytes without delimiters, other than `*`, is authority-form iff it is
  an authority. -/
  authority_form : ∀ authority, (∀ c ∈ authority, isAuthorityEnd c = false) → authority ≠ ['*'] →
    byteLen authority ≤ 65534 →
    ((∃ uri, tryFrom authority = some uri ∧ uri.authority.isSome) ↔ authorityOk authority = true)

/-- The text parses as a URI that has an authority. -/
def HttpUri.hasAuthority (http : HttpUri) (text : Text) : Bool :=
  (http.tryFrom text).any fun uri => uri.authority.isSome

/-- What `hasAuthority` says of the parser's answer. -/
lemma HttpUri.hasAuthority_iff (http : HttpUri) (text : Text) :
    http.hasAuthority text = true ↔ ∃ uri, http.tryFrom text = some uri ∧ uri.authority.isSome := by
  rw [HttpUri.hasAuthority, Option.any_eq_true]

/-- Text with a space and no fragment has no authority. -/
lemma HttpUri.hasAuthority_of_space (http : HttpUri) {text : Text} (hspace : ' ' ∈ text)
    (hfragment : '#' ∉ text) : http.hasAuthority text = false := by
  rw [HttpUri.hasAuthority, http.no_space text hspace hfragment]
  rfl

/-- A URI with an authority that `Uri::try_from` reads from absolute-form or authority-form
text. -/
structure HttpUri.Admits (http : HttpUri) (uri : UriParts) (authority : Text) : Prop where
  /-- The URI has this authority. -/
  has : uri.authority = some authority
  /-- It is one. -/
  ok : http.authorityOk authority = true
  /-- Absolute-form text has a scheme and a path from `/`. -/
  absolute : ∀ scheme, uri.scheme = some scheme →
    http.schemeOk scheme = true ∧ ['/'] <+: uri.path
  /-- Authority-form text is the authority alone; `*` is not authority-form. -/
  bare : uri.scheme = none → uri.path = [] ∧ uri.query = none ∧ authority ≠ ['*']
  /-- The path is made of path characters. -/
  path : uri.path.all http.pathChar = true
  /-- The query is made of query characters. -/
  query : ∀ q ∈ uri.query, q.all http.queryChar = true

/-! ## The `url` crate -/

/-- A parsed URL (`url::Url`). -/
structure Url where
  scheme : Text
  username : Text
  password : Option Text
  host : Option Text
  port : Option Nat
  path : Text
  query : Option Text
  fragment : Option Text
  deriving DecidableEq

/-- The URL has the scheme `http` or `https`. -/
def Url.isHttp (url : Url) : Bool := url.scheme == "http".toList || url.scheme == "https".toList

/-- The functions of the `url` crate. -/
structure UrlCrate where
  /-- Parses a URL text (`Url::parse`). -/
  parse : Text → Option Url
  /-- Serialises a URL (`Url::as_str`). -/
  asStr : Url → Text
  /-- Replaces the path (`Url::set_path`). -/
  setPath : Url → Text → Url
  /-- Replaces the query (`Url::set_query`). -/
  setQuery : Url → Option Text → Url
  /-- On an HTTP URL an accepted path goes through the path states of the URL parser. -/
  set_path : ∀ url path, url.isHttp = true → pathError path = none →
    setPath url path = { url with path := UrlPath.parse path }
  /-- The query can be removed. -/
  set_no_query : ∀ url, setQuery url none = { url with query := none }
  /-- On an HTTP URL an accepted query is percent-encoded with the special-query set. -/
  set_query : ∀ url query, url.isHttp = true → queryError query = none →
    setQuery url (some query) =
      { url with query := some (Percent.encode Percent.specialQuerySet query) }

/-- On an HTTP URL an accepted path is kept byte for byte. -/
lemma UrlCrate.setPath_accepted (X : UrlCrate) {url : Url} (h : url.isHttp = true)
    (path : OriginFormPath) : X.setPath url path.value = { url with path := path.value } := by
  rw [X.set_path url path.value h path.accepted, path.parse_value]

/-! ## The bundle -/

/-- A BLAKE3 digest (`blake3::Hash`). -/
structure Hash where
  /-- The digest bytes. -/
  bytes : List UInt8
  /-- A digest has 32 bytes. -/
  size : bytes.length = 32
  deriving DecidableEq

/-- The functions of other crates that the gateway calls. -/
structure Crates where
  /-- `http::Uri` parsing. -/
  http : HttpUri
  /-- The `url` crate. -/
  url : UrlCrate
  /-- The BLAKE3 hash of a byte string (`blake3::hash`). -/
  blake3 : List UInt8 → Hash
  /-- `http`'s response builder takes this status and these header pairs. -/
  responseBuilds : StatusCode → HeaderMap → Bool

end Custode
