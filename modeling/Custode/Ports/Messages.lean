import Custode.Found.Boundaries
import Custode.Ports

/-!
# Upstream error messages

The diagnostic messages of upstream errors (`ports.rs`), and the two adapters that make such errors
out of the HTTP client's (`adapters.rs`). A message is the client's text, or a fixed one for an
empty text, cut at 4096 bytes by `truncateUtf8`.

* `truncateUtf8_eq` — the cut keeps the longest fitting prefix, as `utf8Prefix` of `audit.rs` does,
  although one looks for the last offset within the limit and the other collects characters.
* `boundedMessage_eq` — the cut is made in the message or, if that is empty, in the fallback.
* `UpstreamErrorMessage.new_eq_none_iff` — the constructor returns unless both are empty, and none
  of the fallbacks is (`defaultUpstreamErrorMessage_ne_nil`,
  `defaultUpstreamBodyErrorMessage_ne_nil`).
* `truncations_agree` — the two truncations, the errors built with one and the audit text bounded
  with the other.

The string type of a message comes from the `non_empty_string` crate, a parameter here.
-/

namespace Custode

open Found Found.Text

/-! ## Bounded messages -/

/-- Maximum retained diagnostic bytes for upstream errors.
Source: `ports.rs` `MAX_UPSTREAM_ERROR_MESSAGE_BYTES` -/
def maxUpstreamErrorMessageBytes : Nat := 4096

/-- Truncates a string to a byte limit without splitting a UTF-8 code point.
Source: `ports.rs` `truncate_utf8` -/
def truncateUtf8 (message : Text) (maxBytes : Nat) : Option Text :=
  if byteLen message ≤ maxBytes then some message
  else do
    let stop ← (((charIndices message).map Prod.fst).takeWhile fun index =>
      decide (index ≤ maxBytes)).getLast?
    truncate message stop

/-- A bounded upstream error message.
Source: `ports.rs` `bounded_message` -/
def boundedMessage (message fallback : Text) : Option Text :=
  let message := if message = [] then message ++ fallback else message
  truncateUtf8 message maxUpstreamErrorMessageBytes

/-- Neither the `expect` nor the boundary check of the truncation fails. -/
lemma truncateUtf8_eq (message : Text) (maxBytes : Nat) :
    truncateUtf8 message maxBytes = some (takeBytes maxBytes message) := by
  unfold truncateUtf8
  by_cases hshort : byteLen message ≤ maxBytes
  · rw [if_pos hshort, takeBytes_of_le hshort]
  · rw [if_neg hshort, getLast?_takeWhile_charIndices (not_le.mp hshort), Option.bind_eq_bind,
      Option.bind_some]
    exact truncate_byteLen (takeBytes_isPrefix maxBytes message)

example : truncateUtf8 "xx€".toList 4 = some "xx".toList := by decide

/-- The text that is cut: the message, or its fallback. -/
def messageText (message fallback : Text) : Text := if message = [] then fallback else message

/-- A message is not empty when its fallback is not. -/
lemma messageText_ne_nil {message fallback : Text} (h : message ≠ [] ∨ fallback ≠ []) :
    messageText message fallback ≠ [] := by
  unfold messageText
  split
  · rename_i hempty
    exact h.resolve_left (not_not.mpr hempty)
  · assumption

/-- The message is the longest prefix that fits. -/
lemma boundedMessage_eq (message fallback : Text) :
    boundedMessage message fallback =
      some (takeBytes maxUpstreamErrorMessageBytes (messageText message fallback)) := by
  unfold boundedMessage messageText
  rw [truncateUtf8_eq]
  split
  · rename_i hempty
    rw [hempty, List.nil_append]
  · rfl

/-! ## Messages of errors -/

/-- The `non_empty_string` crate: its type, its constructor without the error, which nothing reads,
and the string that a value holds. -/
structure NonEmptyStringCrate where
  NonEmptyString : Type
  new : Text → Option NonEmptyString
  asStr : NonEmptyString → Text

/-- The crate as documented: a string is refused if it is empty and kept as it is otherwise. -/
structure NonEmptyStringCrate.Documented (N : NonEmptyStringCrate) : Prop where
  new_nil : N.new [] = none
  new_of_ne_nil : ∀ text, text ≠ [] → ∃ value, N.new text = some value ∧ N.asStr value = text

/-- Bounded non-empty upstream diagnostic message.
Source: `ports.rs` `UpstreamErrorMessage` -/
structure UpstreamErrorMessage (N : NonEmptyStringCrate) where
  value : N.NonEmptyString

variable {N : NonEmptyStringCrate}

namespace UpstreamErrorMessage

/-- Creates a bounded non-empty diagnostic message.
Source: `ports.rs` `UpstreamErrorMessage::new` -/
def new (N : NonEmptyStringCrate) (rawMessage fallback : Text) :
    Option (UpstreamErrorMessage N) := do
  let message ← boundedMessage rawMessage fallback
  let value ← N.new message
  return ⟨value⟩

/-- The message as it is printed.
Source: `ports.rs` `impl fmt::Display for UpstreamErrorMessage` -/
def display (message : UpstreamErrorMessage N) : Text := N.asStr message.value

/-- A message that keeps what `boundedMessage` makes of a text: not empty and within the bound. -/
structure Keeps (message : UpstreamErrorMessage N) (rawMessage fallback : Text) : Prop where
  kept : boundedMessage rawMessage fallback = some message.display
  nonEmpty : message.display ≠ []
  bounded : byteLen message.display ≤ maxUpstreamErrorMessageBytes

/-- The constructor returns if there is a text to keep. -/
lemma new_of_ne_nil (hN : N.Documented) (rawMessage : Text) {fallback : Text}
    (h : rawMessage ≠ [] ∨ fallback ≠ []) :
    ∃ message, new N rawMessage fallback = some message ∧ message.Keeps rawMessage fallback := by
  have hbounded := boundedMessage_eq rawMessage fallback
  have hne : takeBytes maxUpstreamErrorMessageBytes (messageText rawMessage fallback) ≠ [] :=
    takeBytes_ne_nil (by decide) (messageText_ne_nil h)
  obtain ⟨value, hvalue, htext⟩ := hN.new_of_ne_nil _ hne
  refine ⟨⟨value⟩, ?_, ?_⟩
  · simp only [new, hbounded, Option.bind_eq_bind, Option.bind_some, hvalue, Option.pure_def]
  · constructor
    · rw [hbounded, display, htext]
    · rwa [display, htext]
    · rw [display, htext]
      exact byteLen_takeBytes_le _ _

/-- The `expect` of the constructor fails for an empty message with an empty fallback only. -/
lemma new_eq_none_iff (hN : N.Documented) {rawMessage fallback : Text} :
    new N rawMessage fallback = none ↔ rawMessage = [] ∧ fallback = [] := by
  constructor
  · intro hnone
    by_contra hne
    obtain ⟨message, hnew, -⟩ := new_of_ne_nil hN _ (not_and_or.mp hne)
    rw [hnew] at hnone
    cases hnone
  · rintro ⟨rfl, rfl⟩
    have hbounded : boundedMessage [] [] = some [] := boundedMessage_eq [] []
    simp only [new, hbounded, Option.bind_eq_bind, Option.bind_some, hN.new_nil, Option.bind_none]

end UpstreamErrorMessage

/-- The fallback message for an upstream request failure kind.
Source: `ports.rs` `default_upstream_error_message` -/
def defaultUpstreamErrorMessage : UpstreamErrorKind → Text
  | .connect => "upstream connection failed".toList
  | .request => "upstream request failed".toList
  | .timeout => "upstream request timed out".toList

/-- The fallback message for an upstream body failure kind.
Source: `ports.rs` `default_upstream_body_error_message` -/
def defaultUpstreamBodyErrorMessage : UpstreamBodyErrorKind → Text
  | .stream => "upstream response body failed".toList
  | .timeout => "upstream response body timed out".toList

/-- No default message of a failed exchange is empty. -/
lemma defaultUpstreamErrorMessage_ne_nil (kind : UpstreamErrorKind) :
    defaultUpstreamErrorMessage kind ≠ [] := by
  cases kind <;> exact List.cons_ne_nil _ _

/-- No default message of a failed body is empty. -/
lemma defaultUpstreamBodyErrorMessage_ne_nil (kind : UpstreamBodyErrorKind) :
    defaultUpstreamBodyErrorMessage kind ≠ [] := by
  cases kind <;> exact List.cons_ne_nil _ _

/-! ## Errors -/

/-- Upstream request failure.
Source: `ports.rs` `UpstreamError` -/
structure UpstreamError (N : NonEmptyStringCrate) where
  kind : UpstreamErrorKind
  message : UpstreamErrorMessage N

/-- Upstream response body streaming failure.
Source: `ports.rs` `UpstreamBodyError` -/
structure UpstreamBodyError (N : NonEmptyStringCrate) where
  kind : UpstreamBodyErrorKind
  message : UpstreamErrorMessage N

/-- Creates an upstream request error.
Source: `ports.rs` `UpstreamError::new` -/
def UpstreamError.new (N : NonEmptyStringCrate) (kind : UpstreamErrorKind) (message : Text) :
    Option (UpstreamError N) :=
  (UpstreamErrorMessage.new N message (defaultUpstreamErrorMessage kind)).map fun message =>
    ⟨kind, message⟩

/-- Creates an upstream body error of one kind. -/
def UpstreamBodyError.ofKind (N : NonEmptyStringCrate) (kind : UpstreamBodyErrorKind)
    (message : Text) : Option (UpstreamBodyError N) :=
  (UpstreamErrorMessage.new N message (defaultUpstreamBodyErrorMessage kind)).map fun message =>
    ⟨kind, message⟩

/-- Creates an upstream body stream error.
Source: `ports.rs` `UpstreamBodyError::stream` -/
def UpstreamBodyError.stream (N : NonEmptyStringCrate) (message : Text) :
    Option (UpstreamBodyError N) := ofKind N .stream message

/-- Creates an upstream body timeout error.
Source: `ports.rs` `UpstreamBodyError::timeout` -/
def UpstreamBodyError.timeout (N : NonEmptyStringCrate) (message : Text) :
    Option (UpstreamBodyError N) := ofKind N .timeout message

/-- An upstream request error is always built, with the kind it was asked for. -/
lemma UpstreamError.new_total (hN : N.Documented) (kind : UpstreamErrorKind) (message : Text) :
    ∃ error, new N kind message = some error ∧ error.kind = kind ∧
      error.message.Keeps message (defaultUpstreamErrorMessage kind) := by
  obtain ⟨kept, hnew, hkeeps⟩ := UpstreamErrorMessage.new_of_ne_nil hN message
    (.inr (defaultUpstreamErrorMessage_ne_nil kind))
  exact ⟨⟨kind, kept⟩, by rw [new, hnew, Option.map_some], rfl, hkeeps⟩

/-- An upstream body error is always built, with the kind it was asked for. -/
lemma UpstreamBodyError.ofKind_total (hN : N.Documented) (kind : UpstreamBodyErrorKind)
    (message : Text) :
    ∃ error, ofKind N kind message = some error ∧ error.kind = kind ∧
      error.message.Keeps message (defaultUpstreamBodyErrorMessage kind) := by
  obtain ⟨kept, hnew, hkeeps⟩ := UpstreamErrorMessage.new_of_ne_nil hN message
    (.inr (defaultUpstreamBodyErrorMessage_ne_nil kind))
  exact ⟨⟨kind, kept⟩, by rw [ofKind, hnew, Option.map_some], rfl, hkeeps⟩

/-! ## The HTTP client's errors -/

/-- A `reqwest::Error` with what the adapters ask of it.
Source: `adapters.rs` `ReqwestErrorView`, and `to_string` -/
structure ReqwestError where
  isConnect : Bool
  isTimeout : Bool
  text : Text

/-- Classifies an upstream request error from reqwest's stable predicates.
Source: `adapters.rs` `upstream_error_kind_from_reqwest` -/
def upstreamErrorKindFromReqwest (error : ReqwestError) : UpstreamErrorKind :=
  if error.isTimeout then .timeout
  else if error.isConnect then .connect
  else .request

/-- Creates an upstream request error from reqwest.
Source: `adapters.rs` `upstream_error_from_reqwest` -/
def upstreamErrorFromReqwest (N : NonEmptyStringCrate) (error : ReqwestError) :
    Option (UpstreamError N) :=
  UpstreamError.new N (upstreamErrorKindFromReqwest error) error.text

/-- Creates an upstream body error from reqwest.
Source: `adapters.rs` `upstream_body_error_from_reqwest` -/
def upstreamBodyErrorFromReqwest (N : NonEmptyStringCrate) (error : ReqwestError) :
    Option (UpstreamBodyError N) :=
  if error.isTimeout then UpstreamBodyError.timeout N error.text
  else UpstreamBodyError.stream N error.text

/-- **No client error panics the adapters.** Whatever text an error has, both adapters return; a
timeout is a timeout to both, and what is printed is short and not empty. -/
theorem reqwest_errors_are_adapted (hN : N.Documented) (error : ReqwestError) :
    (∃ adapted, upstreamErrorFromReqwest N error = some adapted ∧
      (adapted.kind = .timeout ↔ error.isTimeout = true) ∧ adapted.message.display ≠ [] ∧
      byteLen adapted.message.display ≤ maxUpstreamErrorMessageBytes) ∧
    ∃ adapted, upstreamBodyErrorFromReqwest N error = some adapted ∧
      (adapted.kind = .timeout ↔ error.isTimeout = true) ∧ adapted.message.display ≠ [] ∧
      byteLen adapted.message.display ≤ maxUpstreamErrorMessageBytes := by
  constructor
  · obtain ⟨adapted, hnew, hkind, hkeeps⟩ :=
      UpstreamError.new_total hN (upstreamErrorKindFromReqwest error) error.text
    refine ⟨adapted, hnew, ?_, hkeeps.nonEmpty, hkeeps.bounded⟩
    rw [hkind]
    unfold upstreamErrorKindFromReqwest
    split_ifs with htimeout hconnect <;> simp [htimeout]
  · unfold upstreamBodyErrorFromReqwest
    split
    · rename_i htimeout
      obtain ⟨adapted, hnew, hkind, hkeeps⟩ :=
        UpstreamBodyError.ofKind_total hN .timeout error.text
      exact ⟨adapted, hnew, iff_of_true hkind htimeout, hkeeps.nonEmpty, hkeeps.bounded⟩
    · rename_i htimeout
      obtain ⟨adapted, hnew, hkind, hkeeps⟩ :=
        UpstreamBodyError.ofKind_total hN .stream error.text
      exact ⟨adapted, hnew, iff_of_false (by rw [hkind]; decide) htimeout, hkeeps.nonEmpty,
        hkeeps.bounded⟩

/-! ## The two truncations -/

/-- **The truncations agree.** At every limit the loop of the audit log and the search of the
ports cut a text alike, to its longest prefix of whole characters within the limit, so that
neither of the two panics. A bounded message is within its bound and empty only if its fallback is
too, which no fallback in use is: every upstream error is built. Nor does the bounding of audit
text panic at the three bounds it is used with. -/
theorem truncations_agree (hN : N.Documented) :
    (∀ (s : Str) (maxBytes : Nat), ∃ kept, utf8Prefix s.text maxBytes = some kept ∧
      truncateUtf8 s.text maxBytes = some kept ∧ IsLongestPrefix s.text maxBytes kept) ∧
    (∀ message fallback, ∃ bounded, boundedMessage message fallback = some bounded ∧
      byteLen bounded ≤ maxUpstreamErrorMessageBytes ∧
      (bounded = [] ↔ message = [] ∧ fallback = []) ∧
      (UpstreamErrorMessage.new N message fallback = none ↔ message = [] ∧ fallback = [])) ∧
    (∀ kind message, ∃ error, UpstreamError.new N kind message = some error ∧
      error.message.Keeps message (defaultUpstreamErrorMessage kind)) ∧
    (∀ message, ∃ error, UpstreamBodyError.stream N message = some error ∧
      error.message.Keeps message (defaultUpstreamBodyErrorMessage .stream)) ∧
    (∀ message, ∃ error, UpstreamBodyError.timeout N message = some error ∧
      error.message.Keeps message (defaultUpstreamBodyErrorMessage .timeout)) ∧
    [maxAllowedMethodBytes, maxAuditTargetPathBytes, maxAuditTargetQueryBytes] =
      [64, 4096, 8192] ∧
    ∀ (value : Str), ∀ maxBytes ∈ [64, 4096, 8192], ∃ text,
      boundedAuditText value.text maxBytes = some text ∧ byteLen text ≤ maxBytes := by
  refine ⟨?_, ?_, ?_, ?_, ?_, rfl, ?_⟩
  · intro s maxBytes
    exact ⟨_, utf8Prefix_eq (s.fits.trans isizeMax_le_usizeMax) maxBytes,
      truncateUtf8_eq s.text maxBytes, isLongestPrefix_iff.mpr rfl⟩
  · intro message fallback
    refine ⟨_, boundedMessage_eq message fallback, byteLen_takeBytes_le _ _, ?_,
      UpstreamErrorMessage.new_eq_none_iff hN⟩
    constructor
    · intro hempty
      by_contra hne
      exact takeBytes_ne_nil (by decide) (messageText_ne_nil (not_and_or.mp hne)) hempty
    · rintro ⟨rfl, rfl⟩
      rfl
  · intro kind message
    obtain ⟨error, hnew, -, hkeeps⟩ := UpstreamError.new_total hN kind message
    exact ⟨error, hnew, hkeeps⟩
  · intro message
    obtain ⟨error, hnew, -, hkeeps⟩ := UpstreamBodyError.ofKind_total hN .stream message
    exact ⟨error, hnew, hkeeps⟩
  · intro message
    obtain ⟨error, hnew, -, hkeeps⟩ := UpstreamBodyError.ofKind_total hN .timeout message
    exact ⟨error, hnew, hkeeps⟩
  · intro value maxBytes hbound
    apply boundedAuditText_total maxBytes value.fits
    simp only [List.mem_cons, List.not_mem_nil, or_false] at hbound
    omega

/-- The string type that the crate documents. -/
def nonEmptyText : NonEmptyStringCrate where
  NonEmptyString := { text : Text // text ≠ [] }
  new text := if h : text = [] then none else some ⟨text, h⟩
  asStr := Subtype.val

/-- A limit of five bytes cuts inside the second of two euro signs, and an error without a text
prints its default. -/
theorem truncations_agree_euros :
    nonEmptyText.Documented ∧
      (∃ kept, utf8Prefix "€€".toList 5 = some kept ∧ truncateUtf8 "€€".toList 5 = some kept ∧
        IsLongestPrefix "€€".toList 5 kept) ∧
      ∃ error, UpstreamError.new nonEmptyText .timeout [] = some error ∧
        error.message.Keeps [] "upstream request timed out".toList := by
  have hdocumented : nonEmptyText.Documented := by
    constructor
    · rfl
    · intro text hne
      exact ⟨⟨text, hne⟩, dif_neg hne, rfl⟩
  obtain ⟨hcut, -, herror, -⟩ := truncations_agree hdocumented
  exact ⟨hdocumented, hcut ⟨"€€".toList, by decide⟩ 5, herror .timeout []⟩

end Custode
