import Custode.Found.Segments
import Custode.Found.Utf8

/-!
# Percent-encoding of text

UTF-8 percent-encoding with a percent-encode set, as the WHATWG URL standard defines it: every
character of the set is replaced by one `%XX` for each of its UTF-8 bytes, every other character
stays. `specialQuerySet` is the set the standard uses for the query of an `http` or `https` URL.

* `byteLen_encode` — over one-byte characters, each encoded one adds two bytes;
* `bytes_encode` — over one-byte characters, encoding can be read byte by byte;
* `encode_of_disjoint` — a text with no character of the set is its own encoding.

`decode` is the decoding of bytes. `Escaped ok` says that every `%` of a byte list starts an escape
whose byte is `ok` (`escaped_iff` says it by position). When no escape hides a separator, splitting
commutes with decoding:
`Escaped.splitOnP_decode`.
-/

namespace Custode.Found.Percent

open Text

/-- An upper-case hex digit. -/
def upperHex (n : Nat) : Char := "0123456789ABCDEF".toList.getD n '0'

/-- The percent-encoding of one byte. -/
def encodeByte (b : UInt8) : Text := ['%', upperHex (b.toNat / 16), upperHex (b.toNat % 16)]

/-- UTF-8 percent-encoding of the characters in a percent-encode set. -/
def encode (inSet : Char → Bool) (s : Text) : Text :=
  s.flatMap fun c => if inSet c then (String.utf8EncodeChar c).flatMap encodeByte else [c]

/-- The C0 control percent-encode set: C0 controls and everything above `~`. -/
def c0ControlSet (c : Char) : Bool := c.toNat ≤ 0x1F || 0x7E < c.toNat

/-- The query percent-encode set. -/
def querySet (c : Char) : Bool :=
  c0ControlSet c || c == ' ' || c == '"' || c == '#' || c == '<' || c == '>'

/-- The special-query percent-encode set. -/
def specialQuerySet (c : Char) : Bool := querySet c || c == '\''

variable {inSet : Char → Bool}

/-- The encoding of nothing. -/
@[simp] lemma encode_nil : encode inSet [] = [] := rfl

/-- The encoding of a text, from its head. -/
lemma encode_cons (c : Char) (s : Text) :
    encode inSet (c :: s) =
      (if inSet c then (String.utf8EncodeChar c).flatMap encodeByte else [c]) ++ encode inSet s :=
  rfl

/-- A hex digit is one byte. -/
lemma utf8Size_upperHex (n : Nat) : (upperHex n).utf8Size = 1 := by
  have hdigits : ∀ c ∈ "0123456789ABCDEF".toList, c.utf8Size = 1 :=
    forall_mem_of_all (by decide)
  rw [upperHex, List.getD_eq_getElem?_getD]
  cases h : "0123456789ABCDEF".toList[n]? with
  | none => decide
  | some c => exact hdigits c (List.mem_of_getElem? h)

/-- An escape is three bytes. -/
@[simp] lemma byteLen_encodeByte (b : UInt8) : byteLen (encodeByte b) = 3 := by
  simp only [encodeByte, byteLen_cons, byteLen_nil, utf8Size_upperHex]
  decide

/-- Each encoded one-byte character becomes three bytes. -/
lemma byteLen_encode {s : Text} (h : ∀ c ∈ s, c.utf8Size = 1) :
    byteLen (encode inSet s) = byteLen s + 2 * s.countP inSet := by
  induction s with
  | nil => rfl
  | cons c s ih =>
      have hc := h c (by simp)
      have hs := ih fun d hd => h d (by simp [hd])
      rw [encode_cons, byteLen_append, hs, byteLen_cons, hc, List.countP_cons]
      by_cases hin : inSet c
      · rw [if_pos hin, if_pos hin, String.utf8EncodeChar_eq_singleton hc, List.flatMap_singleton,
          byteLen_encodeByte]
        omega
      · rw [if_neg hin, if_neg hin, byteLen_cons, hc, byteLen_nil]
        omega

/-- Over one-byte characters, the bytes of the encoding come from the bytes one by one. -/
lemma bytes_encode {s : Text} (h : ∀ c ∈ s, c.utf8Size = 1) :
    bytes (encode inSet s) =
      s.flatMap fun c => if inSet c then bytes (encodeByte c.val.toUInt8) else [c.val.toUInt8] := by
  induction s with
  | nil => rfl
  | cons c s ih =>
      have hc := String.utf8EncodeChar_eq_singleton (h c (by simp))
      rw [encode_cons, bytes_append, ih fun d hd => h d (by simp [hd]), List.flatMap_cons, hc]
      split
      · rw [List.flatMap_singleton]
      · rw [bytes_cons, bytes_nil, hc, List.append_nil]

/-- A text that has no character of the set is not changed. -/
lemma encode_of_disjoint {s : Text} (h : ∀ c ∈ s, inSet c = false) : encode inSet s = s := by
  induction s with
  | nil => rfl
  | cons c s ih =>
      rw [encode_cons, if_neg (by simp [h c]), ih fun d hd => h d (List.mem_cons_of_mem _ hd)]
      rfl

/-! ## Decoding -/

/-- The value of a hex digit byte. -/
def hexDigit (byte : UInt8) : Option UInt8 :=
  if '0'.toUInt8 ≤ byte ∧ byte ≤ '9'.toUInt8 then some (byte - '0'.toUInt8)
  else if 'A'.toUInt8 ≤ byte ∧ byte ≤ 'F'.toUInt8 then some (byte - 'A'.toUInt8 + 10)
  else if 'a'.toUInt8 ≤ byte ∧ byte ≤ 'f'.toUInt8 then some (byte - 'a'.toUInt8 + 10)
  else none

/-- The byte that two hex digits stand for. -/
def hexPair (first second : UInt8) : Option UInt8 := do
  let high ← hexDigit first
  let low ← hexDigit second
  some ((high <<< 4) + low)

/-- Percent-decoding: an escape becomes its byte, every other byte stays. -/
def decode : List UInt8 → List UInt8
  | [] => []
  | byte :: rest =>
      if byte = '%'.toUInt8 then
        match rest with
        | first :: second :: rest' =>
            match hexPair first second with
            | some decoded => decoded :: decode rest'
            | none => byte :: decode (first :: second :: rest')
        | short => byte :: short
      else byte :: decode rest

/-- Nothing decodes to nothing. -/
@[simp] lemma decode_nil : decode [] = [] := rfl

/-- Any other byte decodes to itself. -/
lemma decode_byte {byte : UInt8} (h : byte ≠ '%'.toUInt8) (data : List UInt8) :
    decode (byte :: data) = byte :: decode data := by
  rw [decode.eq_def]
  simp only [h, if_false]

/-- An escape decodes to its byte. -/
lemma decode_escape {first second decoded : UInt8} (h : hexPair first second = some decoded)
    (data : List UInt8) :
    decode ('%'.toUInt8 :: first :: second :: data) = decoded :: decode data := by
  rw [decode.eq_def]
  simp only [if_true, h]

/-- Every `%` starts an escape of two hex digits, and the byte it stands for is `ok`. -/
inductive Escaped (ok : UInt8 → Prop) : List UInt8 → Prop
  | nil : Escaped ok []
  | byte {byte : UInt8} {data : List UInt8} (plain : byte ≠ '%'.toUInt8) :
      Escaped ok data → Escaped ok (byte :: data)
  | escape {first second decoded : UInt8} {data : List UInt8}
      (pair : hexPair first second = some decoded) (accepted : ok decoded) :
      Escaped ok data → Escaped ok ('%'.toUInt8 :: first :: second :: data)

/-- The two bytes of an escape are hex digits. -/
lemma hexDigit_of_hexPair {first second decoded : UInt8} (h : hexPair first second = some decoded) :
    (hexDigit first).isSome = true ∧ (hexDigit second).isSome = true := by
  unfold hexPair at h
  rcases hfirst : hexDigit first with _ | high
  · rw [hfirst] at h
    cases h
  · rcases hsecond : hexDigit second with _ | low
    · rw [hfirst, hsecond] at h
      cases h
    · exact ⟨rfl, rfl⟩

/-- `%` is no hex digit. -/
lemma percent_not_hex {byte : UInt8} (h : (hexDigit byte).isSome = true) :
    byte ≠ '%'.toUInt8 := by
  rintro rfl
  cases h

/-- Escapes by position: what follows a `%` is an escape of an `ok` byte. -/
lemma escaped_iff {ok : UInt8 → Prop} {data : List UInt8} :
    Escaped ok data ↔ ∀ front rest, data = front ++ '%'.toUInt8 :: rest →
      ∃ first second decoded tail, rest = first :: second :: tail ∧
        hexPair first second = some decoded ∧ ok decoded := by
  constructor
  · intro h
    induction h with
    | nil =>
        intro front rest hsplit
        simp at hsplit
    | @byte byte data plain _ ih =>
        intro front rest hsplit
        cases front with
        | nil => exact absurd (List.cons.inj hsplit).1 plain
        | cons b front => exact ih front rest (List.cons.inj hsplit).2
    | @escape first second decoded data pair accepted _ ih =>
        obtain ⟨hfirst, hsecond⟩ := hexDigit_of_hexPair pair
        -- no `%` of the list stands inside this escape
        rintro (_ | ⟨b, _ | ⟨b', _ | ⟨b'', front⟩⟩⟩) rest hsplit
        · exact ⟨first, second, decoded, data, (List.cons.inj hsplit).2.symm, pair, accepted⟩
        · exact absurd (List.cons.inj (List.cons.inj hsplit).2).1 (percent_not_hex hfirst)
        · exact absurd (List.cons.inj (List.cons.inj (List.cons.inj hsplit).2).2).1
            (percent_not_hex hsecond)
        · exact ih front rest (List.cons.inj (List.cons.inj (List.cons.inj hsplit).2).2).2
  · intro h
    induction hn : data.length using Nat.strong_induction_on generalizing data with
    | _ n ih =>
        cases data with
        | nil => exact .nil
        | cons byte data =>
            by_cases hbyte : byte = '%'.toUInt8
            · subst hbyte
              obtain ⟨first, second, decoded, tail, rfl, pair, accepted⟩ := h [] data rfl
              refine .escape pair accepted (ih tail.length ?_ ?_ rfl)
              · rw [← hn]
                simp only [List.length_cons]
                omega
              · intro front rest hsplit
                exact h ('%'.toUInt8 :: first :: second :: front) rest (by rw [hsplit]; rfl)
            · refine .byte hbyte (ih data.length ?_ ?_ rfl)
              · rw [← hn, List.length_cons]
                omega
              · intro front rest hsplit
                exact h (byte :: front) rest (by rw [hsplit]; rfl)

/-- A separator test that takes no `%` and no hex digit. -/
structure Separates (p : UInt8 → Bool) : Prop where
  percent : p '%'.toUInt8 = false
  hex : ∀ byte, (hexDigit byte).isSome → p byte = false

/-- Such a test takes neither digit of an escape. -/
lemma Separates.pair {p : UInt8 → Bool} (hp : Separates p) {first second decoded : UInt8}
    (h : hexPair first second = some decoded) : p first = false ∧ p second = false := by
  obtain ⟨hfirst, hsecond⟩ := hexDigit_of_hexPair h
  exact ⟨hp.hex first hfirst, hp.hex second hsecond⟩

namespace Escaped

variable {ok : UInt8 → Prop} {p : UInt8 → Bool} {data : List UInt8}

/-- A weaker condition on the decoded bytes. -/
lemma mono {ok' : UInt8 → Prop} (h : ∀ byte, ok byte → ok' byte) (hdata : Escaped ok data) :
    Escaped ok' data := by
  induction hdata with
  | nil => exact .nil
  | byte plain _ ih => exact .byte plain ih
  | escape pair accepted _ ih => exact .escape pair (h _ accepted) ih

/-- Splitting cuts no escape: the first segment starts like the list. -/
lemma splitOnP_escape (hp : Separates p) {first second decoded : UInt8}
    (h : hexPair first second = some decoded) :
    ('%'.toUInt8 :: first :: second :: data).splitOnP p =
      (data.splitOnP p).modifyHead fun head => '%'.toUInt8 :: first :: second :: head := by
  obtain ⟨hfirst, hsecond⟩ := hp.pair h
  simp only [List.splitOnP_cons_eq_if_modifyHead, hp.percent, hfirst, hsecond, Bool.false_eq_true,
    if_false, List.modifyHead_modifyHead, Function.comp_def]

/-- The segments of an escaped list are escaped. -/
lemma of_mem_splitOnP (hp : Separates p) (hdata : Escaped ok data) :
    ∀ segment ∈ data.splitOnP p, Escaped ok segment := by
  induction hdata with
  | nil =>
      intro segment h
      rw [List.splitOnP_nil, List.mem_singleton] at h
      subst h
      exact .nil
  | @byte b data plain _ ih =>
      intro segment h
      rw [List.splitOnP_cons_eq_if_modifyHead] at h
      split at h
      · rw [List.mem_cons] at h
        rcases h with rfl | h
        · exact .nil
        · exact ih segment h
      · obtain ⟨head, tail, hsplit⟩ := List.exists_cons_of_ne_nil (List.splitOnP_ne_nil p data)
        rw [hsplit, List.modifyHead_cons, List.mem_cons] at h
        rw [hsplit] at ih
        rcases h with rfl | h
        · exact .byte plain (ih head List.mem_cons_self)
        · exact ih segment (List.mem_cons_of_mem _ h)
  | @escape first second decoded data pair accepted _ ih =>
      intro segment h
      obtain ⟨head, tail, hsplit⟩ := List.exists_cons_of_ne_nil (List.splitOnP_ne_nil p data)
      rw [splitOnP_escape hp pair, hsplit, List.modifyHead_cons, List.mem_cons] at h
      rw [hsplit] at ih
      rcases h with rfl | h
      · exact .escape pair accepted (ih head List.mem_cons_self)
      · exact ih segment (List.mem_cons_of_mem _ h)

/-- When no escape stands for a separator, decoding the whole list and splitting it gives the
decoded segments of the list. -/
lemma splitOnP_decode (hp : Separates p) (hdata : Escaped (fun byte => p byte = false) data) :
    (decode data).splitOnP p = (data.splitOnP p).map decode := by
  induction hdata with
  | nil => rfl
  | @byte b data plain _ ih =>
      rw [decode_byte plain, List.splitOnP_cons_eq_if_modifyHead,
        List.splitOnP_cons_eq_if_modifyHead, ih]
      split
      · rfl
      · obtain ⟨head, tail, hsplit⟩ := List.exists_cons_of_ne_nil (List.splitOnP_ne_nil p data)
        rw [hsplit]
        simp only [List.map_cons, List.modifyHead_cons, decode_byte plain]
  | @escape first second decoded data pair accepted _ ih =>
      rw [decode_escape pair, splitOnP_escape hp pair, List.splitOnP_cons_eq_if_modifyHead,
        accepted, ih]
      obtain ⟨head, tail, hsplit⟩ := List.exists_cons_of_ne_nil (List.splitOnP_ne_nil p data)
      rw [hsplit]
      simp only [Bool.false_eq_true, if_false, List.map_cons, List.modifyHead_cons,
        decode_escape pair]

end Escaped

end Custode.Found.Percent
