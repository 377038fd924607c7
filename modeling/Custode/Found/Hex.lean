import Custode.Found.Utf8
import Mathlib.Tactic.Ring

/-!
# Fixed-width lower-case hex

`hexDigits width n` is the zero-padded lower-case hex of `n` (`format!("{:0width$x}", n)`), and
`fromStrRadix16` reads unsigned hex (`u64::from_str_radix(_, 16)`).

* `length_hexDigits`, `byteLen_hexDigits` — a hex text has the given width, in characters and bytes;
* `isLowerHexByte_of_mem` — its bytes are lower-case hex digits;
* `fromStrRadix16_hexDigits` — it is read back;
* `exists_hexDigits`, `exists_hexBytes` — every lower-case hex text is the text of a number, and one
  of even length that of some bytes;
* `hexDigits_inj`, `hexBytes_injective` — different numbers and bytes have different texts.
-/

namespace Custode.Found.Text

/-- A lower-case hex digit. -/
def lowerHex (n : Nat) : Char := "0123456789abcdef".toList.getD n '0'

/-- The zero-padded lower-case hex of a number. -/
def hexDigits : Nat → Nat → Text
  | 0, _ => []
  | width + 1, n => hexDigits width (n / 16) ++ [lowerHex (n % 16)]

/-- The lower-case hex of some bytes, two digits for each. -/
def hexBytes (data : List UInt8) : Text := data.flatMap fun byte => hexDigits 2 byte.toNat

/-- The value of a hex digit of either case. -/
def hexDigitValue (c : Char) : Option Nat :=
  let lower := "0123456789abcdef".toList.idxOf c
  let upper := "0123456789ABCDEF".toList.idxOf c
  if lower < 16 then some lower else if upper < 16 then some upper else none

/-- Reads hex digits onto a value read so far. -/
def readHex (value : Nat) : Text → Option Nat
  | [] => some value
  | c :: rest =>
      match hexDigitValue c with
      | none => none
      | some digit => readHex (16 * value + digit) rest

/-- Reads an unsigned hex number that fits 64 bits, after an optional `+`. -/
def fromStrRadix16 (s : Text) : Option Nat :=
  if unsigned s = [] then none
  else (readHex 0 (unsigned s)).filter fun value => value ≤ usizeMax

/-- A lower-case hex digit byte. -/
def isLowerHexByte (byte : UInt8) : Bool :=
  ('0'.toUInt8 ≤ byte && byte ≤ '9'.toUInt8) || ('a'.toUInt8 ≤ byte && byte ≤ 'f'.toUInt8)

/-- What every one of the sixteen digits satisfies. -/
lemma lowerHex_cases {n : Nat} (h : n < 16) :
    (lowerHex n).utf8Size = 1 ∧ hexDigitValue (lowerHex n) = some n ∧
      (String.utf8EncodeChar (lowerHex n)).all isLowerHexByte = true ∧
      lowerHex n ≠ '+' ∧ lowerHex n ≠ '-' := by
  have hall : ∀ k : Fin 16, (lowerHex k).utf8Size = 1 ∧ hexDigitValue (lowerHex k) = some k.val ∧
      (String.utf8EncodeChar (lowerHex k)).all isLowerHexByte = true ∧
      lowerHex k ≠ '+' ∧ lowerHex k ≠ '-' := by decide +kernel
  exact hall ⟨n, h⟩

/-- The digits are as many as asked for. -/
lemma length_hexDigits (width n : Nat) : (hexDigits width n).length = width := by
  induction width generalizing n with
  | zero => rfl
  | succ width ih => rw [hexDigits, List.length_append, ih, List.length_singleton]

/-- Every character of a hex text is one of the sixteen digits. -/
lemma mem_hexDigits {width n : Nat} {c : Char} (h : c ∈ hexDigits width n) :
    ∃ k < 16, c = lowerHex k := by
  induction width generalizing n with
  | zero => cases h
  | succ width ih =>
      rw [hexDigits, List.mem_append, List.mem_singleton] at h
      rcases h with h | rfl
      · exact ih h
      · exact ⟨n % 16, Nat.mod_lt _ (by omega), rfl⟩

/-- They are as many bytes. -/
lemma byteLen_hexDigits (width n : Nat) : byteLen (hexDigits width n) = width := by
  rw [byteLen_eq_length, length_hexDigits]
  intro c hc
  obtain ⟨k, hk, rfl⟩ := mem_hexDigits hc
  exact (lowerHex_cases hk).1

/-- Each of them is a lower-case hex byte. -/
lemma isLowerHexByte_of_mem {width n : Nat} {byte : UInt8} (h : byte ∈ bytes (hexDigits width n)) :
    isLowerHexByte byte = true := by
  rw [bytes, List.mem_flatMap] at h
  obtain ⟨c, hc, hbyte⟩ := h
  obtain ⟨k, hk, rfl⟩ := mem_hexDigits hc
  exact List.all_eq_true.mp (lowerHex_cases hk).2.2.1 byte hbyte

/-- None of them is a dash. -/
lemma dash_notMem_hexDigits (width n : Nat) : '-' ∉ hexDigits width n := by
  intro h
  obtain ⟨k, hk, hc⟩ := mem_hexDigits h
  exact (lowerHex_cases hk).2.2.2.2 hc.symm

/-- The hex text of some bytes has two digits for each, and no dash. -/
lemma hexBytes_lowerHex (data : List UInt8) :
    byteLen (hexBytes data) = 2 * data.length ∧
      (bytes (hexBytes data)).all isLowerHexByte = true ∧ '-' ∉ hexBytes data := by
  induction data with
  | nil => exact ⟨rfl, rfl, by simp [hexBytes]⟩
  | cons byte data ih =>
      obtain ⟨hlen, hall, hdash⟩ := ih
      have hcons : hexBytes (byte :: data) = hexDigits 2 byte.toNat ++ hexBytes data := rfl
      rw [hcons]
      refine ⟨?_, ?_, ?_⟩
      · rw [byteLen_append, hlen, byteLen_hexDigits, List.length_cons]
        omega
      · rw [bytes_append, List.all_append, hall, Bool.and_true, List.all_eq_true]
        exact fun _ => isLowerHexByte_of_mem
      · rw [List.mem_append, not_or]
        exact ⟨dash_notMem_hexDigits _ _, hdash⟩

/-- Reading a text in two parts. -/
lemma readHex_append (value : Nat) (s t : Text) :
    readHex value (s ++ t) = (readHex value s).bind fun value' => readHex value' t := by
  induction s generalizing value with
  | nil => rfl
  | cons c s ih =>
      rw [List.cons_append, readHex, readHex]
      cases hexDigitValue c with
      | none => rfl
      | some digit => exact ih _

/-- The digits of a number are read onto what stands in front of them. -/
lemma readHex_hexDigits (width : Nat) {n : Nat} (h : n < 16 ^ width) (value : Nat) :
    readHex value (hexDigits width n) = some (16 ^ width * value + n) := by
  induction width generalizing n value with
  | zero =>
      have hn : n = 0 := by simpa using h
      simp [hexDigits, readHex, hn]
  | succ width ih =>
      have hdiv : n / 16 < 16 ^ width := by
        rw [Nat.div_lt_iff_lt_mul (by omega)]
        rwa [Nat.pow_succ] at h
      have hmod : n % 16 < 16 := Nat.mod_lt _ (by omega)
      have hn : n = 16 * (n / 16) + n % 16 := (Nat.div_add_mod n 16).symm
      rw [hexDigits, readHex_append, ih hdiv, Option.bind_some]
      simp only [readHex, (lowerHex_cases hmod).2.1, Nat.pow_succ, Option.some.injEq]
      calc 16 * (16 ^ width * value + n / 16) + n % 16
          = 16 ^ width * 16 * value + (16 * (n / 16) + n % 16) := by ring
        _ = 16 ^ width * 16 * value + n := by rw [← hn]

/-- A hex text has no sign. -/
lemma unsigned_hexDigits (width n : Nat) : unsigned (hexDigits width n) = hexDigits width n := by
  unfold unsigned
  split
  · rename_i rest heq
    have hplus : '+' ∈ hexDigits width n := by simp [heq]
    obtain ⟨k, hk, hc⟩ := mem_hexDigits hplus
    exact absurd hc.symm (lowerHex_cases hk).2.2.2.1
  · rfl

/-- What `hexDigits` prints, `fromStrRadix16` reads back. -/
lemma fromStrRadix16_hexDigits {width n : Nat} (hwidth : 0 < width) (h : n < 16 ^ width)
    (hmax : n ≤ usizeMax) : fromStrRadix16 (hexDigits width n) = some n := by
  have hne : hexDigits width n ≠ [] := by
    rw [← List.length_pos_iff, length_hexDigits]
    exact hwidth
  rw [fromStrRadix16, unsigned_hexDigits, if_neg hne, readHex_hexDigits width h]
  simp [hmax]

/-! ## Every lower-case hex text is printed once -/

/-- A hex byte is ASCII. -/
lemma ascii_of_isLowerHexByte (byte : UInt8) (h : isLowerHexByte byte = true) :
    byte.toNat < 128 := by
  simp only [isLowerHexByte, Bool.or_eq_true, Bool.and_eq_true, decide_eq_true_eq,
    UInt8.le_iff_toNat_le] at h
  have hnine : '9'.toUInt8.toNat < 128 := by decide
  have hf : 'f'.toUInt8.toNat < 128 := by decide
  omega

/-- A lower-case hex character is one of the sixteen digits. -/
lemma exists_lowerHex {c : Char} (hsize : c.utf8Size = 1)
    (h : isLowerHexByte c.val.toUInt8 = true) : ∃ k < 16, c = lowerHex k := by
  have hall : ∀ byte : Fin 256, isLowerHexByte (UInt8.ofFin byte) = true →
      ∃ k : Fin 16, UInt8.ofFin byte = (lowerHex k).val.toUInt8 := by decide +kernel
  obtain ⟨k, hk⟩ := hall c.val.toUInt8.toFin h
  exact ⟨k, k.isLt, eq_of_byte_eq hsize (lowerHex_cases k.isLt).1 hk⟩

/-- Every lower-case hex text is the text of a number. -/
lemma exists_hexDigits {s : Text} (h : (bytes s).all isLowerHexByte = true) :
    ∃ n < 16 ^ s.length, s = hexDigits s.length n := by
  -- the digits are printed from the last one, so the induction takes them off from there
  induction s using List.reverseRecOn with
  | nil => exact ⟨0, by simp, rfl⟩
  | append_singleton s c ih =>
      rw [bytes_append, List.all_append, Bool.and_eq_true] at h
      obtain ⟨n, hn, hs⟩ := ih h.1
      have hlast := chars_of_bytes ascii_of_isLowerHexByte (List.all_eq_true.mp h.2) c (by simp)
      obtain ⟨k, hk, rfl⟩ := exists_lowerHex hlast.1 hlast.2
      refine ⟨16 * n + k, ?_, ?_⟩
      · rw [List.length_append, List.length_singleton, Nat.pow_succ]
        omega
      · rw [List.length_append, List.length_singleton, hexDigits,
          show (16 * n + k) / 16 = n by omega, show (16 * n + k) % 16 = k by omega, ← hs]

/-- Different numbers of one width have different texts. -/
lemma hexDigits_inj {width n m : Nat} (hn : n < 16 ^ width) (hm : m < 16 ^ width)
    (h : hexDigits width n = hexDigits width m) : n = m := by
  have hread := readHex_hexDigits width hn 0
  rw [h, readHex_hexDigits width hm 0] at hread
  have hvalues := Option.some.inj hread
  omega

/-- Every lower-case hex text of even length is the text of some bytes. -/
lemma exists_hexBytes {count : Nat} {s : Text} (hlength : s.length = 2 * count)
    (h : (bytes s).all isLowerHexByte = true) :
    ∃ data : List UInt8, data.length = count ∧ s = hexBytes data := by
  induction count generalizing s with
  | zero => exact ⟨[], rfl, List.length_eq_zero_iff.mp hlength⟩
  | succ count ih =>
      rw [← List.take_append_drop 2 s, bytes_append, List.all_append, Bool.and_eq_true] at h
      obtain ⟨data, hdata, hrest⟩ := ih (by rw [List.length_drop]; omega) h.2
      obtain ⟨n, hn, hpair⟩ := exists_hexDigits h.1
      have hwidth : (s.take 2).length = 2 := by
        rw [List.length_take]
        omega
      rw [hwidth] at hn hpair
      have hbyte : (UInt8.ofNat n).toNat = n := UInt8.toNat_ofNat_of_lt' (by simpa using hn)
      refine ⟨UInt8.ofNat n :: data, by rw [List.length_cons, hdata], ?_⟩
      rw [hexBytes, List.flatMap_cons, hbyte, ← hpair, ← hexBytes, ← hrest,
        List.take_append_drop]

/-- Different bytes have different texts. -/
lemma hexBytes_injective : Function.Injective hexBytes := by
  intro data
  induction data with
  | nil =>
      intro data' h
      cases data' with
      | nil => rfl
      | cons byte data' => simp [hexBytes, hexDigits] at h
  | cons byte data ih =>
      intro data' h
      cases data' with
      | nil => simp [hexBytes, hexDigits] at h
      | cons byte' data' =>
          rw [hexBytes, hexBytes, List.flatMap_cons, List.flatMap_cons] at h
          obtain ⟨hpair, hrest⟩ := List.append_inj h (by simp only [length_hexDigits])
          have hnat := hexDigits_inj (by simpa using byte.toNat_lt) (by simpa using byte'.toNat_lt)
            hpair
          rw [UInt8.toNat_inj.mp hnat, ih hrest]

end Custode.Found.Text
