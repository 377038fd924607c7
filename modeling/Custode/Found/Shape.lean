import Custode.Found.Hex

/-!
# Text of a fixed shape

An anchored pattern of single-character classes, such as `^[0-9]{4}-[0-9]{2}$`, is a list of
classes, one for every character.

* `fits_append_iff` — a pattern in two parts matches a text in two parts.
* `fits_replicate_iff` — one class repeated.
* `fits_lowerHex` — lower-case hex of a given width, as bytes.
-/

namespace Custode.Found.Text

/-- The class of every character of a text. -/
abbrev Shape := List (Char → Bool)

/-- The text has the shape. -/
def fits : Shape → Text → Bool
  | [], [] => true
  | [], _ :: _ => false
  | _ :: _, [] => false
  | ok :: shape, c :: s => ok c && fits shape s

/-- The shape of one given text. -/
def literal (s : Text) : Shape := s.map fun c d => decide (d = c)

/-- A lower-case hex digit. -/
def isLowerHexChar (c : Char) : Bool := c.isDigit || decide ('a' ≤ c ∧ c ≤ 'f')

/-- A text of a shape has its length. -/
lemma length_of_fits {shape : Shape} {s : Text} (h : fits shape s = true) :
    s.length = shape.length := by
  induction shape generalizing s with
  | nil =>
      cases s with
      | nil => rfl
      | cons c s => cases h
  | cons ok shape ih =>
      cases s with
      | nil => cases h
      | cons c s =>
          rw [fits, Bool.and_eq_true] at h
          rw [List.length_cons, List.length_cons, ih h.2]

/-- Every character is in one of the classes. -/
lemma mem_of_fits {shape : Shape} {s : Text} (h : fits shape s = true) :
    ∀ c ∈ s, ∃ ok ∈ shape, ok c = true := by
  induction shape generalizing s with
  | nil =>
      cases s with
      | nil => simp
      | cons c s => cases h
  | cons ok shape ih =>
      cases s with
      | nil => simp
      | cons c s =>
          rw [fits, Bool.and_eq_true] at h
          rw [List.forall_mem_cons]
          refine ⟨⟨ok, List.mem_cons_self, h.1⟩, ?_⟩
          intro d hd
          obtain ⟨ok', hmem, hok⟩ := ih h.2 d hd
          exact ⟨ok', List.mem_cons_of_mem _ hmem, hok⟩

/-- A pattern in two parts. -/
lemma fits_append_iff {first second : Shape} {s : Text} :
    fits (first ++ second) s = true ↔
      ∃ t u, s = t ++ u ∧ fits first t = true ∧ fits second u = true := by
  induction first generalizing s with
  | nil =>
      constructor
      · intro h
        exact ⟨[], s, rfl, rfl, h⟩
      · rintro ⟨t, u, rfl, ht, hu⟩
        obtain rfl := List.length_eq_zero_iff.mp (length_of_fits ht)
        exact hu
  | cons ok first ih =>
      constructor
      · intro h
        cases s with
        | nil => cases h
        | cons c s =>
            rw [List.cons_append, fits, Bool.and_eq_true] at h
            obtain ⟨t, u, rfl, ht, hu⟩ := ih.mp h.2
            exact ⟨c :: t, u, rfl, by rw [fits, h.1, ht]; rfl, hu⟩
      · rintro ⟨t, u, rfl, ht, hu⟩
        cases t with
        | nil => cases ht
        | cons c t =>
            rw [fits, Bool.and_eq_true] at ht
            rw [List.cons_append, List.cons_append, fits, ht.1, Bool.true_and]
            exact ih.mpr ⟨t, u, rfl, ht.2, hu⟩

/-- One class, repeated. -/
lemma fits_replicate_iff {ok : Char → Bool} {n : Nat} {s : Text} :
    fits (List.replicate n ok) s = true ↔ s.length = n ∧ ∀ c ∈ s, ok c = true := by
  induction n generalizing s with
  | zero =>
      cases s with
      | nil => exact ⟨fun _ => ⟨rfl, nofun⟩, fun _ => rfl⟩
      | cons c s => exact ⟨nofun, fun h => nomatch h.1⟩
  | succ n ih =>
      cases s with
      | nil => exact ⟨nofun, fun h => nomatch h.1⟩
      | cons c s =>
          rw [List.replicate_succ, fits, Bool.and_eq_true, ih, List.length_cons, Nat.succ_inj,
            List.forall_mem_cons]
          constructor
          · rintro ⟨hc, hlength, hs⟩
            exact ⟨hlength, hc, hs⟩
          · rintro ⟨hlength, hc, hs⟩
            exact ⟨hc, hlength, hs⟩

/-- A text is of its own literal shape. -/
lemma fits_literal (s : Text) : fits (literal s) s = true := by
  induction s with
  | nil => rfl
  | cons c s ih =>
      rw [literal, List.map_cons, fits, decide_eq_true rfl, Bool.true_and]
      exact ih

/-! ## Lower-case hex -/

/-- A lower-case hex byte is the byte of such a character. -/
lemma isLowerHexChar_of_byte {c : Char} (hsize : c.utf8Size = 1)
    (h : isLowerHexByte c.val.toUInt8 = true) : isLowerHexChar c = true := by
  rw [Char.utf8Size_eq_one_iff, UInt32.le_iff_toNat_le] at hsize
  have hsmall : c.val.toNat ≤ 127 := hsize
  have hbyte : c.val.toUInt8.toNat = c.val.toNat := by
    rw [UInt32.toNat_toUInt8]
    omega
  simp only [isLowerHexByte, Bool.or_eq_true, Bool.and_eq_true, decide_eq_true_eq,
    UInt8.le_iff_toNat_le, hbyte] at h
  simp only [isLowerHexChar, Char.isDigit, Bool.or_eq_true, Bool.and_eq_true, decide_eq_true_eq,
    ge_iff_le, UInt32.le_iff_toNat_le, Char.le_def]
  exact h

/-- A text of lower-case hex bytes has as many characters. -/
lemma byteLen_eq_length_of_lowerHex {s : Text} (h : (bytes s).all isLowerHexByte = true) :
    byteLen s = s.length ∧ ∀ c ∈ s, isLowerHexChar c = true := by
  have hchars := chars_of_bytes ascii_of_isLowerHexByte (List.all_eq_true.mp h)
  constructor
  · exact byteLen_eq_length fun c hc => (hchars c hc).1
  · exact fun c hc => isLowerHexChar_of_byte (hchars c hc).1 (hchars c hc).2

/-- Lower-case hex of a given width. -/
lemma fits_lowerHex {n : Nat} {s : Text} (hlength : byteLen s = n)
    (hbytes : (bytes s).all isLowerHexByte = true) :
    fits (List.replicate n isLowerHexChar) s = true := by
  obtain ⟨hlen, hchars⟩ := byteLen_eq_length_of_lowerHex hbytes
  exact fits_replicate_iff.mpr ⟨hlen.symm.trans hlength, hchars⟩

end Custode.Found.Text
