import Mathlib.Algebra.Group.Nat.Defs
import Mathlib.Data.List.Infix
import Mathlib.Tactic.Common

/-!
# Text as characters with a UTF-8 byte count

A Rust `str` is modelled by its list of characters. Everything a program asks of a `str` in bytes
is a function of that list:

* `byteLen s` — the UTF-8 length (`str::len`), and `bytes s` — the UTF-8 bytes (`str::as_bytes`);
  `length_bytes` relates the two.
* `takeBytes n s` — the longest prefix of whole characters of at most `n` bytes. It is a prefix
  (`takeBytes_isPrefix`), it fits (`byteLen_takeBytes_le`), every fitting prefix is a prefix of it
  (`isPrefix_takeBytes`), and it has exactly `n` bytes iff `n` falls between two characters
  (`byteLen_takeBytes_eq_iff`, `IsBoundary`).
* `splitOnce pat s` (`str::split_once`), `stripPrefix lead s` (`str::strip_prefix`) and
  `stripSuffix suf s` (`str::strip_suffix`). The one fact the callers need about splitting is
  `splitOnce_of_fresh`: a pattern with a character that occurs once in it and neither before nor
  after it is found where it was put.
* `parseUsize` (`str::parse::<usize>`) reads back what `decimal` (`format!("{}", n)`) prints,
  `parseUsize_decimal`.

Nothing here mentions the gateway.
-/

namespace Custode.Found

/-- The characters of a Rust `str`. -/
abbrev Text := List Char

namespace Text

/-! ## Lengths and bytes -/

/-- A decidable property of every member of a list, tested on the list. -/
lemma forall_mem_of_all {α : Type} {p : α → Prop} [DecidablePred p] {s : List α}
    (h : (s.all fun a => decide (p a)) = true) : ∀ a ∈ s, p a := by
  intro a ha
  exact of_decide_eq_true (List.all_eq_true.mp h a ha)

/-- The UTF-8 bytes of a text (`str::as_bytes`). -/
def bytes (s : Text) : List UInt8 := s.flatMap String.utf8EncodeChar

/-- The UTF-8 length of a text (`str::len`). -/
def byteLen : Text → Nat
  | [] => 0
  | c :: s => c.utf8Size + byteLen s

/-- The length of nothing. -/
@[simp] lemma byteLen_nil : byteLen [] = 0 := rfl

/-- The length of a text, from its head. -/
@[simp] lemma byteLen_cons (c : Char) (s : Text) :
    byteLen (c :: s) = c.utf8Size + byteLen s := rfl

/-- The length of two texts. -/
@[simp] lemma byteLen_append (s t : Text) : byteLen (s ++ t) = byteLen s + byteLen t := by
  induction s with
  | nil => simp
  | cons c s ih => simp [ih, Nat.add_assoc]

/-- The bytes of nothing. -/
@[simp] lemma bytes_nil : bytes [] = [] := rfl

/-- The bytes of a text, from its head. -/
@[simp] lemma bytes_cons (c : Char) (s : Text) :
    bytes (c :: s) = String.utf8EncodeChar c ++ bytes s := rfl

/-- The bytes of two texts. -/
@[simp] lemma bytes_append (s t : Text) : bytes (s ++ t) = bytes s ++ bytes t :=
  List.flatMap_append

/-- The number of bytes is the length in bytes. -/
@[simp] lemma length_bytes (s : Text) : (bytes s).length = byteLen s := by
  induction s with
  | nil => rfl
  | cons c s ih => simp [ih]

/-- A prefix is no longer. -/
lemma byteLen_mono {s t : Text} (h : s <+: t) : byteLen s ≤ byteLen t := by
  obtain ⟨u, rfl⟩ := h
  simp

/-- The length of a repeated character. -/
lemma byteLen_replicate (n : Nat) (c : Char) :
    byteLen (List.replicate n c) = n * c.utf8Size := by
  induction n with
  | zero => simp
  | succ n ih => simp [List.replicate_succ, ih, Nat.succ_mul, Nat.add_comm]

/-- A text of one-byte characters has as many bytes as characters. -/
lemma byteLen_eq_length {s : Text} (h : ∀ c ∈ s, c.utf8Size = 1) : byteLen s = s.length := by
  induction s with
  | nil => rfl
  | cons c s ih =>
      simp only [byteLen_cons, List.length_cons, h c (by simp),
        ih fun d hd => h d (by simp [hd])]
      omega

/-- A character with an ASCII byte is one byte long. -/
lemma utf8Size_of_asciiByte {c : Char} {b : UInt8} (hb : b ∈ String.utf8EncodeChar c)
    (h : b.toNat < 128) : c.utf8Size = 1 := by
  rw [Char.utf8Size_eq_one_iff, UInt32.le_iff_toNat_le]
  by_contra hlarge
  have hbig : ¬ c.val.toNat ≤ 127 := hlarge
  unfold String.utf8EncodeChar at hb
  simp only at hb
  rw [if_neg hbig] at hb
  split_ifs at hb
  all_goals
    simp only [List.mem_cons, List.not_mem_nil, or_false] at hb
  · rcases hb with rfl | rfl <;> rw [UInt8.toNat_ofNat'] at h <;> omega
  · rcases hb with rfl | rfl | rfl <;> rw [UInt8.toNat_ofNat'] at h <;> omega
  · rcases hb with rfl | rfl | rfl | rfl <;> rw [UInt8.toNat_ofNat'] at h <;> omega

/-- A character whose bytes are ASCII is one byte long. -/
lemma utf8Size_of_asciiBytes {c : Char} (h : ∀ b ∈ String.utf8EncodeChar c, b.toNat < 128) :
    c.utf8Size = 1 := by
  have hne : String.utf8EncodeChar c ≠ [] := by
    rw [← List.length_pos_iff, String.length_utf8EncodeChar]
    exact c.utf8Size_pos
  obtain ⟨b, hb⟩ := List.exists_mem_of_ne_nil _ hne
  exact utf8Size_of_asciiByte hb (h b hb)

/-- A text whose bytes are all of an ASCII class is made of one-byte characters of that class. -/
lemma chars_of_bytes {ok : UInt8 → Bool} (hascii : ∀ b, ok b = true → b.toNat < 128) {s : Text}
    (h : ∀ b ∈ bytes s, ok b = true) : ∀ c ∈ s, c.utf8Size = 1 ∧ ok c.val.toUInt8 = true := by
  intro c hc
  have hbytes : ∀ b ∈ String.utf8EncodeChar c, ok b = true :=
    fun b hb => h b (List.mem_flatMap.mpr ⟨c, hc, hb⟩)
  have hsize : c.utf8Size = 1 := utf8Size_of_asciiBytes fun b hb => hascii b (hbytes b hb)
  rw [String.utf8EncodeChar_eq_singleton hsize] at hbytes
  exact ⟨hsize, hbytes _ (List.mem_singleton_self _)⟩

/-- One-byte characters with the same byte are the same. -/
lemma eq_of_byte_eq {c d : Char} (hc : c.utf8Size = 1) (hd : d.utf8Size = 1)
    (h : c.val.toUInt8 = d.val.toUInt8) : c = d := by
  rw [Char.utf8Size_eq_one_iff, UInt32.le_iff_toNat_le] at hc hd
  have hcSmall : c.val.toNat ≤ 127 := hc
  have hdSmall : d.val.toNat ≤ 127 := hd
  have hnat := congrArg UInt8.toNat h
  rw [UInt32.toNat_toUInt8, UInt32.toNat_toUInt8] at hnat
  exact Char.ext (UInt32.toNat_inj.mp (by omega))

/-- An ASCII byte of a text is one of its characters. -/
lemma mem_of_asciiByte {s : Text} {c : Char} (hc : c.utf8Size = 1)
    (h : c.val.toUInt8 ∈ bytes s) : c ∈ s := by
  obtain ⟨d, hd, hmem⟩ := List.mem_flatMap.mp h
  have hascii : c.val.toUInt8.toNat < 128 := by
    rw [Char.utf8Size_eq_one_iff, UInt32.le_iff_toNat_le] at hc
    have hsmall : c.val.toNat ≤ 127 := hc
    rw [UInt32.toNat_toUInt8]
    omega
  have hsize := utf8Size_of_asciiByte hmem hascii
  rw [String.utf8EncodeChar_eq_singleton hsize, List.mem_singleton] at hmem
  rw [eq_of_byte_eq hc hsize hmem]
  exact hd

/-- The bytes of a text of one-byte characters, character by character. -/
lemma bytes_eq_map {s : Text} (h : ∀ c ∈ s, c.utf8Size = 1) :
    bytes s = s.map fun c => c.val.toUInt8 := by
  induction s with
  | nil => rfl
  | cons c s ih =>
      rw [bytes_cons, String.utf8EncodeChar_eq_singleton (h c (by simp)),
        ih fun d hd => h d (by simp [hd])]
      rfl

/-- A text is known by its bytes. -/
lemma bytes_injective {s t : Text} (h : bytes s = bytes t) : s = t := by
  apply String.ofList_injective
  rw [← String.toByteArray_inj, String.toByteArray_ofList, String.toByteArray_ofList]
  exact congrArg List.toByteArray h

/-! ## Character boundaries and the longest fitting prefix -/

/-- Byte offset `n` lies between two characters of `s`, or at one of its ends
(`str::is_char_boundary`). -/
def IsBoundary (s : Text) (n : Nat) : Prop := ∃ p, p <+: s ∧ byteLen p = n

/-- The longest prefix of whole characters that fits into `n` bytes. -/
def takeBytes : Nat → Text → Text
  | _, [] => []
  | n, c :: s => if c.utf8Size ≤ n then c :: takeBytes (n - c.utf8Size) s else []

/-- What is taken is a prefix. -/
lemma takeBytes_isPrefix (n : Nat) (s : Text) : takeBytes n s <+: s := by
  induction s generalizing n with
  | nil => exact List.nil_prefix
  | cons c s ih =>
      rw [takeBytes]
      split
      · exact (List.prefix_cons_inj c).mpr (ih _)
      · exact List.nil_prefix

/-- What is taken fits. -/
lemma byteLen_takeBytes_le (n : Nat) (s : Text) : byteLen (takeBytes n s) ≤ n := by
  induction s generalizing n with
  | nil => simp [takeBytes]
  | cons c s ih =>
      rw [takeBytes]
      split
      · have := ih (n - c.utf8Size)
        rw [byteLen_cons]
        omega
      · simp

/-- Every prefix of `s` that fits into `n` bytes is a prefix of `takeBytes n s`. -/
lemma isPrefix_takeBytes {n : Nat} {s p : Text} (hp : p <+: s) (hn : byteLen p ≤ n) :
    p <+: takeBytes n s := by
  induction s generalizing n p with
  | nil => simpa [takeBytes] using hp
  | cons c s ih =>
      cases p with
      | nil => exact List.nil_prefix
      | cons d p =>
          obtain ⟨rfl, htail⟩ := List.cons_prefix_cons.mp hp
          rw [byteLen_cons] at hn
          rw [takeBytes, if_pos (by omega)]
          exact (List.prefix_cons_inj d).mpr (ih htail (by omega))

/-- The cut wastes no byte exactly when it falls on a character boundary. -/
lemma byteLen_takeBytes_eq_iff {n : Nat} {s : Text} :
    byteLen (takeBytes n s) = n ↔ IsBoundary s n := by
  constructor
  · intro h
    exact ⟨_, takeBytes_isPrefix n s, h⟩
  · rintro ⟨p, hp, rfl⟩
    have h₁ := byteLen_takeBytes_le (byteLen p) s
    have h₂ := byteLen_mono (isPrefix_takeBytes hp le_rfl)
    omega

/-- Nothing fits into no byte. -/
lemma takeBytes_zero (s : Text) : takeBytes 0 s = [] := by
  cases s with
  | nil => rfl
  | cons c s =>
      have := c.utf8Size_pos
      rw [takeBytes, if_neg (by omega)]

/-- Every character has at most four bytes, so a limit of four leaves one. -/
lemma takeBytes_ne_nil {n : Nat} {s : Text} (hn : 4 ≤ n) (hs : s ≠ []) : takeBytes n s ≠ [] := by
  cases s with
  | nil => exact absurd rfl hs
  | cons c s =>
      have := c.utf8Size_le_four
      rw [takeBytes, if_pos (by omega)]
      exact List.cons_ne_nil _ _

/-- A cut of two texts in sequence cuts each of them. -/
lemma takeBytes_append (n : Nat) (s t : Text) :
    takeBytes n (s ++ t) = takeBytes n s ++ takeBytes (n - byteLen s) t := by
  induction s generalizing n with
  | nil => rfl
  | cons c s ih =>
      rw [List.cons_append, takeBytes, takeBytes, byteLen_cons]
      by_cases hc : c.utf8Size ≤ n
      · rw [if_pos hc, if_pos hc, ih, List.cons_append, Nat.sub_sub]
      · rw [if_neg hc, if_neg hc, Nat.sub_eq_zero_of_le (by omega), List.nil_append,
          takeBytes_zero]

/-- A text that fits is taken whole. -/
lemma takeBytes_of_le {n : Nat} {s : Text} (h : byteLen s ≤ n) : takeBytes n s = s :=
  (takeBytes_isPrefix n s).eq_of_length_le (isPrefix_takeBytes (List.prefix_refl s) h).length_le

/-- The cut at the end of a prefix is that prefix. -/
lemma takeBytes_byteLen {s p : Text} (hp : p <+: s) : takeBytes (byteLen p) s = p := by
  obtain ⟨rest, rfl⟩ := hp
  rw [takeBytes_append, takeBytes_of_le le_rfl, Nat.sub_self, takeBytes_zero, List.append_nil]

instance (s : Text) (n : Nat) : Decidable (IsBoundary s n) :=
  decidable_of_iff _ byteLen_takeBytes_eq_iff

/-- Every offset up to its end is a boundary of a text of one-byte characters. -/
lemma isBoundary_of_oneByte {s : Text} (h : ∀ c ∈ s, c.utf8Size = 1) {n : Nat}
    (hn : n ≤ byteLen s) : IsBoundary s n := by
  rw [byteLen_eq_length h] at hn
  refine ⟨s.take n, List.take_prefix n s, ?_⟩
  rw [byteLen_eq_length fun c hc => h c (List.mem_of_mem_take hc), List.length_take,
    Nat.min_eq_left hn]

/-! ## Splitting and stripping -/

/-- Splits at the first occurrence of a pattern (`str::split_once`). -/
def splitOnce (pat : Text) : Text → Option (Text × Text)
  | [] => if pat = [] then some ([], []) else none
  | c :: s =>
      if pat <+: c :: s then some ([], (c :: s).drop pat.length)
      else (splitOnce pat s).map fun halves => (c :: halves.1, halves.2)

/-- Splits at the first occurrences of a pattern, into at most `count` parts (`str::splitn`). -/
def splitn (pat : Text) : Nat → Text → List Text
  | 0, _ => []
  | 1, s => [s]
  | count + 2, s =>
      match splitOnce pat s with
      | none => [s]
      | some (first, rest) => first :: splitn pat (count + 1) rest

/-- Removes a leading text that is there (`str::strip_prefix`). -/
def stripPrefix (lead s : Text) : Option Text :=
  if lead <+: s then some (s.drop lead.length) else none

/-- Removes a suffix that is there (`str::strip_suffix`). -/
def stripSuffix (suf s : Text) : Option Text :=
  if suf <:+ s then some (s.take (s.length - suf.length)) else none

/-- The two halves and what stood between them are the text. -/
lemma splitOnce_sound {pat s p r : Text} (h : splitOnce pat s = some (p, r)) :
    s = p ++ pat ++ r := by
  induction s generalizing p with
  | nil =>
      rw [splitOnce] at h
      split at h
      · simp_all
      · cases h
  | cons c s ih =>
      rw [splitOnce] at h
      split at h
      · rename_i hpat
        obtain ⟨t, ht⟩ := hpat
        simp only [Option.some.injEq, Prod.mk.injEq] at h
        obtain ⟨rfl, rfl⟩ := h
        simp [← ht]
      · rw [Option.map_eq_some_iff] at h
        obtain ⟨⟨p', r'⟩, hs, heq⟩ := h
        simp only [Prod.mk.injEq] at heq
        obtain ⟨rfl, rfl⟩ := heq
        simp [ih hs]

/-- A text that misses one of the pattern's characters is not split. -/
lemma splitOnce_eq_none {pat s : Text} {c : Char} (hc : c ∈ pat) (hs : c ∉ s) :
    splitOnce pat s = none := by
  cases h : splitOnce pat s with
  | none => rfl
  | some halves =>
      have := splitOnce_sound (p := halves.1) (r := halves.2) h
      rw [this] at hs
      simp [hc] at hs

/-- The pattern `a ++ c :: b` is found where it was put, when its character `c` is absent from
`a` and from the text before it. -/
lemma splitOnce_of_fresh {a b p r : Text} {c : Char} (ha : c ∉ a) (hp : c ∉ p) :
    splitOnce (a ++ c :: b) (p ++ (a ++ c :: b) ++ r) = some (p, r) := by
  induction p with
  | nil =>
      have hne : (a ++ c :: b) ++ r ≠ [] := by simp
      obtain ⟨d, s, hds⟩ := List.exists_cons_of_ne_nil hne
      rw [List.nil_append, hds, splitOnce, ← hds, if_pos (List.prefix_append _ _)]
      simp
  | cons d p ih =>
      have hdp : c ∉ p := fun h => hp (by simp [h])
      -- an occurrence at the front would put `c` at an index that `d :: p` or `a` covers
      have hfront : ¬ (a ++ c :: b) <+: d :: p ++ (a ++ c :: b) ++ r := by
        rintro ⟨t, ht⟩
        have hidx : (d :: p ++ (a ++ c :: b) ++ r)[a.length]? = some c := by
          rw [← ht]
          simp
        rcases Nat.lt_or_ge a.length (d :: p).length with hlt | hge
        · rw [List.append_assoc, List.getElem?_append_left hlt] at hidx
          exact hp (List.mem_of_getElem? hidx)
        · rw [List.append_assoc, List.getElem?_append_right hge, List.append_assoc,
            List.getElem?_append_left (by simp only [List.length_cons] at hge ⊢; omega)] at hidx
          exact ha (List.mem_of_getElem? hidx)
      simp only [List.cons_append] at hfront ⊢
      rw [splitOnce, if_neg hfront, ih hdp]
      rfl

/-- A character is found where it first occurs. -/
lemma splitOnce_singleton {c : Char} {p : Text} (hp : c ∉ p) (r : Text) :
    splitOnce [c] (p ++ c :: r) = some (p, r) := by
  have h := splitOnce_of_fresh (a := []) (b := []) (r := r) List.not_mem_nil hp
  simpa using h

/-- A suffix is stripped off. -/
@[simp] lemma stripSuffix_append (suf s : Text) : stripSuffix suf (s ++ suf) = some s := by
  simp [stripSuffix, List.suffix_append]

/-! ## Decimal numerals -/

/-- The largest value of a 64-bit `usize`. -/
def usizeMax : Nat := 2 ^ 64 - 1

/-- The largest byte length of a Rust allocation (`isize::MAX`). -/
def isizeMax : Nat := 2 ^ 63 - 1

/-- The decimal numeral of a count (`format!("{}", n)`). -/
def decimal (n : Nat) : Text := Nat.toDigits 10 n

/-- The digits of a numeral, after the sign that `str::parse` admits. -/
def unsigned : Text → Text
  | '+' :: rest => rest
  | s => s

/-- Reads an unsigned decimal numeral (`str::parse::<usize>`): digits only, after an optional
`+`, and no overflow. -/
def parseUsize (s : Text) : Option Nat :=
  if unsigned s ≠ [] ∧ (unsigned s).all Char.isDigit ∧
      Nat.ofDigitChars 10 (unsigned s) 0 ≤ usizeMax then
    some (Nat.ofDigitChars 10 (unsigned s) 0)
  else none

/-- A decimal number is made of digits. -/
lemma isDigit_of_mem_decimal {n : Nat} {c : Char} (h : c ∈ decimal n) : c.isDigit :=
  Nat.isDigit_of_mem_toDigits (by omega) (by omega) h

/-- A decimal number has a digit. -/
lemma decimal_ne_nil (n : Nat) : decimal n ≠ [] := Nat.toDigits_ne_nil

/-- A digit is one byte long. -/
lemma utf8Size_of_isDigit {c : Char} (h : c.isDigit) : c.utf8Size = 1 := by
  rw [Char.utf8Size_eq_one_iff]
  simp only [Char.isDigit, ge_iff_le, Bool.and_eq_true, decide_eq_true_eq] at h
  have h2 := UInt32.le_iff_toNat_le.mp h.2
  rw [UInt32.le_iff_toNat_le]
  exact le_trans h2 (by decide)

/-- A decimal number has as many bytes as digits. -/
lemma byteLen_decimal (n : Nat) : byteLen (decimal n) = (decimal n).length :=
  byteLen_eq_length fun _ hc => utf8Size_of_isDigit (isDigit_of_mem_decimal hc)

/-- A 64-bit count has at most twenty digits. -/
lemma length_decimal_le {n : Nat} (h : n ≤ usizeMax) : (decimal n).length ≤ 20 := by
  apply (Nat.length_toDigits_le_iff (by omega) (by omega)).mpr
  have : usizeMax < 10 ^ 20 := by decide
  omega

/-- A decimal number has at least one digit. -/
lemma length_decimal_pos (n : Nat) : 0 < (decimal n).length := Nat.length_toDigits_pos

/-- A printed numeral has no sign. -/
lemma unsigned_decimal (n : Nat) : unsigned (decimal n) = decimal n := by
  unfold unsigned
  split
  · rename_i rest heq
    have hplus : ('+' : Char).isDigit := isDigit_of_mem_decimal (n := n) (by simp [heq])
    exact absurd hplus (by decide)
  · rfl

/-- What `decimal` prints, `parseUsize` reads back. -/
lemma parseUsize_decimal {n : Nat} (h : n ≤ usizeMax) : parseUsize (decimal n) = some n := by
  have hval : Nat.ofDigitChars 10 (decimal n) 0 = n := Nat.ofDigitChars_ten_toDigits
  have hall : (decimal n).all Char.isDigit :=
    List.all_eq_true.mpr fun _ hc => isDigit_of_mem_decimal hc
  rw [parseUsize, unsigned_decimal, hval, if_pos ⟨decimal_ne_nil n, hall, h⟩]

end Text

end Custode.Found
