import Custode.Found.Hex

/-!
# JSON values and their compact text

A `Json` value keeps what a JSON text says: objects are lists of entries, in order and with
duplicate keys; a number that is not written in digits alone keeps its literal.

* `compact` — the text without whitespace, with the escapes `\"`, `\\`, `\b`, `\f`, `\n`, `\r`,
  `\t`, and `\u00xx` for the other control characters.
* `not_isControl_compact` — no control character stands in it, so it is one line
  (`newline_notMem_compact`).
* `PlainText n` — text of at most `n` bytes without control characters, which `quoted` at most
  doubles (`PlainText.byteLen_quoted_le`); the size of an object is bounded entry by entry
  (`byteLen_object_le`).
-/

namespace Custode.Found

open Text

/-- The characters of a number literal. -/
def isNumberChar (c : Char) : Bool := "+-.0123456789eE".toList.contains c

/-- A JSON number. -/
inductive JsonNumber where
  /-- A literal of digits. -/
  | natural (n : Nat)
  /-- A literal with a sign, a fraction or an exponent. -/
  | other (literal : Text) (chars : ∀ c ∈ literal, isNumberChar c = true)

/-- A JSON value. -/
inductive Json where
  | null
  | bool (value : Bool)
  | number (value : JsonNumber)
  | string (value : Text)
  | array (items : List Json)
  | object (entries : List (Text × Json))

namespace Json

/-- The escape of a character in a string. -/
def escapeChar (c : Char) : Text :=
  if c = '"' then ['\\', '"']
  else if c = '\\' then ['\\', '\\']
  else if c.toNat = 0x08 then ['\\', 'b']
  else if c.toNat = 0x09 then ['\\', 't']
  else if c.toNat = 0x0A then ['\\', 'n']
  else if c.toNat = 0x0C then ['\\', 'f']
  else if c.toNat = 0x0D then ['\\', 'r']
  else if c.toNat < 0x20 then '\\' :: 'u' :: hexDigits 4 c.toNat
  else [c]

/-- A string literal. -/
def quoted (value : Text) : Text := '"' :: value.flatMap escapeChar ++ ['"']

/-- A number literal. -/
def numberText : JsonNumber → Text
  | .natural n => decimal n
  | .other literal _ => literal

mutual

/-- The text of a value without whitespace. -/
def compact : Json → Text
  | null => "null".toList
  | bool value => (if value then "true" else "false").toList
  | number value => numberText value
  | string value => quoted value
  | array items => '[' :: compactItems items
  | object entries => '{' :: compactEntries entries

/-- The rest of an array. -/
def compactItems : List Json → Text
  | [] => [']']
  | [item] => compact item ++ [']']
  | item :: next :: items => compact item ++ ',' :: compactItems (next :: items)

/-- The rest of an object. -/
def compactEntries : List (Text × Json) → Text
  | [] => ['}']
  | [(key, value)] => quoted key ++ ':' :: compact value ++ ['}']
  | (key, value) :: next :: entries =>
      quoted key ++ ':' :: compact value ++ ',' :: compactEntries (next :: entries)

end

/-! ## One line -/

/-- A control character. -/
def IsControl (c : Char) : Prop := c.toNat < 0x20

instance : DecidablePred IsControl := fun c => inferInstanceAs (Decidable (c.toNat < 0x20))

/-- A character of a number is no control character. -/
lemma not_isControl_of_isNumberChar {c : Char} (h : isNumberChar c = true) : ¬ IsControl c := by
  have hall : ∀ c ∈ "+-.0123456789eE".toList, ¬ IsControl c := forall_mem_of_all (by decide)
  exact hall c (by simpa [isNumberChar] using h)

/-- A hex digit is no control character. -/
lemma not_isControl_lowerHex {n : Nat} (h : n < 16) : ¬ IsControl (lowerHex n) := by
  have hall : ∀ k : Fin 16, ¬ IsControl (lowerHex k) := by decide +kernel
  exact hall ⟨n, h⟩

/-- A digit is no control character. -/
lemma not_isControl_of_isDigit {c : Char} (h : c.isDigit) : ¬ IsControl c := by
  simp only [Char.isDigit, ge_iff_le, Bool.and_eq_true, decide_eq_true_eq] at h
  have hlow := UInt32.le_iff_toNat_le.mp h.1
  have hsmall : 48 ≤ c.toNat := hlow
  unfold IsControl
  omega

/-- An escaped character has no control character. -/
lemma not_isControl_escapeChar {c d : Char} (h : d ∈ escapeChar c) : ¬ IsControl d := by
  have hpair : ∀ {e : Char}, ¬ IsControl e → d ∈ ['\\', e] → ¬ IsControl d := by
    intro e he hd
    rcases List.mem_pair.mp hd with rfl | rfl
    · decide
    · exact he
  unfold escapeChar at h
  split_ifs at h with hquote hslash hb ht hn hf hr hcontrol
  · exact hpair (by decide) h
  · exact hpair (by decide) h
  · exact hpair (by decide) h
  · exact hpair (by decide) h
  · exact hpair (by decide) h
  · exact hpair (by decide) h
  · exact hpair (by decide) h
  · rw [List.mem_cons, List.mem_cons] at h
    rcases h with rfl | rfl | h
    · decide
    · decide
    · obtain ⟨k, hk, rfl⟩ := mem_hexDigits h
      exact not_isControl_lowerHex hk
  · rw [List.mem_singleton.mp h]
    exact hcontrol

/-- A quoted text has no control character. -/
lemma not_isControl_quoted {value : Text} {c : Char} (h : c ∈ quoted value) : ¬ IsControl c := by
  have hquote : ¬ IsControl '"' := by decide
  rw [quoted, List.cons_append, List.mem_cons, List.mem_append, List.mem_singleton,
    List.mem_flatMap] at h
  rcases h with rfl | ⟨d, -, hd⟩ | rfl
  · exact hquote
  · exact not_isControl_escapeChar hd
  · exact hquote

/-- A printed number has no control character. -/
lemma not_isControl_numberText {value : JsonNumber} {c : Char} (h : c ∈ numberText value) :
    ¬ IsControl c := by
  cases value with
  | natural n => exact not_isControl_of_isDigit (isDigit_of_mem_decimal h)
  | other literal chars => exact not_isControl_of_isNumberChar (chars c h)

mutual

/-- The text of a value has no control character. -/
theorem not_isControl_compact : ∀ (json : Json) (c : Char), c ∈ compact json → ¬ IsControl c
  | null, c, h => by
      have hall : ∀ c ∈ "null".toList, ¬ IsControl c := forall_mem_of_all (by decide)
      exact hall c h
  | bool true, c, h => by
      have hall : ∀ c ∈ "true".toList, ¬ IsControl c := forall_mem_of_all (by decide)
      exact hall c h
  | bool false, c, h => by
      have hall : ∀ c ∈ "false".toList, ¬ IsControl c := forall_mem_of_all (by decide)
      exact hall c h
  | number value, c, h => not_isControl_numberText h
  | string value, c, h => not_isControl_quoted h
  | array items, c, h => by
      rw [compact, List.mem_cons] at h
      rcases h with rfl | h
      · decide
      · exact not_isControl_compactItems items c h
  | object entries, c, h => by
      rw [compact, List.mem_cons] at h
      rcases h with rfl | h
      · decide
      · exact not_isControl_compactEntries entries c h

/-- Printed items have no control character. -/
theorem not_isControl_compactItems :
    ∀ (items : List Json) (c : Char), c ∈ compactItems items → ¬ IsControl c
  | [], c, h => by
      rw [compactItems, List.mem_singleton] at h
      rw [h]
      decide
  | [item], c, h => by
      rw [compactItems, List.mem_append, List.mem_singleton] at h
      rcases h with h | rfl
      · exact not_isControl_compact item c h
      · decide
  | item :: next :: items, c, h => by
      rw [compactItems, List.mem_append, List.mem_cons] at h
      rcases h with h | rfl | h
      · exact not_isControl_compact item c h
      · decide
      · exact not_isControl_compactItems (next :: items) c h

/-- Printed entries have no control character. -/
theorem not_isControl_compactEntries :
    ∀ (entries : List (Text × Json)) (c : Char), c ∈ compactEntries entries → ¬ IsControl c
  | [], c, h => by
      rw [compactEntries, List.mem_singleton] at h
      rw [h]
      decide
  | [(key, value)], c, h => by
      rw [compactEntries, List.append_assoc, List.mem_append, List.cons_append, List.mem_cons,
        List.mem_append, List.mem_singleton] at h
      rcases h with h | rfl | h | rfl
      · exact not_isControl_quoted h
      · decide
      · exact not_isControl_compact value c h
      · decide
  | (key, value) :: next :: entries, c, h => by
      rw [compactEntries, List.append_assoc, List.mem_append, List.cons_append, List.mem_cons,
        List.mem_append, List.mem_cons] at h
      rcases h with h | rfl | h | rfl | h
      · exact not_isControl_quoted h
      · decide
      · exact not_isControl_compact value c h
      · decide
      · exact not_isControl_compactEntries (next :: entries) c h

end

/-- The text of a value is one line. -/
lemma newline_notMem_compact (json : Json) : '\n'.toUInt8 ∉ bytes (compact json) := by
  intro h
  have hmem : '\n' ∈ compact json := mem_of_asciiByte (by decide) h
  exact not_isControl_compact json '\n' hmem (by decide)

/-! ## Size -/

/-- Text of at most `n` bytes without control characters. -/
structure PlainText (n : Nat) (value : Text) : Prop where
  /-- It is short. -/
  short : byteLen value ≤ n
  /-- It has no control character. -/
  noControl : ∀ c ∈ value, ¬ IsControl c

/-- Plain text can be decided. -/
lemma plainText_iff {n : Nat} {value : Text} :
    PlainText n value ↔
      (decide (byteLen value ≤ n) && value.all fun c => decide (¬ IsControl c)) = true := by
  rw [Bool.and_eq_true, decide_eq_true_eq]
  constructor
  · intro h
    refine ⟨h.short, List.all_eq_true.mpr ?_⟩
    exact fun c hc => decide_eq_true (h.noControl c hc)
  · rintro ⟨hshort, hall⟩
    exact ⟨hshort, forall_mem_of_all hall⟩

instance (n : Nat) (value : Text) : Decidable (PlainText n value) :=
  decidable_of_iff' _ plainText_iff

/-- A text whose bytes are all of a class of visible ASCII characters has no control character. -/
lemma not_isControl_of_bytes (ok : UInt8 → Bool)
    (hok : ∀ b, ok b = true → 0x20 ≤ b.toNat ∧ b.toNat < 128) {s : Text}
    (h : ∀ b ∈ bytes s, ok b = true) : ∀ c ∈ s, ¬ IsControl c := by
  intro c hc
  obtain ⟨hsize, hbyte⟩ := chars_of_bytes (fun b hb => (hok b hb).2) h c hc
  rw [Char.utf8Size_eq_one_iff, UInt32.le_iff_toNat_le] at hsize
  have hsmall : c.val.toNat ≤ 127 := hsize
  have hvisible := (hok _ hbyte).1
  rw [UInt32.toNat_toUInt8] at hvisible
  change ¬ c.val.toNat < 0x20
  omega

/-- Lower-case hex has no control character. -/
lemma not_isControl_of_lowerHex {s : Text} (h : (bytes s).all isLowerHexByte = true) :
    ∀ c ∈ s, ¬ IsControl c := by
  apply not_isControl_of_bytes isLowerHexByte _ (List.all_eq_true.mp h)
  intro byte hbyte
  refine ⟨?_, ascii_of_isLowerHexByte byte hbyte⟩
  unfold isLowerHexByte at hbyte
  simp only [Bool.or_eq_true, Bool.and_eq_true, decide_eq_true_eq, UInt8.le_iff_toNat_le] at hbyte
  have hzero : '0'.toUInt8.toNat = 48 := rfl
  have ha : 'a'.toUInt8.toNat = 97 := rfl
  omega

/-- Escaping at most doubles a character. -/
lemma byteLen_escapeChar_le {c : Char} (h : ¬ IsControl c) :
    byteLen (escapeChar c) ≤ 2 * c.utf8Size := by
  have hpos := c.utf8Size_pos
  have hpair : byteLen ['\\', '"'] = 2 ∧ byteLen ['\\', '\\'] = 2 := by decide
  unfold IsControl at h
  unfold escapeChar
  -- the other escapes are of control characters
  split_ifs with hquote hslash hb ht hn hf hr
  · omega
  · omega
  · omega
  · omega
  · omega
  · omega
  · omega
  · rw [byteLen_cons, byteLen_nil]
    omega

/-- A string literal is at most twice as long as its text, and two quotes. -/
lemma PlainText.byteLen_quoted_le {n : Nat} {value : Text} (h : PlainText n value) :
    byteLen (quoted value) ≤ 2 * n + 2 := by
  have hescaped : byteLen (value.flatMap escapeChar) ≤ 2 * byteLen value := by
    have hchars := h.noControl
    clear h
    induction value with
    | nil => simp
    | cons c value ih =>
        obtain ⟨hc, hvalue⟩ := List.forall_mem_cons.mp hchars
        have hfirst := byteLen_escapeChar_le hc
        have hrest := ih hvalue
        rw [List.flatMap_cons, byteLen_append, byteLen_cons]
        omega
  have hshort := h.short
  have hquote : ('"' : Char).utf8Size = 1 := by decide
  rw [quoted, byteLen_append, byteLen_cons, byteLen_cons, byteLen_nil, hquote]
  omega

/-- An entry takes its key, its value, a colon and one delimiter. -/
def entrySize (entry : Text × Json) : Nat :=
  byteLen (quoted entry.1) + byteLen (compact entry.2) + 2

/-- The size of printed entries. -/
lemma byteLen_compactEntries_le (entries : List (Text × Json)) :
    byteLen (compactEntries entries) ≤ 1 + (entries.map entrySize).sum := by
  have hcolon : (':' : Char).utf8Size = 1 := by decide
  have hcomma : (',' : Char).utf8Size = 1 := by decide
  have hclose : byteLen ['}'] = 1 := by decide
  induction entries with
  | nil => exact hclose.le
  | cons entry entries ih =>
      obtain ⟨key, value⟩ := entry
      have hentry : entrySize (key, value) = byteLen (quoted key) + byteLen (compact value) + 2 :=
        rfl
      rw [List.map_cons, List.sum_cons, hentry]
      cases entries with
      | nil =>
          rw [compactEntries, byteLen_append, byteLen_append, byteLen_cons, hcolon, hclose]
          simp only [List.map_nil, List.sum_nil]
          omega
      | cons next entries =>
          rw [compactEntries, byteLen_append, byteLen_append, byteLen_cons, byteLen_cons, hcolon,
            hcomma]
          omega

/-- An object takes its entries and two braces. -/
lemma byteLen_object_le (entries : List (Text × Json)) :
    byteLen (compact (object entries)) ≤ 2 + (entries.map entrySize).sum := by
  have hopen : ('{' : Char).utf8Size = 1 := by decide
  have hentries := byteLen_compactEntries_le entries
  rw [compact, byteLen_cons, hopen]
  omega

end Json

end Custode.Found
