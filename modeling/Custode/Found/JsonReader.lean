import Custode.Found.Json
import Mathlib.Data.List.TakeWhile

/-!
# Reading compact JSON text

A reader of JSON texts without whitespace, over characters (`readText`) and over UTF-8 bytes
(`readBytes`), with what stands behind the value. It reads back what `Json.compact` writes, if every
number is a literal of digits (`Json.Plain`): `readValue_compact`, `readBytes_compact`.

A `\u` escape is read as one character.
-/

namespace Custode.Found.Json

open Text

/-! ## The reader -/

/-- The character of a short escape. -/
def unescape : Char → Option Char
  | '"' => some '"'
  | '\\' => some '\\'
  | '/' => some '/'
  | 'b' => some (Char.ofNat 0x08)
  | 't' => some (Char.ofNat 0x09)
  | 'n' => some (Char.ofNat 0x0A)
  | 'f' => some (Char.ofNat 0x0C)
  | 'r' => some (Char.ofNat 0x0D)
  | _ => none

/-- One character of a string, or its escape. -/
def readChar : Text → Option (Char × Text)
  | [] => none
  | c :: rest =>
      if c = '\\' then
        match rest with
        | 'u' :: rest => (readHex 0 (rest.take 4)).map fun value => (Char.ofNat value, rest.drop 4)
        | escape :: rest => (unescape escape).map fun c => (c, rest)
        | [] => none
      else some (c, rest)

/-- A string behind its opening quote. -/
def readChars : Nat → Text → Option (Text × Text)
  | 0, _ => none
  | fuel + 1, text =>
      if text.head? = some '"' then some ([], text.tail)
      else
        match readChar text with
        | none => none
        | some (c, rest) => (readChars fuel rest).map fun value => (c :: value.1, value.2)

/-- A number. -/
def readNumber (text : Text) : Option (Json × Text) :=
  let literal := text.takeWhile isNumberChar
  let rest := text.dropWhile isNumberChar
  if literal = [] then none
  else if literal.all Char.isDigit then
    some (number (.natural (Nat.ofDigitChars 10 literal 0)), rest)
  else some (number (.other literal fun _ => List.mem_takeWhile_imp), rest)

/-- A number, or one of the three words. -/
def readScalar : Text → Option (Json × Text)
  | 'n' :: 'u' :: 'l' :: 'l' :: rest => some (null, rest)
  | 't' :: 'r' :: 'u' :: 'e' :: rest => some (bool true, rest)
  | 'f' :: 'a' :: 'l' :: 's' :: 'e' :: rest => some (bool false, rest)
  | text => readNumber text

mutual

/-- A value. -/
def readValue : Nat → Text → Option (Json × Text)
  | 0, _ => none
  | fuel + 1, '"' :: rest => (readChars fuel rest).map fun value => (string value.1, value.2)
  | fuel + 1, '[' :: rest =>
      if rest.head? = some ']' then some (array [], rest.tail)
      else (readItems fuel rest).map fun items => (array items.1, items.2)
  | fuel + 1, '{' :: rest =>
      if rest.head? = some '}' then some (object [], rest.tail)
      else (readEntries fuel rest).map fun entries => (object entries.1, entries.2)
  | _ + 1, text => readScalar text

/-- The items of an array that has some, up to its end. -/
def readItems : Nat → Text → Option (List Json × Text)
  | 0, _ => none
  | fuel + 1, text =>
      match readValue fuel text with
      | some (item, ']' :: rest) => some ([item], rest)
      | some (item, ',' :: rest) => (readItems fuel rest).map fun items => (item :: items.1, items.2)
      | _ => none

/-- The entries of an object that has some, up to its end. -/
def readEntries : Nat → Text → Option (List (Text × Json) × Text)
  | 0, _ => none
  | fuel + 1, '"' :: text =>
      match readChars fuel text with
      | some (key, ':' :: rest) =>
          match readValue fuel rest with
          | some (value, '}' :: rest) => some ([(key, value)], rest)
          | some (value, ',' :: rest) =>
              (readEntries fuel rest).map fun entries => ((key, value) :: entries.1, entries.2)
          | _ => none
      | _ => none
  | _ + 1, _ => none

end

/-- A value and what stands behind it. -/
def readText (text : Text) : Option (Json × Text) := readValue (2 * text.length) text

/-- The same over UTF-8 bytes. -/
def readBytes (data : List UInt8) : Option (Json × List UInt8) := do
  let text ← data.toByteArray.utf8Decode?
  let (json, rest) ← readText text.toList
  return (json, bytes rest)

/-! ## Strings -/

/-- An escaped character is read back. -/
lemma readChar_escapeChar (c : Char) (rest : Text) :
    readChar (escapeChar c ++ rest) = some (c, rest) := by
  have hcode : ∀ {n : Nat}, c.toNat = n → Char.ofNat n = c := by
    rintro n rfl
    exact Char.ofNat_toNat c
  unfold escapeChar
  split_ifs with hquote hslash hb ht hn hf hr hcontrol
  · rw [hquote]
    rfl
  · rw [hslash]
    rfl
  · rw [← hcode hb]
    rfl
  · rw [← hcode ht]
    rfl
  · rw [← hcode hn]
    rfl
  · rw [← hcode hf]
    rfl
  · rw [← hcode hr]
    rfl
  · have hlength : (hexDigits 4 c.toNat).length = 4 := length_hexDigits 4 _
    have hread : readHex 0 (hexDigits 4 c.toNat) = some c.toNat := by
      rw [readHex_hexDigits 4 (by omega)]
      simp
    show (readHex 0 ((hexDigits 4 c.toNat ++ rest).take 4)).map _ = _
    rw [List.take_left' hlength, hread, Option.map_some, hcode rfl]
    exact congrArg (fun text => some (c, text)) (List.drop_left' hlength)
  · exact if_neg hslash

/-- An escaped character is not a quote. -/
lemma head_escapeChar (c : Char) (rest : Text) : (escapeChar c ++ rest).head? ≠ some '"' := by
  unfold escapeChar
  split_ifs with hquote
  all_goals simp [*]

/-- What a string literal holds. -/
lemma readChars_quoted (value rest : Text) {fuel : Nat} (h : value.length < fuel) :
    readChars fuel (value.flatMap escapeChar ++ '"' :: rest) = some (value, rest) := by
  induction value generalizing fuel with
  | nil =>
      obtain ⟨fuel, rfl⟩ := Nat.exists_eq_succ_of_ne_zero (Nat.ne_of_gt h)
      rfl
  | cons c value ih =>
      obtain ⟨fuel, rfl⟩ := Nat.exists_eq_succ_of_ne_zero (Nat.ne_zero_of_lt h)
      rw [List.flatMap_cons, List.append_assoc, readChars, if_neg (head_escapeChar c _),
        readChar_escapeChar]
      simp only [ih (Nat.lt_of_succ_lt_succ h), Option.map_some]

/-- Escaping shortens nothing. -/
lemma length_le_flatMap_escapeChar (value : Text) :
    value.length ≤ (value.flatMap escapeChar).length := by
  induction value with
  | nil => exact le_rfl
  | cons c value ih =>
      have hpos : 0 < (escapeChar c).length := by
        unfold escapeChar
        split_ifs <;> simp
      rw [List.flatMap_cons, List.length_append, List.length_cons]
      omega

/-! ## Numbers -/

/-- No number goes on here. -/
def Stops (rest : Text) : Prop := ∀ c ∈ rest.head?, isNumberChar c = false

/-- A digit may stand in a number. -/
lemma isNumberChar_of_isDigit {c : Char} (h : c.isDigit) : isNumberChar c = true := by
  have hall : ∀ k : Fin 10, isNumberChar (Char.ofNat (48 + k)) = true := by decide
  obtain ⟨hlow, hhigh⟩ := Char.isDigit_iff_toNat.mp h
  have hzero : '0'.toNat = 48 := rfl
  have hnine : '9'.toNat = 57 := rfl
  have hcode : 48 + (c.toNat - 48) = c.toNat := by omega
  have hchar := hall ⟨c.toNat - 48, by omega⟩
  rwa [show (48 + (⟨c.toNat - 48, by omega⟩ : Fin 10) : Nat) = c.toNat from hcode,
    Char.ofNat_toNat] at hchar

/-- Printed digits are read back as their number. -/
lemma readNumber_decimal (n : Nat) {rest : Text} (h : Stops rest) :
    readNumber (decimal n ++ rest) = some (number (.natural n), rest) := by
  have hchars : ∀ c ∈ decimal n, isNumberChar c = true := fun c hc =>
    isNumberChar_of_isDigit (isDigit_of_mem_decimal hc)
  have hstop : rest.takeWhile isNumberChar = [] ∧ rest.dropWhile isNumberChar = rest := by
    cases rest with
    | nil => exact ⟨rfl, rfl⟩
    | cons c rest =>
        have hc := h c rfl
        simp [hc]
  have htake : (decimal n ++ rest).takeWhile isNumberChar = decimal n := by
    rw [List.takeWhile_append_of_pos hchars, hstop.1, List.append_nil]
  have hdrop : (decimal n ++ rest).dropWhile isNumberChar = rest := by
    rw [List.dropWhile_append_of_pos hchars, hstop.2]
  have hall : (decimal n).all Char.isDigit :=
    List.all_eq_true.mpr fun _ hc => isDigit_of_mem_decimal hc
  have hvalue : Nat.ofDigitChars 10 (decimal n) 0 = n := Nat.ofDigitChars_ten_toDigits
  simp only [readNumber, htake, hdrop, if_neg (decimal_ne_nil n), if_pos hall, hvalue]

/-! ## Values -/

mutual

/-- Every number is a literal of digits. -/
def Plain : Json → Prop
  | number (.other _ _) => False
  | array items => PlainItems items
  | object entries => PlainEntries entries
  | _ => True

/-- Every number of these is a literal of digits. -/
def PlainItems : List Json → Prop
  | [] => True
  | item :: items => Plain item ∧ PlainItems items

/-- Every number of these is a literal of digits. -/
def PlainEntries : List (Text × Json) → Prop
  | [] => True
  | (_, value) :: entries => Plain value ∧ PlainEntries entries

end

/-- A value does not start with the end of an array or of an object. -/
lemma head_compact {json : Json} (h : json.Plain) :
    ∃ c text, compact json = c :: text ∧ c ≠ ']' ∧ c ≠ '}' := by
  cases json with
  | null => exact ⟨'n', _, rfl, by decide, by decide⟩
  | bool value =>
      cases value with
      | false => exact ⟨'f', _, rfl, by decide, by decide⟩
      | true => exact ⟨'t', _, rfl, by decide, by decide⟩
  | number value =>
      cases value with
      | natural n =>
          obtain ⟨c, digits, hdigits⟩ := List.exists_cons_of_ne_nil (decimal_ne_nil n)
          have hdigit : c.isDigit := isDigit_of_mem_decimal (n := n) (by simp [hdigits])
          refine ⟨c, digits, hdigits, ?_, ?_⟩
          · rintro rfl
            exact absurd hdigit (by decide)
          · rintro rfl
            exact absurd hdigit (by decide)
      | other literal chars => exact h.elim
  | string value => exact ⟨'"', _, rfl, by decide, by decide⟩
  | array items => exact ⟨'[', _, rfl, by decide, by decide⟩
  | object entries => exact ⟨'{', _, rfl, by decide, by decide⟩

/-- A scalar that starts with a digit is read as a number. -/
lemma readScalar_number {c : Char} (hc : c.isDigit) (text : Text) :
    readScalar (c :: text) = readNumber (c :: text) := by
  unfold readScalar
  split
  · rename_i hword
    cases hword
    exact absurd hc (by decide)
  · rename_i hword
    cases hword
    exact absurd hc (by decide)
  · rename_i hword
    cases hword
    exact absurd hc (by decide)
  · rfl

/-- So is a value. -/
lemma readValue_number {c : Char} (hc : c.isDigit) (fuel : Nat) (text : Text) :
    readValue (fuel + 1) (c :: text) = readNumber (c :: text) := by
  rw [← readScalar_number hc, readValue]
  · rintro rest ⟨⟩
    exact absurd hc (by decide)
  · rintro rest ⟨⟩
    exact absurd hc (by decide)
  · rintro rest ⟨⟩
    exact absurd hc (by decide)

/-- A string in front of anything. -/
lemma readChars_of_quoted (value rest : Text) {fuel : Nat}
    (h : (quoted value ++ rest).length ≤ fuel) :
    ∃ text, quoted value ++ rest = '"' :: text ∧ readChars fuel text = some (value, rest) := by
  refine ⟨value.flatMap escapeChar ++ '"' :: rest, by simp [quoted], readChars_quoted value rest ?_⟩
  have hlength := length_le_flatMap_escapeChar value
  simp only [quoted, List.cons_append, List.append_assoc, List.length_cons, List.length_append,
    List.length_nil] at h
  omega

mutual

/-- What `compact` writes is read back. -/
theorem readValue_compact : ∀ (json : Json), json.Plain → ∀ (fuel : Nat) (rest : Text),
    Stops rest → 2 * (compact json ++ rest).length ≤ fuel →
      readValue fuel (compact json ++ rest) = some (json, rest)
  | null, _, 0, rest, _, hfuel => absurd hfuel (by simp [compact])
  | null, _, fuel + 1, rest, _, _ => rfl
  | bool true, _, 0, rest, _, hfuel => absurd hfuel (by simp [compact])
  | bool true, _, fuel + 1, rest, _, _ => rfl
  | bool false, _, 0, rest, _, hfuel => absurd hfuel (by simp [compact])
  | bool false, _, fuel + 1, rest, _, _ => rfl
  | number (.other _ _), hplain, _, _, _, _ => hplain.elim
  | number (.natural n), _, fuel, rest, hrest, hfuel => by
      obtain ⟨c, digits, hdigits⟩ := List.exists_cons_of_ne_nil (decimal_ne_nil n)
      have hdigit : c.isDigit := isDigit_of_mem_decimal (n := n) (by simp [hdigits])
      rw [← readNumber_decimal n hrest, compact, numberText]
      rw [compact, numberText, hdigits] at hfuel
      rw [hdigits, List.cons_append]
      obtain ⟨fuel, rfl⟩ : ∃ k, fuel = k + 1 :=
        Nat.exists_eq_succ_of_ne_zero (by rintro rfl; simp at hfuel)
      exact readValue_number hdigit fuel _
  | string value, _, fuel, rest, _, hfuel => by
      obtain ⟨fuel, rfl⟩ : ∃ k, fuel = k + 1 :=
        Nat.exists_eq_succ_of_ne_zero (by rintro rfl; simp [compact, quoted] at hfuel)
      rw [compact] at hfuel ⊢
      obtain ⟨text, htext, hread⟩ := @readChars_of_quoted value rest fuel (by
        simp only [quoted, List.cons_append, List.length_cons, List.length_append] at hfuel ⊢
        omega)
      rw [htext, readValue, hread]
      rfl
  | array [], _, 0, rest, _, hfuel => absurd hfuel (by simp [compact])
  | array [], _, fuel + 1, rest, _, _ => rfl
  | array (item :: items), hplain, fuel, rest, _, hfuel => by
      obtain ⟨fuel, rfl⟩ : ∃ k, fuel = k + 1 :=
        Nat.exists_eq_succ_of_ne_zero (by rintro rfl; simp [compact] at hfuel)
      obtain ⟨c, text, hhead, hc, -⟩ := @head_compact item hplain.1
      have hitems : (compactItems (item :: items) ++ rest).head? ≠ some ']' := by
        cases items with
        | nil => simpa [compactItems, hhead] using hc
        | cons next items => simpa [compactItems, hhead] using hc
      rw [compact, List.cons_append, List.length_cons] at hfuel
      rw [compact, List.cons_append, readValue, if_neg hitems,
        readItems_compact (item :: items) nofun hplain fuel rest (by omega)]
      rfl
  | object [], _, 0, rest, _, hfuel => absurd hfuel (by simp [compact])
  | object [], _, fuel + 1, rest, _, _ => rfl
  | object ((key, value) :: entries), hplain, fuel, rest, _, hfuel => by
      obtain ⟨fuel, rfl⟩ : ∃ k, fuel = k + 1 :=
        Nat.exists_eq_succ_of_ne_zero (by rintro rfl; simp [compact] at hfuel)
      have hentries : (compactEntries ((key, value) :: entries) ++ rest).head? ≠ some '}' := by
        cases entries with
        | nil => simp [compactEntries, quoted]
        | cons next entries => simp [compactEntries, quoted]
      rw [compact, List.cons_append, List.length_cons] at hfuel
      rw [compact, List.cons_append, readValue, if_neg hentries,
        readEntries_compact ((key, value) :: entries) nofun hplain fuel rest (by omega)]
      rfl

/-- Printed items are read back. -/
theorem readItems_compact : ∀ (items : List Json), items ≠ [] → PlainItems items →
    ∀ (fuel : Nat) (rest : Text), 2 * (compactItems items ++ rest).length + 1 ≤ fuel →
      readItems fuel (compactItems items ++ rest) = some (items, rest)
  | [], hne, _, _, _, _ => absurd rfl hne
  | [item], _, hplain, fuel + 1, rest, hfuel => by
      have hvalue := readValue_compact item hplain.1 fuel (']' :: rest) (by rintro c ⟨⟩; rfl)
        (by simp only [compactItems, List.append_assoc, List.cons_append, List.nil_append] at hfuel
            omega)
      simp only [compactItems, List.append_assoc, List.cons_append, List.nil_append, readItems,
        hvalue]
  | item :: next :: items, _, hplain, fuel + 1, rest, hfuel => by
      rw [compactItems, List.append_assoc, List.cons_append] at hfuel ⊢
      have hvalue := readValue_compact item hplain.1 fuel
        (',' :: (compactItems (next :: items) ++ rest)) (by rintro c ⟨⟩; rfl) (by omega)
      have hitems := readItems_compact (next :: items) nofun hplain.2 fuel rest (by
        simp only [List.length_append, List.length_cons] at hfuel ⊢
        omega)
      rw [readItems, hvalue]
      simp only [hitems, Option.map_some]

/-- Printed entries are read back. -/
theorem readEntries_compact : ∀ (entries : List (Text × Json)), entries ≠ [] →
    PlainEntries entries → ∀ (fuel : Nat) (rest : Text),
      2 * (compactEntries entries ++ rest).length + 1 ≤ fuel →
        readEntries fuel (compactEntries entries ++ rest) = some (entries, rest)
  | [], hne, _, _, _, _ => absurd rfl hne
  | [(key, value)], _, hplain, fuel + 1, rest, hfuel => by
      have hshape : compactEntries [(key, value)] ++ rest =
          quoted key ++ (':' :: (compact value ++ '}' :: rest)) := by
        simp [compactEntries]
      rw [hshape] at hfuel ⊢
      obtain ⟨text, htext, hread⟩ := @readChars_of_quoted key
        (':' :: (compact value ++ '}' :: rest)) fuel (by omega)
      have hvalue := readValue_compact value hplain.1 fuel ('}' :: rest) (by rintro c ⟨⟩; rfl) (by
        simp only [List.length_append, List.length_cons] at hfuel ⊢
        omega)
      rw [htext, readEntries, hread]
      simp only [hvalue]
  | (key, value) :: next :: entries, _, hplain, fuel + 1, rest, hfuel => by
      have hshape : compactEntries ((key, value) :: next :: entries) ++ rest =
          quoted key ++ (':' :: (compact value ++
            ',' :: (compactEntries (next :: entries) ++ rest))) := by
        simp [compactEntries]
      rw [hshape] at hfuel ⊢
      obtain ⟨text, htext, hread⟩ := @readChars_of_quoted key
        (':' :: (compact value ++ ',' :: (compactEntries (next :: entries) ++ rest))) fuel
        (by omega)
      have hvalue := readValue_compact value hplain.1 fuel
        (',' :: (compactEntries (next :: entries) ++ rest)) (by rintro c ⟨⟩; rfl) (by
          simp only [List.length_append, List.length_cons] at hfuel ⊢
          omega)
      have hentries := readEntries_compact (next :: entries) nofun hplain.2 fuel rest (by
        simp only [List.length_append, List.length_cons] at hfuel ⊢
        omega)
      rw [htext, readEntries, hread]
      simp only [hvalue, hentries, Option.map_some]

end

/-- A printed value is read back, with nothing left over. -/
lemma readText_compact {json : Json} (h : json.Plain) :
    readText (compact json) = some (json, []) := by
  have hread := readValue_compact json h (2 * (compact json).length) [] nofun (by simp)
  rwa [List.append_nil] at hread

/-- The bytes of a text are its UTF-8 encoding. -/
lemma toByteArray_bytes (text : Text) : (bytes text).toByteArray = text.utf8Encode := rfl

/-- The bytes of what `compact` writes are read back. -/
theorem readBytes_compact {json : Json} (h : json.Plain) :
    readBytes (bytes (compact json)) = some (json, []) := by
  rw [readBytes, toByteArray_bytes, List.utf8Decode?_utf8Encode]
  show (readText (compact json).toArray.toList >>= _) = _
  rw [List.toList_toArray, readText_compact h]
  rfl

end Custode.Found.Json
