import Custode.Found.Utf8

/-!
# Character boundaries by byte

Where a text may be cut, read off its UTF-8 bytes, and the two ways in which a Rust program cuts
at a limit.

* `isCharBoundary s n` (`str::is_char_boundary`) looks at the byte at `n`. It finds exactly the
  offsets between two characters (`isCharBoundary_iff`).
* `truncate s n` (`String::truncate`) keeps the first `n` bytes and panics off a boundary. At the
  end of a prefix it leaves that prefix (`truncate_byteLen`).
* `charIndices s` (`str::char_indices`) pairs each character with its offset. The last offset
  within a limit is where the longest fitting prefix ends (`getLast?_takeWhile_charIndices`).
* `IsLongestPrefix s maxBytes t` says, in bytes only, what a cut at a limit is for. There is one
  such text, `takeBytes maxBytes s` (`isLongestPrefix_iff`).

Nothing here mentions the gateway.
-/

namespace Custode.Found.Text

/-- A `str` as it is in memory, where no allocation has more than `isize::MAX` bytes. -/
structure Str where
  text : Text
  fits : byteLen text ≤ isizeMax

/-! ## Boundaries -/

/-- Whether the byte at an offset is the first one of a character. -/
def startsChar (s : Text) (n : Nat) : Bool :=
  (bytes s)[n]?.any fun b => decide b.IsUTF8FirstByte

/-- Whether a byte offset starts a character or ends the text (`str::is_char_boundary`). -/
def isCharBoundary (s : Text) (n : Nat) : Bool := n == 0 || n == byteLen s || startsChar s n

/-- The boundaries of a text are its start and those after its first character. -/
lemma isBoundary_cons {c : Char} {s : Text} {n : Nat} :
    IsBoundary (c :: s) n ↔ n = 0 ∨ c.utf8Size ≤ n ∧ IsBoundary s (n - c.utf8Size) := by
  constructor
  · rintro ⟨p, hp, rfl⟩
    cases p with
    | nil => exact .inl rfl
    | cons d p =>
        obtain ⟨rfl, htail⟩ := List.cons_prefix_cons.mp hp
        rw [byteLen_cons]
        exact .inr ⟨by omega, p, htail, by omega⟩
  · rintro (rfl | ⟨hle, p, hp, hlength⟩)
    · exact ⟨[], List.nil_prefix, rfl⟩
    · refine ⟨c :: p, (List.prefix_cons_inj c).mpr hp, ?_⟩
      rw [byteLen_cons]
      omega

/-- The start of a text is a boundary. -/
lemma isBoundary_zero (s : Text) : IsBoundary s 0 := ⟨[], List.nil_prefix, rfl⟩

/-- The end of a text is a boundary. -/
lemma isBoundary_byteLen (s : Text) : IsBoundary s (byteLen s) := ⟨s, List.prefix_refl s, rfl⟩

/-- A boundary is inside the text. -/
lemma IsBoundary.le {s : Text} {n : Nat} (h : IsBoundary s n) : n ≤ byteLen s := by
  obtain ⟨p, hp, rfl⟩ := h
  exact byteLen_mono hp

/-- Of the bytes of a character only the first one starts it. -/
lemma startsChar_cons {c : Char} {s : Text} {n : Nat} :
    startsChar (c :: s) n = true ↔
      n = 0 ∨ c.utf8Size ≤ n ∧ startsChar s (n - c.utf8Size) = true := by
  have hpos := c.utf8Size_pos
  unfold startsChar
  rw [bytes_cons]
  rcases Nat.lt_or_ge n c.utf8Size with hinside | hafter
  · have hlength : n < (String.utf8EncodeChar c).length := by
      rwa [String.length_utf8EncodeChar]
    rw [List.getElem?_append_left hlength, List.getElem?_eq_getElem hlength, Option.any_some,
      decide_eq_true_eq, UInt8.isUTF8FirstByte_getElem_utf8EncodeChar]
    omega
  · rw [List.getElem?_append_right (by rwa [String.length_utf8EncodeChar]),
      String.length_utf8EncodeChar, and_iff_right hafter, or_iff_right (by omega)]

/-- The first bytes of the characters are the boundaries in front of the end. -/
lemma startsChar_iff {s : Text} {n : Nat} :
    startsChar s n = true ↔ IsBoundary s n ∧ n < byteLen s := by
  induction s generalizing n with
  | nil => simp [startsChar]
  | cons c s ih =>
      have hpos := c.utf8Size_pos
      rw [startsChar_cons, isBoundary_cons, ih, byteLen_cons]
      constructor
      · rintro (rfl | ⟨hle, hboundary, hlt⟩)
        · exact ⟨.inl rfl, by omega⟩
        · exact ⟨.inr ⟨hle, hboundary⟩, by omega⟩
      · rintro ⟨rfl | ⟨hle, hboundary⟩, hlt⟩
        · exact .inl rfl
        · exact .inr ⟨hle, hboundary, by omega⟩

/-- The bytes tell where the characters meet. -/
lemma isCharBoundary_iff {s : Text} {n : Nat} : isCharBoundary s n = true ↔ IsBoundary s n := by
  unfold isCharBoundary
  rw [Bool.or_eq_true, Bool.or_eq_true, beq_iff_eq, beq_iff_eq, startsChar_iff]
  constructor
  · rintro ((rfl | rfl) | ⟨hboundary, -⟩)
    · exact isBoundary_zero s
    · exact isBoundary_byteLen s
    · exact hboundary
  · intro hboundary
    rcases hboundary.le.lt_or_eq with hlt | heq
    · exact .inr ⟨hboundary, hlt⟩
    · exact .inl (.inr heq)

/-! ## Cutting at an offset -/

/-- Keeps the first `n` bytes of a longer text (`String::truncate`), which panics off a
boundary. -/
def truncate (s : Text) (n : Nat) : Option Text :=
  if n ≤ byteLen s then
    if isCharBoundary s n then some (takeBytes n s) else none
  else some s

/-- Shortening to where a prefix ends leaves that prefix. -/
lemma truncate_byteLen {s p : Text} (hp : p <+: s) : truncate s (byteLen p) = some p := by
  have hboundary : isCharBoundary s (byteLen p) = true := isCharBoundary_iff.mpr ⟨p, hp, rfl⟩
  rw [truncate, if_pos (byteLen_mono hp), if_pos hboundary, takeBytes_byteLen hp]

/-! ## Offsets of characters -/

/-- The characters of a text that starts at an offset, each with its own (`str::char_indices`). -/
def charIndicesFrom (start : Nat) : Text → List (Nat × Char)
  | [] => []
  | c :: s => (start, c) :: charIndicesFrom (start + c.utf8Size) s

/-- The characters of a text with their offsets (`str::char_indices`). -/
def charIndices (s : Text) : List (Nat × Char) := charIndicesFrom 0 s

/-- In a text that is longer than a limit, the last offset within the limit is where the longest
fitting prefix ends. -/
lemma getLast?_takeWhile_charIndicesFrom {s : Text} (start : Nat) {n : Nat} (h : n < byteLen s) :
    (((charIndicesFrom start s).map Prod.fst).takeWhile fun index =>
        decide (index ≤ start + n)).getLast? = some (start + byteLen (takeBytes n s)) := by
  induction s generalizing start n with
  | nil => cases h
  | cons c s ih =>
      rw [charIndicesFrom, List.map_cons, List.takeWhile_cons_of_pos (by simp), takeBytes]
      by_cases hfit : c.utf8Size ≤ n
      · have hrest := ih (start + c.utf8Size) (n := n - c.utf8Size) (by
          rw [byteLen_cons] at h
          omega)
        have hlimit : start + c.utf8Size + (n - c.utf8Size) = start + n := by omega
        rw [hlimit] at hrest
        rw [if_pos hfit, List.getLast?_cons, hrest, Option.getD_some, byteLen_cons, Nat.add_assoc]
      · -- the next character starts behind the limit
        have hstop : ((charIndicesFrom (start + c.utf8Size) s).map Prod.fst).takeWhile
            (fun index => decide (index ≤ start + n)) = [] := by
          cases s with
          | nil => rfl
          | cons d s =>
              rw [charIndicesFrom, List.map_cons, List.takeWhile_cons_of_neg]
              rw [decide_eq_true_eq]
              omega
        rw [if_neg hfit, hstop]
        rfl

/-- The last offset within a limit that a text exceeds. -/
lemma getLast?_takeWhile_charIndices {s : Text} {n : Nat} (h : n < byteLen s) :
    (((charIndices s).map Prod.fst).takeWhile fun index => decide (index ≤ n)).getLast? =
      some (byteLen (takeBytes n s)) := by
  have hlast := getLast?_takeWhile_charIndicesFrom 0 h
  rwa [Nat.zero_add, Nat.zero_add] at hlast

/-! ## The longest fitting prefix -/

/-- `t` is the longest prefix of `s` that ends on a character boundary and has at most `maxBytes`
bytes. -/
structure IsLongestPrefix (s : Text) (maxBytes : Nat) (t : Text) : Prop where
  isPrefix : bytes t <+: bytes s
  boundary : isCharBoundary s (byteLen t) = true
  within : byteLen t ≤ maxBytes
  longest : ∀ n ≤ maxBytes, isCharBoundary s n = true → n ≤ byteLen t

/-- There is one longest prefix. -/
lemma isLongestPrefix_iff {s t : Text} {maxBytes : Nat} :
    IsLongestPrefix s maxBytes t ↔ t = takeBytes maxBytes s := by
  have hprefix := takeBytes_isPrefix maxBytes s
  have hfits := byteLen_takeBytes_le maxBytes s
  have hcut : isCharBoundary s (byteLen (takeBytes maxBytes s)) = true :=
    isCharBoundary_iff.mpr ⟨_, hprefix, rfl⟩
  constructor
  · intro h
    obtain ⟨p, hp, hlength⟩ := isCharBoundary_iff.mp h.boundary
    have hle : byteLen p ≤ byteLen (takeBytes maxBytes s) :=
      byteLen_mono (isPrefix_takeBytes hp (hlength.trans_le h.within))
    have hge := h.longest _ hfits hcut
    have hbytes : bytes (takeBytes maxBytes s) <+: bytes s := List.IsPrefix.flatMap hprefix _
    have hsame : (bytes t).length = (bytes (takeBytes maxBytes s)).length := by
      rw [length_bytes, length_bytes]
      omega
    exact bytes_injective
      ((List.prefix_of_prefix_length_le h.isPrefix hbytes hsame.le).eq_of_length hsame)
  · rintro rfl
    refine ⟨List.IsPrefix.flatMap hprefix _, hcut, hfits, ?_⟩
    intro n hn hboundary
    obtain ⟨p, hp, rfl⟩ := isCharBoundary_iff.mp hboundary
    exact byteLen_mono (isPrefix_takeBytes hp hn)

end Custode.Found.Text
