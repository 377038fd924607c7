import Custode.Target.Segments
import Custode.Found.Checks

/-!
# The grammar of request targets

`PathGrammar` and `QueryGrammar` say which texts are accepted, by position and without a scanner.
`pathChecks` and `queryChecks` are the same conditions in the order in which `target.rs` documents
its errors: size, form, characters, escapes, separators, dot segments. A raw `\` passes the
character check and is reported as a separator.

The scanners of the source are only right behind the checks made before them (they stop silently
at an incomplete escape), so `pathError_eq` compares them with the conditions one by one, each under
the earlier ones.
-/

namespace Custode

open Found Found.Text Found.Percent Found.Segments Found.Checks

/-! ## The grammar -/

/-- Every `%` is followed by two hex digits. -/
def EscapesComplete (data : List UInt8) : Prop :=
  ∀ front rest, data = front ++ '%'.toUInt8 :: rest →
    ∃ first second tail, rest = first :: second :: tail ∧
      (hexDigit first).isSome = true ∧ (hexDigit second).isSome = true

/-- No escape decodes to `/` or `\`. -/
def NoEscapedSeparator (data : List UInt8) : Prop :=
  ∀ front first second tail, data = front ++ '%'.toUInt8 :: first :: second :: tail →
    hexPair first second ≠ some '/'.toUInt8 ∧ hexPair first second ≠ some '\\'.toUInt8

/-- No `/`-separated segment decodes to `.` or `..`. -/
def NoDotSegment (path : Text) : Prop :=
  ∀ segment ∈ path.splitOn '/', decodeSegment segment ∉ dotSegments

/-- The accepted paths. -/
structure PathGrammar (path : Text) : Prop where
  short : byteLen path ≤ 4096
  slash : ['/'] <+: path
  oneSlash : ¬ ['/', '/'] <+: path
  alphabet : ∀ byte ∈ bytes path, isOriginFormTextByte byte = true
  escapes : EscapesComplete (bytes path)
  separators : NoEscapedSeparator (bytes path)
  segments : NoDotSegment path

/-- The accepted queries. -/
structure QueryGrammar (query : Text) : Prop where
  short : byteLen query ≤ 8192
  alphabet : ∀ byte ∈ bytes query, isOriginFormTextByte byte = true ∨ byte = '?'.toUInt8
  escapes : EscapesComplete (bytes query)

/-- The conditions on a path, in the order they are checked. -/
def pathChecks (path : Text) : List (OriginFormPathError × Prop) :=
  [(.tooLong, byteLen path ≤ 4096),
    (.nonOriginForm, ['/'] <+: path),
    (.nonOriginForm, ¬ ['/', '/'] <+: path),
    (.nonOriginForm, '?'.toUInt8 ∉ bytes path ∧ '#'.toUInt8 ∉ bytes path),
    (.invalidRequestTargetCharacter,
      ∀ byte ∈ bytes path, isOriginFormTextByte byte = true ∨ byte = '\\'.toUInt8),
    (.invalidPercentEncoding, EscapesComplete (bytes path)),
    (.encodedSeparator, '\\'.toUInt8 ∉ bytes path ∧ NoEscapedSeparator (bytes path)),
    (.dotSegment, NoDotSegment path)]

/-- The conditions on a query, in the order they are checked. -/
def queryChecks (query : Text) : List (OriginFormQueryError × Prop) :=
  [(.tooLong, byteLen query ≤ 8192),
    (.fragmentDelimiter, '#'.toUInt8 ∉ bytes query),
    (.invalidRequestTargetCharacter,
      ∀ byte ∈ bytes query, isOriginFormTextByte byte = true ∨ byte = '?'.toUInt8),
    (.invalidPercentEncoding, EscapesComplete (bytes query))]

/-- What is outside the text alphabet: controls, blanks, everything that is not ASCII, and these
characters. -/
lemma alphabet_excludes {byte : UInt8} (h : isOriginFormTextByte byte = true) :
    32 < byte.toNat ∧ byte.toNat < 127 ∧
      byte ∉ "?#\\\"`^|<>[]\x7b\x7d".toList.map Char.toUInt8 := by
  have hall : ∀ byte : Fin 256, isOriginFormTextByte (UInt8.ofFin byte) = true →
      32 < byte.val ∧ byte.val < 127 ∧
        UInt8.ofFin byte ∉ "?#\\\"`^|<>[]\x7b\x7d".toList.map Char.toUInt8 := by decide +kernel
  exact hall byte.toFin h

/-! ## The scanners decide the conditions -/

/-- Complete escapes are those of the library, with any decoded byte. -/
lemma escapesComplete_iff {data : List UInt8} :
    EscapesComplete data ↔ Escaped (fun _ => True) data := by
  rw [escaped_iff]
  constructor
  · intro h front rest hsplit
    obtain ⟨first, second, tail, hrest, hfirst, hsecond⟩ := h front rest hsplit
    obtain ⟨decoded, hpair⟩ :=
      Option.isSome_iff_exists.mp (isSome_hexPair_iff.mpr ⟨hfirst, hsecond⟩)
    exact ⟨first, second, decoded, tail, hrest, hpair, trivial⟩
  · intro h front rest hsplit
    obtain ⟨first, second, decoded, tail, hrest, hpair, -⟩ := h front rest hsplit
    obtain ⟨hfirst, hsecond⟩ := hexDigit_of_hexPair hpair
    exact ⟨first, second, tail, hrest, hfirst, hsecond⟩

/-- A byte that is no separator. -/
lemma isSeparatorByte_eq_false_iff {byte : UInt8} :
    isSeparatorByte byte = false ↔ byte ≠ '/'.toUInt8 ∧ byte ≠ '\\'.toUInt8 := by
  rw [isSeparatorByte, Bool.or_eq_false_iff, beq_eq_false_iff_ne, beq_eq_false_iff_ne]

/-- Over complete escapes. -/
lemma noEscapedSeparator_iff {data : List UInt8} (hcomplete : EscapesComplete data) :
    NoEscapedSeparator data ↔ Escaped (fun byte => isSeparatorByte byte = false) data := by
  rw [escaped_iff]
  constructor
  · intro h front rest hsplit
    obtain ⟨first, second, tail, rfl, hfirst, hsecond⟩ := hcomplete front rest hsplit
    obtain ⟨decoded, hpair⟩ :=
      Option.isSome_iff_exists.mp (isSome_hexPair_iff.mpr ⟨hfirst, hsecond⟩)
    refine ⟨first, second, decoded, tail, rfl, hpair, isSeparatorByte_eq_false_iff.mpr ?_⟩
    have hplain := h front first second tail hsplit
    rw [hpair, ne_eq, ne_eq, Option.some.injEq, Option.some.injEq] at hplain
    exact hplain
  · intro h front first second tail hsplit
    obtain ⟨first', second', decoded, tail', hrest, hpair, hplain⟩ := h front _ hsplit
    obtain ⟨rfl, rfl, rfl⟩ : first = first' ∧ second = second' ∧ tail = tail' := by
      simpa using hrest
    rw [hpair, ne_eq, ne_eq, Option.some.injEq, Option.some.injEq]
    exact isSeparatorByte_eq_false_iff.mp hplain

/-- The scan for escapes finds them complete. -/
lemma hasValidPercentEncoding_iff {value : Text} :
    hasValidPercentEncoding value = true ↔ EscapesComplete (bytes value) := by
  rw [hasValidPercentEncoding, scanPercentEncoding_eq_true_iff, escapesComplete_iff]

/-- Behind the escape check. -/
lemma hasForbiddenSeparator_iff {path : Text} (hcomplete : EscapesComplete (bytes path)) :
    hasForbiddenSeparator path = true ↔
      ¬ ('\\'.toUInt8 ∉ bytes path ∧ NoEscapedSeparator (bytes path)) := by
  rw [noEscapedSeparator_iff hcomplete, and_comm,
    ← scanForbiddenSeparator_eq_false_iff (escapesComplete_iff.mp hcomplete), Bool.not_eq_false,
    hasForbiddenSeparator]

/-- Behind the character and escape checks. -/
lemma hasDotSegment_iff {path : Text} (hone : ∀ c ∈ path, c.utf8Size = 1)
    (hcomplete : EscapesComplete (bytes path)) :
    hasDotSegment path = true ↔ ¬ NoDotSegment path := by
  unfold hasDotSegment NoDotSegment
  rw [List.any_eq_true]
  push Not
  apply exists_congr
  intro segment
  apply and_congr_right
  intro hsegment
  exact segmentIsDotSegment_eq_true_iff
    (escaped_of_mem_splitOn hone (escapesComplete_iff.mp hcomplete) hsegment)

/-- The test for delimiters finds one. -/
lemma hasPathComponentDelimiter_iff {path : Text} :
    hasPathComponentDelimiter path = true ↔
      ¬ ('?'.toUInt8 ∉ bytes path ∧ '#'.toUInt8 ∉ bytes path) := by
  unfold hasPathComponentDelimiter
  rw [List.any_eq_true]
  simp only [Bool.or_eq_true, beq_iff_eq]
  constructor
  · rintro ⟨byte, hbyte, rfl | rfl⟩ ⟨hquestion, hhash⟩
    · exact hquestion hbyte
    · exact hhash hbyte
  · intro h
    by_cases hquestion : '?'.toUInt8 ∈ bytes path
    · exact ⟨_, hquestion, .inl rfl⟩
    · have hhash : '#'.toUInt8 ∈ bytes path := by
        by_contra hhash
        exact h ⟨hquestion, hhash⟩
      exact ⟨_, hhash, .inr rfl⟩

/-- The test of a path's characters finds one outside the alphabet. -/
lemma hasInvalidPathCharacter_iff {path : Text} :
    hasInvalidPathCharacter path = true ↔
      ¬ ∀ byte ∈ bytes path, isOriginFormTextByte byte = true ∨ byte = '\\'.toUInt8 := by
  unfold hasInvalidPathCharacter isOriginFormPathByte
  simp

/-- The test of a query's characters finds one outside the alphabet. -/
lemma hasInvalidQueryCharacter_iff {query : Text} :
    hasInvalidQueryCharacter query = true ↔
      ¬ ∀ byte ∈ bytes query, isOriginFormTextByte byte = true ∨ byte = '?'.toUInt8 := by
  unfold hasInvalidQueryCharacter isOriginFormQueryByte
  simp

/-- The checks of a path report the first violated condition. -/
lemma pathError_eq (path : Text) : pathError path = firstError (pathChecks path) := by
  unfold pathError pathChecks
  refine firstError_cons Nat.not_le.symm fun _ => ?_
  refine firstError_cons Iff.rfl fun _ => ?_
  refine firstError_cons not_not.symm fun _ => ?_
  refine firstError_cons hasPathComponentDelimiter_iff fun _ => ?_
  refine firstError_cons hasInvalidPathCharacter_iff fun hcharacters => ?_
  have hone : ∀ c ∈ path, c.utf8Size = 1 := by
    have hvalid : hasInvalidPathCharacter path = false := by
      rw [← Bool.not_eq_true, hasInvalidPathCharacter_iff]
      exact not_not_intro hcharacters
    exact fun c hc => (accepted_path_chars hvalid c hc).1
  refine firstError_cons ?_ fun hcomplete => ?_
  · rw [← hasValidPercentEncoding_iff]
    simp
  refine firstError_cons (hasForbiddenSeparator_iff hcomplete) fun _ => ?_
  exact firstError_cons (hasDotSegment_iff hone hcomplete) fun _ => rfl

/-- The checks of a query report the first violated condition. -/
lemma queryError_eq (query : Text) : queryError query = firstError (queryChecks query) := by
  unfold queryError queryChecks
  refine firstError_cons Nat.not_le.symm fun _ => ?_
  refine firstError_cons ?_ fun _ => ?_
  · simp [hasQueryComponentDelimiter]
  refine firstError_cons hasInvalidQueryCharacter_iff fun _ => ?_
  refine firstError_cons ?_ fun _ => rfl
  rw [← hasValidPercentEncoding_iff]
  simp

/-! ## The parsers -/

/-- The grammar of paths is what all conditions say together. -/
lemma pathGrammar_iff {path : Text} :
    PathGrammar path ↔ ∀ check ∈ pathChecks path, check.2 := by
  simp only [pathChecks, List.forall_mem_cons]
  constructor
  · intro h
    have hexcluded (c : Char) (hc : isOriginFormTextByte c.toUInt8 = false) :
        c.toUInt8 ∉ bytes path := by
      intro hmem
      rw [h.alphabet _ hmem] at hc
      cases hc
    exact ⟨h.short, h.slash, h.oneSlash, ⟨hexcluded '?' (by decide), hexcluded '#' (by decide)⟩,
      fun byte hbyte => .inl (h.alphabet byte hbyte), h.escapes,
      ⟨hexcluded '\\' (by decide), h.separators⟩, h.segments, by simp⟩
  · rintro ⟨hshort, hslash, honeSlash, -, hcharacters, hescapes, ⟨hback, hseparators⟩, hsegments, -⟩
    refine ⟨hshort, hslash, honeSlash, ?_, hescapes, hseparators, hsegments⟩
    intro byte hbyte
    rcases hcharacters byte hbyte with htext | rfl
    · exact htext
    · exact absurd hbyte hback

/-- The grammar of queries is what all conditions say together. -/
lemma queryGrammar_iff {query : Text} :
    QueryGrammar query ↔ ∀ check ∈ queryChecks query, check.2 := by
  simp only [queryChecks, List.forall_mem_cons]
  constructor
  · intro h
    refine ⟨h.short, ?_, h.alphabet, h.escapes, by simp⟩
    intro hmem
    rcases h.alphabet _ hmem with htext | heq
    · exact absurd htext (by decide)
    · exact absurd heq (by decide)
  · rintro ⟨hshort, -, hcharacters, hescapes, -⟩
    exact ⟨hshort, hcharacters, hescapes⟩

/-- The parsers accept exactly the texts of the grammars, as they are, and report the first violated
condition of all others. -/
theorem target_grammar :
    (∀ path : Text,
      ((∃ accepted, OriginFormPath.parse path = .ok accepted) ↔ PathGrammar path) ∧
      (∀ accepted, OriginFormPath.parse path = .ok accepted → accepted.value = path) ∧
      ∀ error, OriginFormPath.parse path = .error error ↔
        FirstViolated (pathChecks path) error) ∧
    (∀ query : Text,
      ((∃ accepted, OriginFormQuery.parse query = .ok accepted) ↔ QueryGrammar query) ∧
      (∀ accepted, OriginFormQuery.parse query = .ok accepted → accepted.value = query) ∧
      ∀ error, OriginFormQuery.parse query = .error error ↔
        FirstViolated (queryChecks query) error) ∧
    ∀ byte, isOriginFormTextByte byte = true → 32 < byte.toNat ∧ byte.toNat < 127 ∧
      byte ∉ "?#\\\"`^|<>[]\x7b\x7d".toList.map Char.toUInt8 := by
  refine ⟨fun path => ⟨?_, ?_, ?_⟩, fun query => ⟨?_, ?_, ?_⟩, fun byte => alphabet_excludes⟩
  · rw [pathGrammar_iff, ← firstError_eq_none_iff, ← pathError_eq]
    constructor
    · rintro ⟨accepted, haccepted⟩
      exact (OriginFormPath.parse_eq_ok_iff.mp haccepted).1
    · intro h
      exact ⟨_, OriginFormPath.parse_eq_ok h⟩
  · intro accepted haccepted
    exact (OriginFormPath.parse_eq_ok_iff.mp haccepted).2
  · intro error
    rw [OriginFormPath.parse_eq_error_iff, pathError_eq, firstError_eq_some_iff]
  · rw [queryGrammar_iff, ← firstError_eq_none_iff, ← queryError_eq]
    constructor
    · rintro ⟨accepted, haccepted⟩
      exact (OriginFormQuery.parse_eq_ok_iff.mp haccepted).1
    · intro h
      exact ⟨_, OriginFormQuery.parse_eq_ok h⟩
  · intro accepted haccepted
    exact (OriginFormQuery.parse_eq_ok_iff.mp haccepted).2
  · intro error
    rw [OriginFormQuery.parse_eq_error_iff, queryError_eq, firstError_eq_some_iff]

end Custode
