import Custode.Target
import Custode.Found.UrlPath

/-!
# The segments of an accepted path

What the checks of `OriginFormPath::parse` mean together. The scanners of `target.rs` run over
bytes and stop early; the library facts they establish are these:

* the escapes of an accepted path are complete and stand for no separator
  (`OriginFormPath.escaped`);
* no segment decodes to `.` or `..` (`OriginFormPath.decodeSegment_notMem`), because
  `scanDotSegment` recognises exactly those (`scanDotSegment_eq_true_iff`);
* the path of an HTTP URL set to an accepted path is that path (`OriginFormPath.parse_value`).

The allowlist uses the first two together, the URL join the last.
-/

namespace Custode

open Found Found.Text Found.Percent Found.Segments

/-! ## Bytes of an accepted path -/

/-- The conditions under which a path is accepted. -/
lemma pathError_eq_none_iff {path : Text} :
    pathError path = none ↔ byteLen path ≤ maxOriginFormPathBytes ∧ ['/'] <+: path ∧
      ¬ ['/', '/'] <+: path ∧ hasPathComponentDelimiter path = false ∧
      hasInvalidPathCharacter path = false ∧ hasValidPercentEncoding path = true ∧
      hasForbiddenSeparator path = false ∧ hasDotSegment path = false := by
  unfold pathError
  split_ifs <;> grind

/-- Every byte of the accepted alphabet is ASCII. -/
lemma toNat_of_isOriginFormPathByte {byte : UInt8} (h : isOriginFormPathByte byte = true) :
    byte.toNat < 128 := by
  have hall : ∀ n < 256, isOriginFormPathByte (UInt8.ofNat n) = true → n < 128 := by
    decide +kernel
  apply hall byte.toNat byte.toNat_lt
  rwa [UInt8.ofNat_toNat]

/-- An accepted path is made of one-byte characters of the accepted alphabet. -/
lemma accepted_path_chars {path : Text} (h : hasInvalidPathCharacter path = false) :
    ∀ c ∈ path, c.utf8Size = 1 ∧ isOriginFormPathByte c.val.toUInt8 = true := by
  apply chars_of_bytes fun b => toNat_of_isOriginFormPathByte
  intro b hb
  unfold hasInvalidPathCharacter at h
  rw [List.any_eq_false] at h
  simpa using h b hb

/-- A path separator byte, of either kind. -/
def isSeparatorByte (byte : UInt8) : Bool := byte == '/'.toUInt8 || byte == '\\'.toUInt8

/-- A slash is neither `%` nor a hex digit. -/
lemma separates_slash : Separates (· == '/'.toUInt8) where
  percent := by decide
  hex := by
    intro byte h
    rw [beq_eq_false_iff_ne]
    rintro rfl
    exact absurd h (by decide)

/-- A separator is neither `%` nor a hex digit. -/
lemma separates_isSeparatorByte : Separates isSeparatorByte where
  percent := by decide
  hex := by
    intro byte h
    rw [isSeparatorByte, Bool.or_eq_false_iff, beq_eq_false_iff_ne, beq_eq_false_iff_ne]
    constructor
    · rintro rfl
      exact absurd h (by decide)
    · rintro rfl
      exact absurd h (by decide)

/-! ## What the scanners establish -/

/-- Two bytes are an escape when both are hex digits. -/
lemma isSome_hexPair_iff {first second : UInt8} :
    (hexPair first second).isSome ↔
      isAsciiHexdigit first = true ∧ isAsciiHexdigit second = true := by
  have hfirst : isAsciiHexdigit first = (hexDigit first).isSome := rfl
  have hsecond : isAsciiHexdigit second = (hexDigit second).isSome := rfl
  rw [hfirst, hsecond, hexPair]
  rcases hexDigit first with _ | high
  · simp
  · rcases hexDigit second with _ | low <;> simp

/-- The scan for escapes passes any other byte. -/
lemma scanPercentEncoding_of_ne {byte : UInt8} (h : byte ≠ '%'.toUInt8) (data : List UInt8) :
    scanPercentEncoding (byte :: data) = scanPercentEncoding data := by
  rw [scanPercentEncoding.eq_def]
  simp only [h, if_false]

/-- The escapes of a scanned text are complete. -/
lemma scanPercentEncoding_eq_true_iff {data : List UInt8} :
    scanPercentEncoding data = true ↔ Escaped (fun _ => True) data := by
  constructor
  · intro h
    induction data using scanPercentEncoding.induct with
    | case1 => exact .nil
    | case2 first second rest hbad =>
        simp only [scanPercentEncoding, if_true, hbad] at h
        cases h
    | case3 first second rest hok ih =>
        simp only [scanPercentEncoding, if_true, hok] at h
        simp only [Bool.or_eq_true, Bool.not_eq_true', not_or, Bool.not_eq_false] at hok
        obtain ⟨decoded, hpair⟩ := Option.isSome_iff_exists.mp (isSome_hexPair_iff.mpr hok)
        exact .escape hpair trivial (ih h)
    | case4 data hshort =>
        rw [scanPercentEncoding.eq_3 _ _ hshort, if_pos rfl] at h
        cases h
    | case5 byte data hplain ih =>
        rw [scanPercentEncoding_of_ne hplain] at h
        exact .byte hplain (ih h)
  · intro h
    induction h with
    | nil => rfl
    | @byte byte data plain _ ih =>
        rw [scanPercentEncoding_of_ne plain]
        exact ih
    | @escape first second decoded data pair _ _ ih =>
        obtain ⟨hfirst, hsecond⟩ := isSome_hexPair_iff.mp (by rw [pair]; rfl)
        simp only [scanPercentEncoding, if_true, hfirst, hsecond]
        exact ih

/-- The separator scanner over complete escapes: it finds every literal `\`, and every escape that
stands for a separator. -/
lemma scanForbiddenSeparator_eq_false_iff {data : List UInt8} (h : Escaped (fun _ => True) data) :
    scanForbiddenSeparator data = false ↔
      Escaped (fun byte => isSeparatorByte byte = false) data ∧ '\\'.toUInt8 ∉ data := by
  have hpercent : ¬ '%'.toUInt8 = '\\'.toUInt8 := by decide
  induction h with
  | nil => exact iff_of_true rfl ⟨.nil, List.not_mem_nil⟩
  | @byte byte data plain _ ih =>
      rw [scanForbiddenSeparator.eq_def]
      simp only [plain, if_false]
      by_cases hback : byte = '\\'.toUInt8
      · rw [if_pos hback, hback]
        exact iff_of_false (by decide) fun h => h.2 List.mem_cons_self
      · rw [if_neg hback, List.mem_cons, not_or]
        apply ih.trans
        constructor
        · rintro ⟨hdata, hmem⟩
          exact ⟨.byte plain hdata, Ne.symm hback, hmem⟩
        · rintro ⟨hdata, -, hmem⟩
          refine ⟨?_, hmem⟩
          cases hdata with
          | byte _ hdata => exact hdata
          | escape _ _ _ => exact absurd rfl plain
  | @escape first second decoded data pair _ _ ih =>
      obtain ⟨hfirst, hsecond⟩ := separates_isSeparatorByte.pair pair
      have hdecode : decodeHexPair first second = some decoded := pair
      rw [scanForbiddenSeparator.eq_def]
      simp only [hpercent, if_false, if_true, hdecode]
      unfold isSeparatorByte at hfirst hsecond
      rw [Bool.or_eq_false_iff, beq_eq_false_iff_ne, beq_eq_false_iff_ne] at hfirst hsecond
      by_cases hsep : isSeparatorByte decoded = true
      · rw [isSeparatorByte, Bool.or_eq_true, beq_iff_eq, beq_iff_eq] at hsep
        rw [if_pos hsep]
        refine iff_of_false (by decide) ?_
        rintro ⟨hdata, -⟩
        cases hdata with
        | byte plain _ => exact plain rfl
        | escape pair' accepted _ =>
            rw [pair, Option.some.injEq] at pair'
            subst pair'
            rw [isSeparatorByte, Bool.or_eq_false_iff, beq_eq_false_iff_ne, beq_eq_false_iff_ne]
              at accepted
            exact hsep.elim accepted.1 accepted.2
      · have hsep' := hsep
        rw [isSeparatorByte, Bool.or_eq_true, beq_iff_eq, beq_iff_eq] at hsep'
        rw [if_neg hsep']
        apply ih.trans
        simp only [List.mem_cons, not_or]
        constructor
        · rintro ⟨hdata, hmem⟩
          exact ⟨.escape pair (Bool.not_eq_true _ ▸ hsep) hdata, Ne.symm hpercent,
            Ne.symm hfirst.2, Ne.symm hsecond.2, hmem⟩
        · rintro ⟨hdata, -, -, -, hmem⟩
          refine ⟨?_, hmem⟩
          cases hdata with
          | byte plain _ => exact absurd rfl plain
          | escape _ _ hdata => exact hdata

/-- The number of dots that a state has seen. -/
def DotSegmentState.dots : DotSegmentState → Nat
  | .empty => 0
  | .oneDot => 1
  | .twoDots => 2
  | .tooLong => 3

/-- One decoded byte of the dot-segment scanner, in front of decoded bytes that the scanner
recognises from the next state. -/
lemma scanDot_step {state : DotSegmentState} (hstate : state ≠ .tooLong) {byte : UInt8}
    {decoded : List UInt8} {scanned : Bool}
    (ih : state.acceptDot ≠ .tooLong → (scanned = true ↔
      ∃ n, decoded = List.replicate n '.'.toUInt8 ∧
        1 ≤ state.acceptDot.dots + n ∧ state.acceptDot.dots + n ≤ 2)) :
    (if byte ≠ '.'.toUInt8 then false
      else if state.acceptDot = .tooLong then false else scanned) = true ↔
      ∃ n, byte :: decoded = List.replicate n '.'.toUInt8 ∧ 1 ≤ state.dots + n ∧
        state.dots + n ≤ 2 := by
  by_cases hbyte : byte = '.'.toUInt8
  · have hcons : ∀ n, byte :: decoded = List.replicate n '.'.toUInt8 ↔
        ∃ k, n = k + 1 ∧ decoded = List.replicate k '.'.toUInt8 := by
      intro n
      cases n with
      | zero => simp
      | succ k => simp [List.replicate_succ, hbyte]
    rw [if_neg (not_not_intro hbyte)]
    by_cases hlong : state.acceptDot = .tooLong
    · rw [if_pos hlong]
      refine iff_of_false Bool.false_ne_true ?_
      rintro ⟨n, hn, -, hle⟩
      obtain ⟨k, rfl, -⟩ := (hcons n).mp hn
      have htwo : state.dots = 2 := by
        cases state <;> simp [DotSegmentState.acceptDot, DotSegmentState.dots] at hlong hstate ⊢
      omega
    · have hdots : state.acceptDot.dots = state.dots + 1 := by
        cases state <;> simp [DotSegmentState.acceptDot, DotSegmentState.dots] at hlong ⊢
      rw [if_neg hlong, ih hlong, hdots]
      constructor
      · rintro ⟨n, hn, hge, hle⟩
        exact ⟨n + 1, (hcons _).mpr ⟨n, rfl, hn⟩, by omega, by omega⟩
      · rintro ⟨n, hn, hge, hle⟩
        obtain ⟨k, rfl, hk⟩ := (hcons n).mp hn
        exact ⟨k, hk, by omega, by omega⟩
  · rw [if_pos hbyte]
    refine iff_of_false Bool.false_ne_true ?_
    rintro ⟨n, hn, -, -⟩
    exact hbyte (List.eq_of_mem_replicate (hn ▸ List.mem_cons_self))

/-- The dot-segment scanner over complete escapes recognises what decodes to one or two dots,
counting those it has seen. -/
lemma scanDotSegment_eq_true_iff {ok : UInt8 → Prop} {data : List UInt8} (h : Escaped ok data)
    {state : DotSegmentState} (hstate : state ≠ .tooLong) :
    scanDotSegment state data = true ↔ ∃ n, decode data = List.replicate n '.'.toUInt8 ∧
      1 ≤ state.dots + n ∧ state.dots + n ≤ 2 := by
  induction h generalizing state with
  | nil =>
      unfold scanDotSegment
      simp only [decode_nil, List.nil_eq, List.replicate_eq_nil_iff]
      cases state <;> simp [DotSegmentState.isRejected, DotSegmentState.dots] at hstate ⊢
  | @byte byte data plain _ ih =>
      rw [scanDotSegment.eq_def, decode_byte plain]
      simp only [plain, if_false]
      exact scanDot_step hstate fun hlong => ih hlong
  | @escape first second decoded data pair _ _ ih =>
      have hdecode : decodeHexPair first second = some decoded := pair
      rw [scanDotSegment.eq_def, decode_escape pair]
      simp only [if_true, hdecode]
      exact scanDot_step hstate fun hlong => ih hlong

/-! ## Accepted paths -/

/-- The segment of a text, decoded. -/
def decodeSegment (segment : Text) : List UInt8 := decode (bytes segment)

/-- The segments `.` and `..`. -/
def dotSegments : List (List UInt8) := [bytes ".".toList, bytes "..".toList]

/-- The segments of a decoded path after its dot segments were resolved. -/
def normaliseSegments (segments : List (List UInt8)) : List (List UInt8) :=
  removeDotSegments (· == bytes ".".toList) (· == bytes "..".toList) [] [] segments

/-- Splitting the bytes at `/` splits the characters at `/`. -/
lemma splitOn_slash_bytes {path : Text} (hone : ∀ c ∈ path, c.utf8Size = 1) :
    (bytes path).splitOn '/'.toUInt8 = (path.splitOn '/').map bytes := by
  have hslash : ∀ c ∈ path, (c.val.toUInt8 == '/'.toUInt8) = (c == '/') := by
    intro c hc
    by_cases h : c = '/'
    · subst h
      rfl
    · rw [beq_false_of_ne h, beq_false_of_ne]
      intro hbyte
      exact h (eq_of_byte_eq (hone c hc) (by decide) hbyte)
  rw [bytes_eq_map hone, List.splitOn_eq_splitOnP, splitOnP_map, splitOnP_congr hslash,
    ← List.splitOn_eq_splitOnP]
  apply List.map_congr_left
  intro segment hsegment
  rw [List.splitOn_eq_splitOnP] at hsegment
  rw [bytes_eq_map fun c hc => hone c (of_mem_splitOnP hsegment c hc).1]

/-- A segment of a text with complete escapes has complete escapes. -/
lemma escaped_of_mem_splitOn {ok : UInt8 → Prop} {path segment : Text}
    (hone : ∀ c ∈ path, c.utf8Size = 1) (hpath : Escaped ok (bytes path))
    (h : segment ∈ path.splitOn '/') : Escaped ok (bytes segment) := by
  apply hpath.of_mem_splitOnP separates_slash
  rw [← List.splitOn_eq_splitOnP, splitOn_slash_bytes hone]
  exact List.mem_map_of_mem h

/-- The scanner finds the segments that decode to `.` or `..`. -/
lemma segmentIsDotSegment_eq_true_iff {ok : UInt8 → Prop} {segment : Text}
    (h : Escaped ok (bytes segment)) :
    segmentIsDotSegment segment = true ↔ decodeSegment segment ∈ dotSegments := by
  rw [segmentIsDotSegment, scanDotSegment_eq_true_iff h (by decide)]
  simp only [dotSegments, List.mem_cons, List.not_mem_nil, or_false]
  constructor
  · rintro ⟨n, hdots, hone, htwo⟩
    obtain rfl | rfl : n = 1 ∨ n = 2 := by
      simp only [DotSegmentState.dots] at hone htwo
      omega
    · exact .inl hdots
    · exact .inr hdots
  · rintro (hdots | hdots)
    · exact ⟨1, hdots, by decide, by decide⟩
    · exact ⟨2, hdots, by decide, by decide⟩

namespace OriginFormPath

variable (path : OriginFormPath)

/-- The segments of the path text. -/
def segments : List Text := path.value.splitOn '/'

/-- The path, percent-decoded once. -/
def decoded : List UInt8 := decode (bytes path.value)

/-- An accepted path is ASCII, of path bytes. -/
lemma chars : ∀ c ∈ path.value, c.utf8Size = 1 ∧ isOriginFormPathByte c.val.toUInt8 = true :=
  accepted_path_chars (pathError_eq_none_iff.mp path.accepted).2.2.2.2.1

/-- The escapes of an accepted path stand for no separator, and it has no `\`. -/
lemma escaped : Escaped (fun byte => isSeparatorByte byte = false) (bytes path.value) ∧
    '\\'.toUInt8 ∉ bytes path.value := by
  obtain ⟨-, -, -, -, -, hescapes, hseparator, -⟩ := pathError_eq_none_iff.mp path.accepted
  have hcomplete := scanPercentEncoding_eq_true_iff.mp hescapes
  exact (scanForbiddenSeparator_eq_false_iff hcomplete).mp hseparator

/-- An accepted path has no backslash. -/
lemma backslash_notMem : '\\' ∉ path.value := by
  intro h
  apply path.escaped.2
  rw [bytes_eq_map fun c hc => (path.chars c hc).1]
  exact List.mem_map_of_mem h

/-- Splitting the bytes of a path is splitting its characters. -/
lemma splitOn_bytes : (bytes path.value).splitOn '/'.toUInt8 = path.segments.map bytes :=
  splitOn_slash_bytes fun c hc => (path.chars c hc).1

/-- Both separators split the bytes where `/` does. -/
lemma splitOnP_bytes : (bytes path.value).splitOnP isSeparatorByte = path.segments.map bytes := by
  rw [← path.splitOn_bytes, List.splitOn_eq_splitOnP]
  apply splitOnP_congr
  intro byte hbyte
  have hback : byte ≠ '\\'.toUInt8 := fun h => path.escaped.2 (h ▸ hbyte)
  rw [isSeparatorByte, beq_false_of_ne hback, Bool.or_false]

/-- A segment of an accepted path has complete escapes. -/
lemma escaped_segment {segment : Text} (h : segment ∈ path.segments) :
    Escaped (fun byte => isSeparatorByte byte = false) (bytes segment) :=
  escaped_of_mem_splitOn (fun c hc => (path.chars c hc).1) path.escaped.1 h

/-- No segment of an accepted path decodes to a dot segment. -/
lemma decodeSegment_notMem {segment : Text} (h : segment ∈ path.segments) :
    decodeSegment segment ∉ dotSegments := by
  have hdots := (pathError_eq_none_iff.mp path.accepted).2.2.2.2.2.2.2
  rw [hasDotSegment, List.any_eq_false] at hdots
  rw [← segmentIsDotSegment_eq_true_iff (path.escaped_segment h)]
  exact hdots segment h

/-- Decoding the path and splitting it gives its decoded segments, for each choice of separators. -/
lemma splitOn_decoded : path.decoded.splitOn '/'.toUInt8 = path.segments.map decodeSegment ∧
    path.decoded.splitOnP isSeparatorByte = path.segments.map decodeSegment := by
  have hslash : ∀ byte, isSeparatorByte byte = false → (byte == '/'.toUInt8) = false := by
    intro byte h
    rw [isSeparatorByte, Bool.or_eq_false_iff] at h
    exact h.1
  constructor
  · rw [decoded, List.splitOn_eq_splitOnP,
      (path.escaped.1.mono hslash).splitOnP_decode separates_slash, ← List.splitOn_eq_splitOnP,
      path.splitOn_bytes, List.map_map]
    rfl
  · rw [decoded, path.escaped.1.splitOnP_decode separates_isSeparatorByte, path.splitOnP_bytes,
      List.map_map]
    rfl

/-- A decoded segment has no separator in it. -/
lemma separator_notMem {segment : Text} (h : segment ∈ path.segments) :
    ∀ byte ∈ decodeSegment segment, isSeparatorByte byte = false := by
  have hmem : decodeSegment segment ∈ path.decoded.splitOnP isSeparatorByte := by
    rw [path.splitOn_decoded.2]
    exact List.mem_map_of_mem h
  exact fun byte hbyte => (of_mem_splitOnP hmem byte hbyte).2

/-- Resolving dot segments leaves the decoded path as it is. -/
lemma normaliseSegments_decoded :
    normaliseSegments (path.segments.map decodeSegment) = path.segments.map decodeSegment := by
  refine (removeDotSegments_of_plain ?_ []).trans (List.nil_append _)
  intro segment hsegment
  obtain ⟨raw, hraw, rfl⟩ := List.mem_map.mp hsegment
  have hplain := path.decodeSegment_notMem hraw
  simp only [dotSegments, List.mem_cons, List.not_mem_nil, or_false, not_or] at hplain
  exact ⟨beq_false_of_ne hplain.1, beq_false_of_ne hplain.2⟩

/-! ## Setting the path of a URL -/

/-- A character of an accepted path is not dropped, rewritten or encoded by the URL parser. -/
lemma plain_char {c : Char} (h : c ∈ path.value) :
    UrlPath.isTabOrNewline c = false ∧ UrlPath.pathSet c = false := by
  obtain ⟨hsize, hbyte⟩ := path.chars c h
  have hback : c ≠ '\\' := fun hc => path.backslash_notMem (hc ▸ h)
  have hsmall : c.toNat < 128 := by
    rw [Char.utf8Size_eq_one_iff, UInt32.le_iff_toNat_le] at hsize
    exact Nat.lt_succ_of_le hsize
  have hall : ∀ n < 128, isOriginFormPathByte (Char.ofNat n).val.toUInt8 = true →
      Char.ofNat n ≠ '\\' →
      UrlPath.isTabOrNewline (Char.ofNat n) = false ∧ UrlPath.pathSet (Char.ofNat n) = false := by
    decide +kernel
  have hc := hall c.toNat hsmall
  rw [Char.ofNat_toNat] at hc
  exact hc hbyte hback

/-- The path of an HTTP URL that was set to an accepted path is that path. -/
lemma parse_value : UrlPath.parse path.value = path.value := by
  obtain ⟨rest, hrest⟩ := path.slash_prefix
  rw [List.singleton_append] at hrest
  have hmem : ∀ c ∈ rest, c ∈ path.value := fun c hc => hrest ▸ List.mem_cons_of_mem _ hc
  have hsegments : path.segments = [] :: rest.splitOn '/' := by
    rw [segments, ← hrest, List.splitOn_cons_eq_if_modifyHead, if_pos (by decide)]
  have hspelled : ∀ segment ∈ UrlPath.singleDots ++ UrlPath.doubleDots,
      segmentIsDotSegment segment = true := forall_mem_of_all (by decide +kernel)
  have hdots := (pathError_eq_none_iff.mp path.accepted).2.2.2.2.2.2.2
  rw [hasDotSegment, List.any_eq_false] at hdots
  rw [← hrest]
  apply UrlPath.parse_eq_self
  · exact fun c hc => (path.plain_char (hmem c hc)).1
  · exact fun c hc hback => path.backslash_notMem (hback ▸ hmem c hc)
  · exact fun c hc => (path.plain_char (hmem c hc)).2
  · intro segment hsegment
    have hplain := hdots segment (by
      change segment ∈ path.segments
      rw [hsegments]
      exact List.mem_cons_of_mem _ hsegment)
    rw [← Bool.not_eq_true, ← Bool.not_eq_true, List.contains_iff_mem, List.contains_iff_mem]
    constructor
    · exact fun h => hplain (hspelled segment (List.mem_append_left _ h))
    · exact fun h => hplain (hspelled segment (List.mem_append_right _ h))

end OriginFormPath

end Custode
