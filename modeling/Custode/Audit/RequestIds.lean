import Custode.Audit.Existing

/-!
# Request identities

The text of a request identity and the startup reader's `isExistingRequestId`, as one language.

* `isExistingRequestId_eq_true_iff` — the reader accepts `req-` with three parts of sixteen
  lower-case hex digits, of which the last is not zero;
* `isExistingRequestId_display` — so it accepts every text the writer prints;
* `exists_display` — and there are no others;
* `RequestId.display_injective` — an identity is known by its text, so the duplicate check of the
  startup inspection compares identities.
-/

namespace Custode

open Found Found.Text

/-- Creates a request identity from a run token and sequence number.
Source: `audit.rs` `RequestId::from_parts` -/
def RequestId.fromParts (runToken : RunToken) (sequence : NonZeroU64) : RequestId :=
  ⟨runToken, sequence⟩

/-! ## What the reader accepts -/

/-- A part of a recorded identity: sixteen lower-case hex digits. -/
def IsIdPart (part : Text) : Prop :=
  byteLen part = 16 ∧ (bytes part).all isLowerHexByte = true

/-- A part has sixteen digits. -/
lemma IsIdPart.length {part : Text} (h : IsIdPart part) : part.length = 16 := by
  have hchars := chars_of_bytes ascii_of_isLowerHexByte (List.all_eq_true.mp h.2)
  rw [← byteLen_eq_length fun c hc => (hchars c hc).1]
  exact h.1

/-- No part holds the separator. -/
lemma IsIdPart.dash_notMem {part : Text} (h : IsIdPart part) : '-' ∉ part := by
  obtain ⟨n, -, hpart⟩ := exists_hexDigits h.2
  rw [hpart]
  exact dash_notMem_hexDigits _ _

/-- A number printed in sixteen digits is a part. -/
lemma isIdPart_hexDigits (n : Nat) : IsIdPart (hexDigits 16 n) :=
  ⟨byteLen_hexDigits _ _, List.all_eq_true.mpr fun _ => isLowerHexByte_of_mem⟩

/-- Eight bytes printed in hex are a part. -/
lemma isIdPart_hexBytes {data : List UInt8} (h : data.length = 8) : IsIdPart (hexBytes data) := by
  obtain ⟨hlength, hbytes, -⟩ := hexBytes_lowerHex data
  rw [h] at hlength
  exact ⟨hlength, hbytes⟩

/-- An identity is three parts behind `req-`, of which the last is not zero. -/
lemma isExistingRequestId_eq_true_iff {value : Text} :
    isExistingRequestId value = true ↔
      ∃ first second sequence, value = "req-".toList ++
          List.intercalate ['-'] [first, second, sequence] ∧
        IsIdPart first ∧ IsIdPart second ∧ IsIdPart sequence ∧
        ((fromStrRadix16 sequence).bind nonZeroU64).isSome = true := by
  constructor
  · intro h
    unfold isExistingRequestId at h
    split at h
    · cases h
    rename_i rest hstrip
    unfold stripPrefix at hstrip
    split_ifs at hstrip with hlead
    obtain ⟨tail, rfl⟩ := hlead
    rw [List.drop_left] at hstrip
    obtain rfl := Option.some.inj hstrip
    split at h
    · rename_i first second sequence hsplit
      simp only [List.all_cons, List.all_nil, Bool.and_true, Bool.and_eq_true, beq_iff_eq] at h
      obtain ⟨⟨⟨⟨hfirst, hsecond⟩, hsequence⟩, hsequence'⟩, hnonZero⟩ := h
      refine ⟨first, second, sequence, ?_, hfirst, hsecond, ⟨hsequence, hsequence'⟩, hnonZero⟩
      rw [← hsplit, List.intercalate_splitOn]
    · cases h
  · rintro ⟨first, second, sequence, rfl, hfirst, hsecond, hsequence, hnonZero⟩
    have hparts : (List.intercalate ['-'] [first, second, sequence]).splitOn '-' =
        [first, second, sequence] := by
      apply List.splitOn_intercalate '-' _ (by simp)
      intro part hpart
      simp only [List.mem_cons, List.not_mem_nil, or_false] at hpart
      rcases hpart with rfl | rfl | rfl
      · exact hfirst.dash_notMem
      · exact hsecond.dash_notMem
      · exact hsequence.dash_notMem
    have hstrip : stripPrefix "req-".toList ("req-".toList ++
        List.intercalate ['-'] [first, second, sequence]) =
          some (List.intercalate ['-'] [first, second, sequence]) := by
      simp [stripPrefix]
    unfold isExistingRequestId
    simp only [hstrip, hparts]
    simp [hfirst.1, hfirst.2, hsecond.1, hsecond.2, hsequence.1, hsequence.2, hnonZero]

/-! ## What the writer prints -/

namespace RequestId

/-- The halves of a token are the hex forms of its two halves. -/
lemma halves_eq (token : RunToken) :
    token.halves = (hexBytes (token.entropy.take 8), hexBytes (token.entropy.drop 8)) := rfl

/-- The halves of a token are parts. -/
lemma isIdPart_halves (token : RunToken) :
    IsIdPart token.halves.1 ∧ IsIdPart token.halves.2 := by
  rw [halves_eq]
  constructor
  · apply isIdPart_hexBytes
    rw [List.length_take, token.size]
    rfl
  · apply isIdPart_hexBytes
    rw [List.length_drop, token.size]

/-- A sequence number fits sixteen digits. -/
lemma sequence_lt (sequence : NonZeroU64) : sequence.get < 16 ^ 16 := by
  have hmax : sequence.get ≤ usizeMax := sequence.bounded
  have hvalue : usizeMax < 16 ^ 16 := by decide
  omega

/-- The number of a recorded sequence is read back. -/
lemma fromStrRadix16_sequence (sequence : NonZeroU64) :
    fromStrRadix16 (hexDigits 16 sequence.get) = some sequence.get :=
  fromStrRadix16_hexDigits (by omega) (sequence_lt sequence) sequence.bounded

/-- Identities with the same text have the same parts. -/
lemma parts_eq_of_display_eq {id id' : RequestId} (h : id.display = id'.display) :
    id.runToken.halves = id'.runToken.halves ∧
      hexDigits 16 id.sequence.get = hexDigits 16 id'.sequence.get := by
  obtain ⟨hfirst, hsecond⟩ := isIdPart_halves id.runToken
  obtain ⟨hfirst', hsecond'⟩ := isIdPart_halves id'.runToken
  simp only [display, List.intercalate, List.intersperse, List.flatten_cons, List.flatten_nil,
    List.append_nil, List.append_cancel_left_eq] at h
  obtain ⟨hone, h⟩ := List.append_inj h (hfirst.length.trans hfirst'.length.symm)
  obtain ⟨htwo, h⟩ := List.append_inj (List.append_cancel_left h)
    (hsecond.length.trans hsecond'.length.symm)
  exact ⟨Prod.ext hone htwo, List.append_cancel_left h⟩

/-- An identity is known by its text. -/
lemma display_injective : Function.Injective display := by
  rintro ⟨⟨entropy, hsize⟩, sequence⟩ ⟨⟨entropy', hsize'⟩, sequence'⟩ h
  obtain ⟨hhalves, hnumber⟩ := parts_eq_of_display_eq h
  rw [halves_eq, halves_eq, Prod.mk.injEq] at hhalves
  have hfront := hexBytes_injective hhalves.1
  have hback := hexBytes_injective hhalves.2
  obtain rfl : entropy = entropy' := by
    rw [← List.take_append_drop 8 entropy, ← List.take_append_drop 8 entropy']
    exact congrArg₂ (· ++ ·) hfront hback
  have hget := hexDigits_inj (sequence_lt sequence) (sequence_lt sequence') hnumber
  obtain ⟨get, hpos, hmax⟩ := sequence
  obtain ⟨get', hpos', hmax'⟩ := sequence'
  obtain rfl : get = get' := hget
  rfl

end RequestId

/-- A recorded request identity is read back. -/
lemma isExistingRequestId_display (id : RequestId) : isExistingRequestId id.display = true := by
  obtain ⟨hfirst, hsecond⟩ := RequestId.isIdPart_halves id.runToken
  apply isExistingRequestId_eq_true_iff.mpr
  refine ⟨_, _, _, rfl, hfirst, hsecond, isIdPart_hexDigits _, ?_⟩
  rw [RequestId.fromStrRadix16_sequence, Option.bind_some,
    nonZeroU64_of_pos id.sequence.nonZero id.sequence.bounded]
  rfl

/-- Two parts of an identity are the halves of a run token. -/
lemma exists_halves {first second : Text} (hfirst : IsIdPart first) (hsecond : IsIdPart second) :
    ∃ token : RunToken, token.halves = (first, second) := by
  obtain ⟨front, hfront, rfl⟩ : ∃ front : List UInt8, front.length = 8 ∧ first = hexBytes front :=
    exists_hexBytes hfirst.length hfirst.2
  obtain ⟨back, hback, rfl⟩ : ∃ back : List UInt8, back.length = 8 ∧ second = hexBytes back :=
    exists_hexBytes hsecond.length hsecond.2
  refine ⟨⟨front ++ back, by rw [List.length_append, hfront, hback]⟩, ?_⟩
  rw [RequestId.halves_eq, List.take_left' hfront, List.drop_left' hfront]

/-- A last part that is not zero is the text of a sequence. -/
lemma exists_sequence {part : Text} (h : IsIdPart part)
    (hnonZero : ((fromStrRadix16 part).bind nonZeroU64).isSome = true) :
    ∃ sequence : NonZeroU64, part = hexDigits 16 sequence.get := by
  obtain ⟨n, hn, hpart⟩ := exists_hexDigits h.2
  rw [h.length] at hn hpart
  have hmax : n ≤ usizeMax := by
    have hvalue : 16 ^ 16 = usizeMax + 1 := by decide
    omega
  rw [hpart, fromStrRadix16_hexDigits (by omega) hn hmax, Option.bind_some] at hnonZero
  unfold nonZeroU64 at hnonZero
  split_ifs at hnonZero with hbounds
  · exact ⟨⟨n, hbounds.1, hbounds.2⟩, hpart⟩
  · cases hnonZero

/-- Every text that passes is the print of an identity. -/
lemma exists_display {value : Text} (h : isExistingRequestId value = true) :
    ∃ runToken sequence, value = (RequestId.fromParts runToken sequence).display := by
  obtain ⟨first, second, last, rfl, hfirst, hsecond, hlast, hnonZero⟩ :=
    isExistingRequestId_eq_true_iff.mp h
  obtain ⟨runToken, hhalves⟩ := exists_halves hfirst hsecond
  obtain ⟨sequence, hsequence⟩ := exists_sequence hlast hnonZero
  refine ⟨runToken, sequence, ?_⟩
  simp only [RequestId.display, RequestId.fromParts, hhalves, hsequence]

/-- The reader accepts exactly the texts of identities, and an identity is known by its text; so a
text is among recorded ones exactly when its identity is. -/
theorem existingRequestIds_are_displays :
    (∀ value : Text, isExistingRequestId value = true ↔
      ∃ runToken sequence, value = (RequestId.fromParts runToken sequence).display) ∧
    (∀ runToken sequence runToken' sequence',
      (RequestId.fromParts runToken sequence).display =
        (RequestId.fromParts runToken' sequence').display →
      runToken = runToken' ∧ sequence = sequence') ∧
    ∀ (ids : List RequestId) (id : RequestId),
      (ids.map RequestId.display).contains id.display = ids.contains id := by
  refine ⟨fun value => ⟨exists_display, ?_⟩, ?_, ?_⟩
  · rintro ⟨runToken, sequence, rfl⟩
    exact isExistingRequestId_display _
  · intro runToken sequence runToken' sequence' h
    exact RequestId.mk.inj (RequestId.display_injective h)
  · intro ids id
    rw [Bool.eq_iff_iff, List.contains_iff_mem, List.contains_iff_mem,
      List.mem_map_of_injective RequestId.display_injective]

end Custode
