import Custode.Config

/-!
# Bounded audit text

The two halves of the truncation format of `audit.rs`: `boundedAuditText` cuts an over-long text on
a character boundary and appends a marker with the original byte count, and
`truncatedAuditTextPrefix` reads such a text back.

* `boundedAuditText_of_le`, `boundedAuditText_of_lt` — what the writer produces; at the bounds in
  use it never panics.
* `truncatedAuditTextPrefix_of_lt` — the reader finds the cut text again exactly when the cut falls
  on a character boundary, because it demands that the recorded text fills the bound. The marker
  contains a space, so in a text without spaces it is found where the writer put it.
* `truncatedAuditTextPrefix_of_noSpace` — a text without spaces is not read as a cut one.
-/

namespace Custode

open Found Found.Text

/-- Suffix added when audit target text is truncated.
Source: `audit.rs` `AUDIT_TRUNCATION_PREFIX` -/
def auditTruncationPrefix : Text := "...[truncated original_bytes=".toList

/-- Suffix terminator added when audit target text is truncated.
Source: `audit.rs` `AUDIT_TRUNCATION_SUFFIX` -/
def auditTruncationSuffix : Text := "]".toList

/-- Maximum audited request path bytes.
Source: `audit.rs` `MAX_AUDIT_TARGET_PATH_BYTES` -/
def maxAuditTargetPathBytes : Nat := maxOriginFormPathBytes

/-- Maximum audited request query bytes.
Source: `audit.rs` `MAX_AUDIT_TARGET_QUERY_BYTES` -/
def maxAuditTargetQueryBytes : Nat := maxOriginFormQueryBytes

/-- The loop of `utf8Prefix`, with the text taken so far. -/
def takeUtf8 (maxBytes : Nat) (taken : Text) : Text → Option Text
  | [] => some taken
  | c :: rest =>
      if usizeMax < byteLen taken + c.utf8Size then none
      else if maxBytes < byteLen taken + c.utf8Size then some taken
      else takeUtf8 maxBytes (taken ++ [c]) rest

/-- The longest UTF-8 prefix within `maxBytes`.
Source: `audit.rs` `utf8_prefix` -/
def utf8Prefix (value : Text) (maxBytes : Nat) : Option Text := takeUtf8 maxBytes [] value

/-- The truncation marker for a text of `originalBytes` bytes. -/
def truncationMarker (originalBytes : Nat) : Text :=
  auditTruncationPrefix ++ decimal originalBytes ++ auditTruncationSuffix

/-- Audit text bounded to `maxBytes`, with original byte count if cut.
Source: `audit.rs` `bounded_audit_text` -/
def boundedAuditText (value : Text) (maxBytes : Nat) : Option Text :=
  if byteLen value ≤ maxBytes then some value
  else
    let suffix := truncationMarker (byteLen value)
    if byteLen suffix ≤ maxBytes then do
      let kept ← utf8Prefix value (maxBytes - byteLen suffix)
      if byteLen kept + byteLen suffix ≤ usizeMax then some (kept ++ suffix) else none
    else none

/-- The untruncated prefix when audit text matches the writer shape.
Source: `audit.rs` `truncated_audit_text_prefix` -/
def truncatedAuditTextPrefix (value : Text) (maxBytes : Nat) : Option Text := do
  let (kept, suffix) ← splitOnce auditTruncationPrefix value
  let originalBytesText ← stripSuffix auditTruncationSuffix suffix
  let originalByteCount ← parseUsize originalBytesText
  if byteLen value = maxBytes ∧ maxBytes < originalByteCount then some kept else none

/-- Writer-shaped truncated audit text.
Source: `audit.rs` `is_truncated_audit_text` -/
def isTruncatedAuditText (value : Text) (maxBytes : Nat) : Bool :=
  (truncatedAuditTextPrefix value maxBytes).isSome

/-! ## The writer -/

/-- The loop takes as much of the rest as fits behind what it has taken. -/
lemma takeUtf8_eq {maxBytes : Nat} (taken rest : Text) (htaken : byteLen taken ≤ maxBytes)
    (hfits : byteLen taken + byteLen rest ≤ usizeMax) :
    takeUtf8 maxBytes taken rest = some (taken ++ takeBytes (maxBytes - byteLen taken) rest) := by
  induction rest generalizing taken with
  | nil => simp [takeUtf8, takeBytes]
  | cons c rest ih =>
      rw [byteLen_cons] at hfits
      rw [takeUtf8, if_neg (by omega), takeBytes]
      by_cases hfit : maxBytes < byteLen taken + c.utf8Size
      · rw [if_pos hfit, if_neg (by omega), List.append_nil]
      · have hnext : byteLen (taken ++ [c]) = byteLen taken + c.utf8Size := by simp
        rw [if_neg hfit, if_pos (by omega), ih _ (by omega) (by omega), hnext, List.append_assoc,
          Nat.sub_sub, List.singleton_append]

/-- The loop takes the longest fitting prefix, whose length it can count. -/
lemma utf8Prefix_eq {value : Text} (hfits : byteLen value ≤ usizeMax) (maxBytes : Nat) :
    utf8Prefix value maxBytes = some (takeBytes maxBytes value) := by
  rw [utf8Prefix, takeUtf8_eq [] value (Nat.zero_le _) (by simpa using hfits)]
  simp

/-- Text within the bound is recorded as it is. -/
lemma boundedAuditText_of_le {value : Text} {maxBytes : Nat} (h : byteLen value ≤ maxBytes) :
    boundedAuditText value maxBytes = some value := if_pos h

/-- The length of the marker. -/
lemma byteLen_truncationMarker (n : Nat) :
    byteLen (truncationMarker n) = 30 + (decimal n).length := by
  have hlead : byteLen auditTruncationPrefix = 29 := by decide
  have htrail : byteLen auditTruncationSuffix = 1 := by decide
  rw [truncationMarker, byteLen_append, byteLen_append, byteLen_decimal, hlead, htrail]
  omega

/-- The marker of a text in memory has between 31 and 50 bytes. -/
lemma byteLen_truncationMarker_bounds {n : Nat} (h : n ≤ usizeMax) :
    30 < byteLen (truncationMarker n) ∧ byteLen (truncationMarker n) ≤ 50 := by
  have hle := length_decimal_le h
  have hpos := length_decimal_pos n
  rw [byteLen_truncationMarker]
  omega

/-- Anything in memory can be counted. -/
lemma isizeMax_le_usizeMax : isizeMax ≤ usizeMax := by decide

/-- The byte offset at which an over-long text is cut. -/
def cutOffset (value : Text) (maxBytes : Nat) : Nat :=
  maxBytes - byteLen (truncationMarker (byteLen value))

/-- An over-long text is cut at the last boundary in front of the marker. -/
lemma boundedAuditText_of_lt {value : Text} {maxBytes : Nat} (h : maxBytes < byteLen value)
    (hfits : byteLen value ≤ isizeMax) (hroom : 50 ≤ maxBytes) :
    boundedAuditText value maxBytes =
      some (takeBytes (cutOffset value maxBytes) value ++ truncationMarker (byteLen value)) := by
  have husize := hfits.trans isizeMax_le_usizeMax
  have hmarker := byteLen_truncationMarker_bounds husize
  have hkept := byteLen_takeBytes_le (cutOffset value maxBytes) value
  have hprefix : utf8Prefix value (cutOffset value maxBytes) =
      some (takeBytes (cutOffset value maxBytes) value) := utf8Prefix_eq husize _
  have hsum : byteLen (takeBytes (cutOffset value maxBytes) value) +
      byteLen (truncationMarker (byteLen value)) ≤ usizeMax := by
    unfold cutOffset at hkept ⊢
    omega
  unfold cutOffset at hprefix hsum ⊢
  simp only [boundedAuditText, not_le.mpr h, if_false, hmarker.2.trans hroom, if_true, hprefix,
    Option.bind_eq_bind, Option.bind_some, hsum]

/-- The writer keeps the bound. -/
lemma byteLen_cut_le {value : Text} {maxBytes : Nat} (hfits : byteLen value ≤ isizeMax)
    (hroom : 50 ≤ maxBytes) :
    byteLen (takeBytes (cutOffset value maxBytes) value ++ truncationMarker (byteLen value)) ≤
      maxBytes := by
  have hmarker := byteLen_truncationMarker_bounds (hfits.trans isizeMax_le_usizeMax)
  have hkept := byteLen_takeBytes_le (cutOffset value maxBytes) value
  rw [byteLen_append]
  unfold cutOffset at hkept ⊢
  omega

/-- At the bounds in use the writer returns, within the bound. -/
lemma boundedAuditText_total (maxBytes : Nat) {value : Text} (hfits : byteLen value ≤ isizeMax)
    (hroom : 50 ≤ maxBytes) :
    ∃ text, boundedAuditText value maxBytes = some text ∧ byteLen text ≤ maxBytes := by
  rcases Nat.lt_or_ge maxBytes (byteLen value) with hlong | hshort
  · exact ⟨_, boundedAuditText_of_lt hlong hfits hroom, byteLen_cut_le hfits hroom⟩
  · exact ⟨_, boundedAuditText_of_le hshort, hshort⟩

/-- What is recorded is made of the text and of the marker. -/
lemma mem_boundedAuditText {value text : Text} {maxBytes : Nat}
    (h : boundedAuditText value maxBytes = some text) (hfits : byteLen value ≤ isizeMax)
    (hroom : 50 ≤ maxBytes) {c : Char} (hc : c ∈ text) :
    c ∈ value ∨ c ∈ truncationMarker (byteLen value) := by
  rcases Nat.lt_or_ge maxBytes (byteLen value) with hlong | hshort
  · rw [boundedAuditText_of_lt hlong hfits hroom, Option.some.injEq] at h
    subst h
    exact (List.mem_append.mp hc).imp_left fun hkept => (takeBytes_isPrefix _ _).subset hkept
  · rw [boundedAuditText_of_le hshort, Option.some.injEq] at h
    subst h
    exact .inl hc

/-- At the bounds in use the writer keeps them. -/
lemma byteLen_boundedAuditText_le {value text : Text} {maxBytes : Nat}
    (h : boundedAuditText value maxBytes = some text) (hfits : byteLen value ≤ isizeMax)
    (hroom : 50 ≤ maxBytes) : byteLen text ≤ maxBytes := by
  obtain ⟨text', htext, hle⟩ := boundedAuditText_total maxBytes hfits hroom
  cases h.symm.trans htext
  exact hle

/-! ## The reader -/

/-- The marker's space, which no URI text and no method contains. -/
lemma space_mem_auditTruncationPrefix : ' ' ∈ auditTruncationPrefix := by decide

/-- The marker holds a space. -/
lemma space_mem_truncationMarker (n : Nat) : ' ' ∈ truncationMarker n := by
  have := space_mem_auditTruncationPrefix
  simp [truncationMarker, this]

/-- The marker holds no `#`. -/
lemma fragment_notMem_truncationMarker (n : Nat) : '#' ∉ truncationMarker n := by
  have hlead : '#' ∉ auditTruncationPrefix := by decide
  have hend : '#' ∉ auditTruncationSuffix := by decide
  have hdigits : '#' ∉ decimal n := fun hmem => absurd (isDigit_of_mem_decimal hmem) (by decide)
  simp [truncationMarker, hlead, hdigits, hend]

/-- Cutting a text adds no `#`. -/
lemma fragment_notMem_of_bounded {value text : Text} {maxBytes : Nat}
    (h : boundedAuditText value maxBytes = some text) (hfits : byteLen value ≤ isizeMax)
    (hroom : 50 ≤ maxBytes) (hvalue : '#' ∉ value) : '#' ∉ text := by
  intro hmem
  rcases mem_boundedAuditText h hfits hroom hmem with hmem | hmem
  · exact hvalue hmem
  · exact fragment_notMem_truncationMarker _ hmem

/-- A text without spaces is not read as a cut one. -/
lemma truncatedAuditTextPrefix_of_noSpace {value : Text} (h : ' ' ∉ value) (maxBytes : Nat) :
    truncatedAuditTextPrefix value maxBytes = none := by
  rw [truncatedAuditTextPrefix, splitOnce_eq_none space_mem_auditTruncationPrefix h]
  rfl

/-- What is read back is a prefix of the recorded text. -/
lemma truncatedAuditTextPrefix_isPrefix {value kept : Text} {maxBytes : Nat}
    (h : truncatedAuditTextPrefix value maxBytes = some kept) : kept <+: value := by
  unfold truncatedAuditTextPrefix at h
  simp only [Option.bind_eq_bind, Option.bind_eq_some_iff] at h
  obtain ⟨⟨kept', suffix⟩, hsplit, originalText, _, count, _, hkept⟩ := h
  split at hkept
  · cases hkept
    rw [splitOnce_sound hsplit, List.append_assoc]
    exact List.prefix_append _ _
  · cases hkept

/-- A text followed by a marker is taken apart where the writer put it together. -/
lemma truncatedAuditTextPrefix_marker {kept : Text} (hspace : ' ' ∉ kept) {n maxBytes : Nat}
    (hn : n ≤ usizeMax) :
    truncatedAuditTextPrefix (kept ++ truncationMarker n) maxBytes =
      if byteLen (kept ++ truncationMarker n) = maxBytes ∧ maxBytes < n then some kept
      else none := by
  have hpattern :
      auditTruncationPrefix = "...[truncated".toList ++ ' ' :: "original_bytes=".toList := rfl
  have hsplit : splitOnce auditTruncationPrefix (kept ++ truncationMarker n) =
      some (kept, decimal n ++ auditTruncationSuffix) := by
    rw [truncationMarker, List.append_assoc auditTruncationPrefix, ← List.append_assoc kept,
      hpattern]
    exact splitOnce_of_fresh (by decide) hspace
  simp [truncatedAuditTextPrefix, hsplit, parseUsize_decimal hn]

/-- **The truncation round trip.** For an over-long text without spaces the reader finds the cut
text again exactly when the cut falls on a character boundary. -/
lemma truncatedAuditTextPrefix_of_lt {value : Text} {maxBytes : Nat} (hspace : ' ' ∉ value)
    (h : maxBytes < byteLen value) (hfits : byteLen value ≤ isizeMax) (hroom : 50 ≤ maxBytes) :
    truncatedAuditTextPrefix
        (takeBytes (cutOffset value maxBytes) value ++ truncationMarker (byteLen value)) maxBytes =
      if IsBoundary value (cutOffset value maxBytes) then
        some (takeBytes (cutOffset value maxBytes) value)
      else none := by
  have husize := hfits.trans isizeMax_le_usizeMax
  have hmarker := byteLen_truncationMarker_bounds husize
  have hkept : ' ' ∉ takeBytes (cutOffset value maxBytes) value :=
    fun hmem => hspace (takeBytes_isPrefix _ _ |>.subset hmem)
  have hexact : byteLen (takeBytes (cutOffset value maxBytes) value ++
      truncationMarker (byteLen value)) = maxBytes ↔
      IsBoundary value (cutOffset value maxBytes) := by
    rw [← byteLen_takeBytes_eq_iff, byteLen_append]
    unfold cutOffset
    omega
  rw [truncatedAuditTextPrefix_marker hkept husize]
  simp only [hexact, h, and_true]

end Custode
