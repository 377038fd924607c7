import Custode.Headers
import Custode.Found.Segments
import Mathlib.Algebra.Order.BigOperators.Group.List
import Mathlib.Algebra.Order.Ring.Nat
import Mathlib.Data.List.TakeWhile

/-!
# What header filtering keeps

The law of the two forwarding functions of `headers.rs`, over header maps as multimaps.

* `enforceHeaderLimit_eq` — the running sum decides whether the total is within the limit;
* `connectionHeaderNames_eq` — the listed names are the folded tokens of all `Connection` values,
  if each of these is a header name;
* `forwardHeaders_eq` — from both, the three outcomes of a forwarding function;
* `forwardHeaders_filtered`, `forwardHeaders_again` — what an accepted map keeps, and that nothing
  is left to filter in it.
-/

namespace Custode

open Found Found.Text

/-! ## Header maps as multimaps -/

/-- The name and value bytes of all entries. -/
def headerBytes (headers : HeaderMap) : Nat :=
  (headers.map fun header => byteLen header.1 + header.2.length).sum

/-- The values of a name, in order (`HeaderMap::get_all`). -/
def valuesOf (headers : HeaderMap) (name : HeaderName) : List HeaderValue :=
  (headers.filter fun header => header.1 == name).map Prod.snd

/-- The bytes of a header value, each as a character. -/
def byteText (value : HeaderValue) : Text := value.map fun byte => Char.ofNat byte.toNat

/-- The comma-separated tokens of all `Connection` values, without blanks around them. -/
def connectionTokens (headers : HeaderMap) : List Text :=
  (valuesOf headers "connection".toList).flatMap fun value =>
    ((byteText value).splitOn ',').map trimBlanks

/-- Every `Connection` token is a non-empty valid header name. -/
def ConnectionTokensValid (headers : HeaderMap) : Prop :=
  ∀ token ∈ connectionTokens headers, token ≠ [] ∧ (headerName token).isSome = true

/-- The hop-by-hop names. -/
def hopByHopNames : List HeaderName :=
  ["connection".toList, "keep-alive".toList, "proxy-authenticate".toList,
    "proxy-authorization".toList, "proxy-connection".toList, "te".toList, "trailer".toList,
    "transfer-encoding".toList, "upgrade".toList]

/-- A name that is forwarded: it is no hop-by-hop name, no `Connection` token spells it in either
case (header names are in lower case), and it is none of those dropped in this direction. -/
def IsForwarded (dropped : List HeaderName) (headers : HeaderMap) (name : HeaderName) : Prop :=
  name ∉ hopByHopNames ∧ (¬ ∃ token ∈ connectionTokens headers, token.map Char.toLower = name) ∧
    name ∉ dropped

/-- `filtered` holds exactly the entries of `headers` whose names are forwarded. -/
structure Filtered (dropped : List HeaderName) (headers filtered : HeaderMap) : Prop where
  sublist : filtered.Sublist headers
  kept : ∀ name, IsForwarded dropped headers name → valuesOf filtered name = valuesOf headers name
  stripped : ∀ name, ¬ IsForwarded dropped headers name → valuesOf filtered name = []

/-- The values of a name among the headers that are kept. -/
lemma valuesOf_filter (keep : HeaderName → Bool) (headers : HeaderMap) (name : HeaderName) :
    valuesOf (headers.filter fun header => keep header.1) name =
      if keep name = true then valuesOf headers name else [] := by
  unfold valuesOf
  rw [List.filter_filter]
  split_ifs with hkeep
  · congr 1
    apply List.filter_congr
    intro header _
    by_cases hname : header.1 = name
    · simp [hname, hkeep]
    · simp [hname]
  · rw [List.map_eq_nil_iff, List.filter_eq_nil_iff]
    intro header _
    simp only [Bool.and_eq_true, beq_iff_eq, not_and]
    rintro rfl
    exact hkeep

/-- What is kept is no larger. -/
lemma headerBytes_filter_le (keep : HeaderName × HeaderValue → Bool) (headers : HeaderMap) :
    headerBytes (headers.filter keep) ≤ headerBytes headers := by
  apply List.Sublist.sum_le_sum
  · exact List.filter_sublist.map _
  · simp

/-! ## The byte limit -/

/-- The checked sum is the sum, up to the limit. -/
lemma addAllHeaderBytes_eq {max bytes : Nat} (hmax : max ≤ usizeMax) (h : bytes ≤ max)
    (amounts : List Nat) :
    addAllHeaderBytes max bytes amounts =
      some (if bytes + amounts.sum ≤ max then .ok () else .error .tooLarge) := by
  induction amounts generalizing bytes with
  | nil => simp [addAllHeaderBytes, h]
  | cons amount amounts ih =>
      rw [addAllHeaderBytes, addHeaderBytes, remainingHeaderBytes, if_pos h]
      rw [List.sum_cons, ← Nat.add_assoc]
      by_cases hfit : max - bytes < amount
      · rw [if_neg (by omega)]
        simp [hfit]
      · have hsum : bytes + amount ≤ usizeMax := by omega
        have hstep : bytes + amount ≤ max := by omega
        simp [hfit, checkedHeaderBytes, hsum, ih hstep]

/-- The running sum decides whether the total is within the limit. -/
lemma enforceHeaderLimit_eq {max : Nat} (hmax : max ≤ usizeMax) (headers : HeaderMap) :
    enforceHeaderLimit headers max =
      some (if headerBytes headers ≤ max then .ok () else .error .tooLarge) := by
  have hsum : (headers.flatMap fun header => [byteLen header.1, header.2.length]).sum =
      headerBytes headers := by
    induction headers with
    | nil => rfl
    | cons header headers ih =>
        rw [List.flatMap_cons, List.sum_append, ih]
        simp [headerBytes]
  rw [enforceHeaderLimit, addAllHeaderBytes_eq hmax (Nat.zero_le max), hsum, Nat.zero_add]

/-! ## The names listed by `Connection` -/

/-- A header name is a token in lower case. -/
lemma headerName_eq_some {token name : Text} (h : headerName token = some name) :
    isToken token = true ∧ name = token.map Char.toLower := by
  unfold headerName at h
  split_ifs at h with hvalid
  exact ⟨hvalid.1, (Option.some.inj h).symm⟩

/-- A token that is a header name is not empty. -/
lemma ne_nil_of_headerName {token : Text} (h : (headerName token).isSome = true) :
    token ≠ [] := by
  rintro rfl
  cases h

/-- The character of a byte that is not visible ASCII. -/
lemma char_of_not_visible {byte : UInt8}
    (h : ((32 ≤ byte && byte < 127) || byte == 9) = false) :
    isTokenChar (Char.ofNat byte.toNat) = false ∧ Char.ofNat byte.toNat ≠ ',' ∧
      Char.ofNat byte.toNat ≠ ' ' ∧ Char.ofNat byte.toNat ≠ '\t' := by
  have hall : ∀ byte : Fin 256,
      ((32 ≤ UInt8.ofFin byte && UInt8.ofFin byte < 127) || UInt8.ofFin byte == 9) = false →
      isTokenChar (Char.ofNat byte) = false ∧ Char.ofNat byte ≠ ',' ∧ Char.ofNat byte ≠ ' ' ∧
        Char.ofNat byte ≠ '\t' := by decide +kernel
  exact hall byte.toFin h

/-- Trimming removes blanks only. -/
lemma mem_trimBlanks {c : Char} {text : Text} (h : c ∈ text) (hspace : c ≠ ' ') (htab : c ≠ '\t') :
    c ∈ trimBlanks text := by
  have hblank : (c == ' ' || c == '\t') = false := by simp [hspace, htab]
  have hdrop (text : Text) (h : c ∈ text) :
      c ∈ text.dropWhile fun c => c == ' ' || c == '\t' := by
    rw [← List.takeWhile_append_dropWhile (p := fun c => c == ' ' || c == '\t') (l := text),
      List.mem_append] at h
    rcases h with h | h
    · have htaken := List.mem_takeWhile_imp h
      rw [hblank] at htaken
      cases htaken
    · exact h
  unfold trimBlanks
  rw [List.mem_reverse]
  apply hdrop
  rw [List.mem_reverse]
  exact hdrop text h

/-- A value that is no text has a token that is no header name. -/
lemma exists_invalid_of_headerText {value : HeaderValue} (h : headerText value = none) :
    ∃ token ∈ ((byteText value).splitOn ',').map trimBlanks, headerName token = none := by
  unfold headerText at h
  split_ifs at h with hvisible
  simp only [List.all_eq_true, not_forall, Bool.not_eq_true] at hvisible
  obtain ⟨byte, hbyte, hbad⟩ := hvisible
  obtain ⟨htoken, hcomma, hspace, htab⟩ := char_of_not_visible hbad
  have hc : Char.ofNat byte.toNat ∈ byteText value := List.mem_map_of_mem hbyte
  obtain ⟨part, hpart, hin⟩ :=
    Segments.exists_mem_splitOnP (p := (· == ',')) hc (by simpa using hcomma)
  rw [← List.splitOn_eq_splitOnP] at hpart
  refine ⟨trimBlanks part, List.mem_map_of_mem hpart, ?_⟩
  unfold headerName
  apply if_neg
  rintro ⟨hvalid, -⟩
  have hgood := (isToken_iff.mp hvalid).2 _ (mem_trimBlanks hin hspace htab)
  rw [htoken] at hgood
  cases hgood

/-- The text of a header value is its bytes. -/
lemma headerText_eq_some {value : HeaderValue} {text : Text} (h : headerText value = some text) :
    text = byteText value := by
  unfold headerText at h
  split_ifs at h
  exact (Option.some.inj h).symm

/-- The names of the tokens of one value, if each of these is a header name. -/
lemma connectionTokenNames_eq (rawTokens : List Text) :
    connectionTokenNames rawTokens =
      if ((rawTokens.map trimBlanks).all fun token => (headerName token).isSome) = true then
        .ok ((rawTokens.map trimBlanks).map fun token => token.map Char.toLower)
      else .error .invalidConnectionHeader := by
  induction rawTokens with
  | nil => simp [connectionTokenNames]
  | cons rawToken rawTokens ih =>
      rw [connectionTokenNames, ih, List.map_cons, List.all_cons]
      cases hname : headerName (trimBlanks rawToken) with
      | none =>
          rw [Option.isSome_none, Bool.false_and, if_neg Bool.false_ne_true]
          rfl
      | some name =>
          obtain ⟨-, rfl⟩ := headerName_eq_some hname
          rw [Option.isSome_some, Bool.true_and]
          by_cases hrest : ((rawTokens.map trimBlanks).all fun token =>
            (headerName token).isSome) = true
          · rw [if_pos hrest, if_pos hrest]
            rfl
          · rw [if_neg hrest, if_neg hrest]
            rfl

/-- The tokens of a `connection` header. -/
lemma connectionTokens_cons (value : HeaderValue) (headers : HeaderMap) :
    connectionTokens (("connection".toList, value) :: headers) =
      ((byteText value).splitOn ',').map trimBlanks ++ connectionTokens headers := by
  simp [connectionTokens, valuesOf]

/-- Any other header has none. -/
lemma connectionTokens_cons_of_ne {name : HeaderName} (h : name ≠ "connection".toList)
    (value : HeaderValue) (headers : HeaderMap) :
    connectionTokens ((name, value) :: headers) = connectionTokens headers := by
  unfold connectionTokens valuesOf
  rw [List.filter_cons_of_neg (by simpa using h)]

/-- The names listed by the tokens of a header map. -/
def listedNames (headers : HeaderMap) : List HeaderName :=
  (connectionTokens headers).map fun token => token.map Char.toLower

/-- The listed names are the folded tokens of all `Connection` values, if each of these is a
header name. -/
lemma connectionHeaderNames_eq (headers : HeaderMap) :
    connectionHeaderNames headers =
      if ((connectionTokens headers).all fun token => (headerName token).isSome) = true then
        .ok (listedNames headers)
      else .error .invalidConnectionHeader := by
  induction headers with
  | nil => rfl
  | cons header headers ih =>
      obtain ⟨name, value⟩ := header
      rw [connectionHeaderNames, listedNames]
      by_cases hname : name = "connection".toList
      · subst hname
        rw [if_pos rfl, ih, connectionTokens_cons, List.all_append, List.map_append]
        cases htext : headerText value with
        | none =>
            obtain ⟨token, htoken, hinvalid⟩ := exists_invalid_of_headerText htext
            have hvalue : ¬ (((byteText value).splitOn ',').map trimBlanks).all
                (fun token => (headerName token).isSome) = true := by
              intro hvalid
              have hsome := List.all_eq_true.mp hvalid token htoken
              rw [hinvalid] at hsome
              cases hsome
            rw [if_neg fun h => hvalue (Bool.and_eq_true_iff.mp h).1]
            rfl
        | some text =>
            rw [headerText_eq_some htext]
            simp only [Option.elim_some, bind, Except.bind, connectionTokenNames_eq]
            by_cases hvalue : (((byteText value).splitOn ',').map trimBlanks).all
                (fun token => (headerName token).isSome) = true
            · by_cases hrest : ((connectionTokens headers).all fun token =>
                (headerName token).isSome) = true
              · rw [if_pos hvalue, if_pos hrest,
                  if_pos (Bool.and_eq_true_iff.mpr ⟨hvalue, hrest⟩)]
                rfl
              · rw [if_pos hvalue, if_neg hrest,
                  if_neg fun h => hrest (Bool.and_eq_true_iff.mp h).2]
            · rw [if_neg hvalue, if_neg fun h => hvalue (Bool.and_eq_true_iff.mp h).1]
      · rw [if_neg hname, ih, connectionTokens_cons_of_ne hname]
        rfl

/-- The tokens are valid when each of them is a header name. -/
lemma connectionTokensValid_iff {headers : HeaderMap} :
    ConnectionTokensValid headers ↔
      ((connectionTokens headers).all fun token => (headerName token).isSome) = true := by
  rw [List.all_eq_true]
  constructor
  · intro h token htoken
    exact (h token htoken).2
  · intro h token htoken
    exact ⟨ne_nil_of_headerName (h token htoken), h token htoken⟩

instance (headers : HeaderMap) : Decidable (ConnectionTokensValid headers) :=
  inferInstanceAs (Decidable (∀ token ∈ connectionTokens headers,
    token ≠ [] ∧ (headerName token).isSome = true))

/-! ## The forwarding functions -/

/-- What a forwarding function keeps of a name: it is not hop-by-hop, not listed, not dropped. -/
def Keeps (isForwarded : HeaderName → List HeaderName → Bool) (dropped : List HeaderName) : Prop :=
  ∀ name listed, isForwarded name listed = true ↔
    name ∉ hopByHopNames ∧ name ∉ listed ∧ name ∉ dropped

/-- The hop-by-hop names are those of the list. -/
lemma isStandardHopByHop_iff {name : HeaderName} :
    isStandardHopByHop name = true ↔ name ∈ hopByHopNames := by
  simp [isStandardHopByHop, hopByHopNames]

/-- What the request filter keeps. -/
lemma keeps_request :
    Keeps requestHeaderIsForwarded ["host".toList, "content-length".toList] := by
  intro name listed
  rw [← isStandardHopByHop_iff]
  simp [requestHeaderIsForwarded, isHopByHop]
  tauto

/-- What the response filter keeps. -/
lemma keeps_response : Keeps responseHeaderIsForwarded ["content-length".toList] := by
  intro name listed
  rw [← isStandardHopByHop_iff]
  simp [responseHeaderIsForwarded, isHopByHop]
  tauto

variable {isForwarded : HeaderName → List HeaderName → Bool} {dropped : List HeaderName}
  {incoming : HeaderMap} {max : Nat}

/-- The three outcomes of a forwarding function. -/
lemma forwardHeaders_eq (hmax : max ≤ usizeMax) :
    forwardHeaders isForwarded incoming max = some
      (if headerBytes incoming ≤ max then
        if ConnectionTokensValid incoming then
          .ok (incoming.filter fun header => isForwarded header.1 (listedNames incoming))
        else .error .invalidConnectionHeader
      else .error .tooLarge) := by
  unfold forwardHeaders
  rw [enforceHeaderLimit_eq hmax]
  split_ifs with hfits hvalid
  · rw [connectionHeaderNames_eq, if_pos (connectionTokensValid_iff.mp hvalid)]
    rfl
  · rw [connectionHeaderNames_eq, if_neg (mt connectionTokensValid_iff.mpr hvalid)]
    rfl
  · rfl

/-- A name is forwarded when the filter keeps it. -/
lemma keeps_iff_isForwarded (hkeeps : Keeps isForwarded dropped) (name : HeaderName) :
    isForwarded name (listedNames incoming) = true ↔ IsForwarded dropped incoming name := by
  rw [hkeeps name, IsForwarded, listedNames, List.mem_map]

/-- What is kept are the entries of the forwarded names. -/
lemma filtered_filter (hkeeps : Keeps isForwarded dropped) :
    Filtered dropped incoming
      (incoming.filter fun header => isForwarded header.1 (listedNames incoming)) := by
  refine ⟨List.filter_sublist, ?_, ?_⟩
  · intro name hname
    rw [valuesOf_filter (fun name => isForwarded name (listedNames incoming)),
      if_pos ((keeps_iff_isForwarded hkeeps name).mpr hname)]
  · intro name hname
    rw [valuesOf_filter (fun name => isForwarded name (listedNames incoming)),
      if_neg (mt (keeps_iff_isForwarded hkeeps name).mp hname)]

/-- Nothing is left to filter in what was kept. -/
lemma forwardHeaders_filter (hmax : max ≤ usizeMax) (hkeeps : Keeps isForwarded dropped)
    (hfits : headerBytes incoming ≤ max) :
    forwardHeaders isForwarded
        (incoming.filter fun header => isForwarded header.1 (listedNames incoming)) max =
      some (.ok (incoming.filter fun header => isForwarded header.1 (listedNames incoming))) := by
  have hconnection : ¬ isForwarded "connection".toList (listedNames incoming) = true := by
    rw [hkeeps]
    simp [hopByHopNames]
  -- the output has no `Connection` entry, so nothing is listed any more
  have htokens : connectionTokens
      (incoming.filter fun header => isForwarded header.1 (listedNames incoming)) = [] := by
    unfold connectionTokens
    rw [valuesOf_filter (fun name => isForwarded name (listedNames incoming)),
      if_neg hconnection, List.flatMap_nil]
  have hvalid : ConnectionTokensValid
      (incoming.filter fun header => isForwarded header.1 (listedNames incoming)) := by
    unfold ConnectionTokensValid
    rw [htokens]
    simp
  rw [forwardHeaders_eq hmax, if_pos ((headerBytes_filter_le _ incoming).trans hfits),
    if_pos hvalid, Option.some.injEq, Except.ok.injEq, List.filter_eq_self]
  intro header hheader
  have hkept := (List.mem_filter.mp hheader).2
  rw [listedNames, htokens, hkeeps]
  rw [hkeeps] at hkept
  exact ⟨hkept.1, by simp, hkept.2.2⟩

/-- The law of a forwarding function. It never panics; it accepts a map within the limit whose
`Connection` tokens are all header names, and the limit is checked first; what it accepts holds
exactly the entries of the forwarded names, and is accepted again as it is. -/
structure ForwardingLaw (dropped : List HeaderName) (max : Nat)
    (forward : HeaderMap → Option (Except HeaderError HeaderMap)) (incoming : HeaderMap) :
    Prop where
  returns : ∃ result, forward incoming = some result
  accepts : (∃ filtered, forward incoming = some (.ok filtered)) ↔
    headerBytes incoming ≤ max ∧ ConnectionTokensValid incoming
  tooLarge : max < headerBytes incoming → forward incoming = some (.error .tooLarge)
  invalid : headerBytes incoming ≤ max → ¬ ConnectionTokensValid incoming →
    forward incoming = some (.error .invalidConnectionHeader)
  filtered : ∀ filtered, forward incoming = some (.ok filtered) →
    Filtered dropped incoming filtered ∧ forward filtered = some (.ok filtered)

/-- A filter that keeps what it should follows the law. -/
lemma forwardingLaw_forwardHeaders (hmax : max ≤ usizeMax) (hkeeps : Keeps isForwarded dropped)
    (incoming : HeaderMap) :
    ForwardingLaw dropped max (fun headers => forwardHeaders isForwarded headers max) incoming := by
  constructor
  · exact ⟨_, forwardHeaders_eq hmax⟩
  · simp only [forwardHeaders_eq hmax]
    split_ifs with hfits hvalid <;> simp [*]
  · intro htooLarge
    simp only [forwardHeaders_eq hmax]
    rw [if_neg (Nat.not_le.mpr htooLarge)]
  · intro hfits hinvalid
    simp only [forwardHeaders_eq hmax]
    rw [if_pos hfits, if_neg hinvalid]
  · intro filtered hfiltered
    rw [forwardHeaders_eq hmax, Option.some.injEq] at hfiltered
    split_ifs at hfiltered with hfits hvalid
    rw [← Except.ok.inj hfiltered]
    exact ⟨filtered_filter hkeeps, forwardHeaders_filter hmax hkeeps hfits⟩

/-- The header map of a request result. -/
def requestHeaderMap (result : Except HeaderError ForwardedRequestHeaders) :
    Except HeaderError HeaderMap :=
  result.map ForwardedRequestHeaders.headers

/-- The header map of a response result. -/
def responseHeaderMap (result : Except HeaderError ForwardedResponseHeaders) :
    Except HeaderError HeaderMap :=
  result.map ForwardedResponseHeaders.headers

/-- The request filter, without the type of its result. -/
lemma forwardRequestHeaders_map (headers : HeaderMap) (max : RequestHeaderBytes) :
    (forwardRequestHeaders headers max).map requestHeaderMap =
      forwardHeaders requestHeaderIsForwarded headers max.get := by
  unfold forwardRequestHeaders
  cases forwardHeaders requestHeaderIsForwarded headers max.get with
  | none => rfl
  | some result => cases result <;> rfl

/-- The response filter, without the type of its result. -/
lemma forwardResponseHeaders_map (headers : HeaderMap) (max : ResponseHeaderBytes) :
    (forwardResponseHeaders headers max).map responseHeaderMap =
      forwardHeaders responseHeaderIsForwarded headers max.get := by
  unfold forwardResponseHeaders
  cases forwardHeaders responseHeaderIsForwarded headers max.get with
  | none => rfl
  | some result => cases result <;> rfl

/-- Header filtering, in both directions. -/
theorem header_filtering (incoming : HeaderMap) (requestMax : RequestHeaderBytes)
    (responseMax : ResponseHeaderBytes) :
    ForwardingLaw ["host".toList, "content-length".toList] requestMax.get
        (fun headers => (forwardRequestHeaders headers requestMax).map requestHeaderMap)
        incoming ∧
      ForwardingLaw ["content-length".toList] responseMax.get
        (fun headers => (forwardResponseHeaders headers responseMax).map responseHeaderMap)
        incoming := by
  constructor
  · simp only [forwardRequestHeaders_map]
    exact forwardingLaw_forwardHeaders (requestMax.bounded.trans maxRequestHeaderBytes_le)
      keeps_request incoming
  · simp only [forwardResponseHeaders_map]
    exact forwardingLaw_forwardHeaders (responseMax.bounded.trans maxResponseHeaderBytes_le)
      keeps_response incoming

end Custode
