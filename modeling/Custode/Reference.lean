import Custode.Audit.Event

/-!
# One implementation of the assumed crates

`Reference.crates` meets everything that `Crates` asks for, so no theorem about all `Crates` is
vacuous. Its URI parser follows the shape of `Uri::try_from`: origin-form, asterisk-form,
absolute-form at the first `://`, authority-form otherwise. Of the authorities that the `http` crate
reads it takes those of letters, digits, `.`, `-`, `_` and `:`. Its URL functions act on the parsed
components; its hash is a placeholder, of which `Crates` asks nothing.
-/

namespace Custode.Reference

open Found Found.Text

/-! ## URI parsing -/

/-- A scheme of at most 64 letters, digits, `+`, `-` and `.`. -/
def schemeOk (scheme : Text) : Bool :=
  decide (byteLen scheme ≤ 64) && scheme.all fun c => c.isAlphanum || "+-.".toList.contains c

/-- A character of the authorities that are read. -/
def authorityChar (c : Char) : Bool := c.isAlphanum || ".-_:".toList.contains c

/-- A non-empty authority of such characters. -/
def authorityOk (authority : Text) : Bool := !authority.isEmpty && authority.all authorityChar

/-- A character that may stand in a path. -/
def pathChar (c : Char) : Bool :=
  decide (0x20 < c.toNat) && !("?#<>".toList.contains c || c.toNat == 0x60)

/-- A character that may stand in a query. -/
def queryChar (c : Char) : Bool := decide (0x20 < c.toNat) && !"#<>".toList.contains c

/-- A path with an optional query; a fragment is dropped. -/
def pathAndQuery (text : Text) : Option (Text × Option Text) :=
  let visible := text.takeWhile (· != '#')
  let path := visible.takeWhile (· != '?')
  match visible.dropWhile (· != '?') with
  | [] => if path.all pathChar then some (path, none) else none
  | _ :: query => if path.all pathChar && query.all queryChar then some (path, some query) else none

/-- Absolute-form text behind its scheme. -/
def afterScheme (scheme rest : Text) : Option UriParts :=
  let authority := rest.takeWhile fun c => !isAuthorityEnd c
  if schemeOk scheme && authorityOk authority then
    (pathAndQuery (rest.dropWhile fun c => !isAuthorityEnd c)).map fun target =>
      ⟨some scheme, some authority, if target.1 = [] then ['/'] else target.1, target.2⟩
  else none

/-- Parses a URI text. -/
def tryFrom (text : Text) : Option UriParts :=
  if ' ' ∈ text ∨ 65534 < byteLen text then none
  else if text = [] then none
  else if ['/'] <+: text then
    (pathAndQuery text).map fun target => ⟨none, none, target.1, target.2⟩
  else if text = ['*'] then some ⟨none, none, ['*'], none⟩
  else
    match splitOnce "://".toList text with
    | some halves => afterScheme halves.1 halves.2
    | none => if authorityOk text then some ⟨none, some text, [], none⟩ else none

/-- An ASCII character class by its members below 128. -/
lemma ascii_of_alphanum {c : Char} (h : c.isAlphanum) : c.utf8Size = 1 := by
  have htoken : isTokenChar c = true := by simp [isTokenChar, h]
  exact utf8Size_of_isTokenChar htoken

/-- What a scheme character is not. -/
lemma scheme_char {c : Char} (h : (c.isAlphanum || "+-.".toList.contains c) = true) :
    c.utf8Size = 1 ∧ c ≠ ':' ∧ c ≠ ' ' ∧ c ≠ '/' ∧ c ≠ '*' ∧ c ≠ '#' := by
  have hall : ∀ c ∈ "+-.".toList,
      c.utf8Size = 1 ∧ c ≠ ':' ∧ c ≠ ' ' ∧ c ≠ '/' ∧ c ≠ '*' ∧ c ≠ '#' :=
    forall_mem_of_all (by decide)
  rw [Bool.or_eq_true, List.contains_iff_mem] at h
  rcases h with h | h
  · refine ⟨ascii_of_alphanum h, ?_, ?_, ?_, ?_, ?_⟩ <;> · rintro rfl; exact absurd h (by decide)
  · exact hall c h

/-- What an authority character is not. -/
lemma authority_char {c : Char} (h : authorityChar c = true) :
    c.utf8Size = 1 ∧ isAuthorityEnd c = false ∧ c ≠ ' ' ∧ c ≠ '*' := by
  have hall : ∀ c ∈ ".-_:".toList, c.utf8Size = 1 ∧ isAuthorityEnd c = false ∧ c ≠ ' ' ∧ c ≠ '*' :=
    forall_mem_of_all (by decide)
  rw [authorityChar, Bool.or_eq_true, List.contains_iff_mem] at h
  rcases h with h | h
  · refine ⟨ascii_of_alphanum h, ?_, ?_, ?_⟩
    · rw [← Bool.not_eq_true]
      simp only [isAuthorityEnd, Bool.or_eq_true, beq_iff_eq]
      rintro ((rfl | rfl) | rfl) <;> exact absurd h (by decide)
    · rintro rfl
      exact absurd h (by decide)
    · rintro rfl
      exact absurd h (by decide)
  · exact hall c h

/-- What a path character is not. -/
lemma path_char {c : Char} (h : pathChar c = true) : c ≠ '?' ∧ c ≠ '#' ∧ c ≠ ' ' := by
  refine ⟨?_, ?_, ?_⟩ <;> · rintro rfl; exact absurd h (by decide)

/-- What a query character is not. -/
lemma query_char {c : Char} (h : queryChar c = true) : c ≠ '#' ∧ c ≠ ' ' := by
  refine ⟨?_, ?_⟩ <;> · rintro rfl; exact absurd h (by decide)

/-- `takeWhile` and `dropWhile` stop where a list leaves a property. -/
lemma takeWhile_dropWhile_of_stop {p : Char → Bool} {s t : Text} (hs : ∀ c ∈ s, p c = true)
    (ht : ∀ c ∈ t.head?, p c = false) :
    (s ++ t).takeWhile p = s ∧ (s ++ t).dropWhile p = t := by
  induction s with
  | nil =>
      cases t with
      | nil => exact ⟨rfl, rfl⟩
      | cons d t =>
          have hd := ht d rfl
          simp [hd]
  | cons c s ih =>
      have hc := hs c (by simp)
      have htail := ih fun d hd => hs d (by simp [hd])
      simp [hc, htail]

/-- Path characters, then possibly a query, are read as such. -/
lemma pathAndQuery_of_chars {path : Text} {query : Option Text} (hpath : path.all pathChar = true)
    (hquery : ∀ q ∈ query, q.all queryChar = true) :
    (pathAndQuery (path ++ (query.map fun q => '?' :: q).getD [])).isSome = true := by
  rw [List.all_eq_true] at hpath
  have hvisible : ∀ c ∈ path ++ (query.map fun q => '?' :: q).getD [], (c != '#') = true := by
    intro c hc
    rw [List.mem_append] at hc
    rcases hc with hc | hc
    · simpa using (path_char (hpath c hc)).2.1
    · rcases query with _ | q
      · cases hc
      · have hq := hquery q rfl
        rw [List.all_eq_true] at hq
        simp only [Option.map_some, Option.getD_some, List.mem_cons] at hc
        rcases hc with rfl | hc
        · decide
        · simpa using (query_char (hq c hc)).1
  have htake : (path ++ (query.map fun q => '?' :: q).getD []).takeWhile (· != '#') =
      path ++ (query.map fun q => '?' :: q).getD [] := by
    have := (takeWhile_dropWhile_of_stop (t := []) hvisible (by simp)).1
    rwa [List.append_nil] at this
  have hstop : ∀ c ∈ ((query.map fun q => '?' :: q).getD []).head?, (c != '?') = false := by
    rcases query with _ | q <;> simp
  obtain ⟨hfirst, hsecond⟩ := takeWhile_dropWhile_of_stop (p := (· != '?'))
    (fun c hc => by simpa using (path_char (hpath c hc)).1) hstop
  unfold pathAndQuery
  simp only [htake, hfirst, hsecond]
  rw [← List.all_eq_true] at hpath
  rcases query with _ | q
  · simp [hpath]
  · simp [hpath, hquery q rfl]

/-- What stands behind an authority starts with a delimiter. -/
lemma head_isAuthorityEnd {path : Text} (query : Option Text)
    (hpath : path = [] ∨ ['/'] <+: path) :
    ∀ c ∈ (path ++ (query.map fun q => '?' :: q).getD []).head?, (!isAuthorityEnd c) = false := by
  rcases hpath with rfl | ⟨rest, rfl⟩
  · rcases query with _ | q
    · simp
    · intro c hc
      simp only [Option.map_some, Option.getD_some, List.nil_append, List.head?_cons,
        Option.mem_some_iff] at hc
      subst hc
      decide
  · intro c hc
    simp only [List.cons_append, List.nil_append, List.head?_cons, Option.mem_some_iff] at hc
    subst hc
    decide

/-- Behind a scheme, the authority is what stands in front of the next delimiter. -/
lemma afterScheme_isSome_iff {scheme authority path : Text} {query : Option Text}
    (hscheme : schemeOk scheme = true) (hends : ∀ c ∈ authority, isAuthorityEnd c = false)
    (hslash : path = [] ∨ ['/'] <+: path) (hpath : path.all pathChar = true)
    (hquery : ∀ q ∈ query, q.all queryChar = true) :
    (∃ uri, afterScheme scheme (authority ++ (path ++ (query.map fun q => '?' :: q).getD [])) =
      some uri ∧ uri.authority.isSome) ↔ authorityOk authority = true := by
  have hstop := head_isAuthorityEnd query hslash
  obtain ⟨htake, hdrop⟩ := takeWhile_dropWhile_of_stop (p := fun c => !isAuthorityEnd c)
    (s := authority) (fun c hc => by simp [hends c hc]) hstop
  obtain ⟨target, htarget⟩ := Option.isSome_iff_exists.mp (pathAndQuery_of_chars hpath hquery)
  simp only [afterScheme, htake, hdrop, hscheme, htarget, Bool.true_and]
  by_cases hok : authorityOk authority = true
  · simp [hok]
  · simp [hok]

/-- Text in none of the special forms is absolute-form or authority-form. -/
lemma tryFrom_of_plain {text : Text} (hspace : ' ' ∉ text) (hlen : byteLen text ≤ 65534)
    (hne : text ≠ []) (hslash : ¬ ['/'] <+: text) (hstar : text ≠ ['*']) :
    tryFrom text =
      match splitOnce "://".toList text with
      | some halves => afterScheme halves.1 halves.2
      | none => if authorityOk text then some ⟨none, some text, [], none⟩ else none := by
  rw [tryFrom, if_neg (by simp [hspace, hlen]), if_neg hne, if_neg hslash, if_neg hstar]

/-- Text that parses holds no space. -/
lemma space_notMem_of_parse {text : Text} {uri : UriParts} (h : tryFrom text = some uri) :
    ' ' ∉ text := by
  intro hspace
  rw [tryFrom, if_pos (.inl hspace)] at h
  cases h

/-- The scheme and the authority of absolute-form text are found. -/
lemma tryFrom_absolute {scheme authority path : Text} {query : Option Text}
    (hscheme : schemeOk scheme = true) (hends : ∀ c ∈ authority, isAuthorityEnd c = false)
    (hslash : path = [] ∨ ['/'] <+: path) (hpath : path.all pathChar = true)
    (hquery : ∀ q ∈ query, q.all queryChar = true)
    (hlen : byteLen (UriParts.text ⟨some scheme, some authority, path, query⟩) ≤ 65534) :
    (∃ uri, tryFrom (UriParts.text ⟨some scheme, some authority, path, query⟩) = some uri ∧
      uri.authority.isSome) ↔ authorityOk authority = true := by
  have hall := hscheme
  rw [schemeOk, Bool.and_eq_true, List.all_eq_true] at hall
  have hcolon : ':' ∉ scheme := fun h => (scheme_char (hall.2 _ h)).2.1 rfl
  have htext : UriParts.text ⟨some scheme, some authority, path, query⟩ =
      scheme ++ ([] ++ ':' :: ['/', '/']) ++
        (authority ++ (path ++ (query.map fun q => '?' :: q).getD [])) := by
    simp [UriParts.text, UriParts.beforeQuery]
  have hsplit := splitOnce_of_fresh (a := []) (b := ['/', '/']) (p := scheme)
    (r := authority ++ (path ++ (query.map fun q => '?' :: q).getD [])) (by simp) hcolon
  rw [← afterScheme_isSome_iff hscheme hends hslash hpath hquery]
  rw [htext] at hlen ⊢
  by_cases hspace : ' ' ∈ authority
  · -- neither side reads an authority with a space in it
    have hbad : authorityOk authority = false := by
      rw [← Bool.not_eq_true]
      intro hok
      rw [authorityOk, Bool.and_eq_true, List.all_eq_true] at hok
      exact (authority_char (hok.2 _ hspace)).2.2.1 rfl
    rw [afterScheme_isSome_iff hscheme hends hslash hpath hquery, hbad]
    refine iff_of_false ?_ Bool.false_ne_true
    rintro ⟨uri, hparse, -⟩
    exact space_notMem_of_parse hparse (by simp [hspace])
  · rw [tryFrom_of_plain ?_ hlen (by simp) ?_ ?_]
    · rw [show "://".toList = [] ++ ':' :: ['/', '/'] from rfl, hsplit]
    · rw [List.all_eq_true] at hpath
      simp only [List.mem_append, not_or]
      refine ⟨⟨fun h => (scheme_char (hall.2 _ h)).2.2.1 rfl, by decide⟩, hspace,
        fun h => (path_char (hpath _ h)).2.2 rfl, ?_⟩
      rcases query with _ | q
      · simp
      · have hq := hquery q rfl
        rw [List.all_eq_true] at hq
        simp only [Option.map_some, Option.getD_some, List.mem_cons, not_or]
        exact ⟨by decide, fun h => (query_char (hq _ h)).2 rfl⟩
    · rcases scheme with _ | ⟨c, scheme⟩
      · simp
      · have hc := (scheme_char (hall.2 c (by simp))).2.2.2.1
        simp only [List.cons_append, List.cons_prefix_cons, List.nil_prefix, and_true]
        exact fun h => hc h.symm
    · rcases scheme with _ | ⟨c, scheme⟩
      · simp
      · have hc := (scheme_char (hall.2 c (by simp))).2.2.2.2.1
        simp only [List.cons_append, ne_eq, List.cons.injEq, not_and]
        exact fun h => absurd h hc

/-- Text without delimiters, other than `*`, is an authority or nothing. -/
lemma tryFrom_authority {authority : Text} (hends : ∀ c ∈ authority, isAuthorityEnd c = false)
    (hstar : authority ≠ ['*']) (hlen : byteLen authority ≤ 65534) :
    (∃ uri, tryFrom authority = some uri ∧ uri.authority.isSome) ↔
      authorityOk authority = true := by
  have hslashMem : '/' ∉ authority := fun h => absurd (hends _ h) (by decide)
  constructor
  · rintro ⟨uri, hparse, hsome⟩
    have hspace := space_notMem_of_parse hparse
    by_cases hne : authority = []
    · subst hne
      have hnil : tryFrom [] = none := by decide
      rw [hnil] at hparse
      cases hparse
    · rw [tryFrom_of_plain hspace hlen hne ?_ hstar,
        splitOnce_eq_none (c := '/') (by decide) hslashMem] at hparse
      · by_contra hok
        simp [hok] at hparse
      · rintro ⟨rest, rfl⟩
        simp at hslashMem
  · intro hok
    have hall := hok
    rw [authorityOk, Bool.and_eq_true, Bool.not_eq_true', List.isEmpty_eq_false_iff,
      List.all_eq_true] at hall
    have hspace : ' ' ∉ authority := fun h => (authority_char (hall.2 _ h)).2.2.1 rfl
    refine ⟨⟨none, some authority, [], none⟩, ?_, rfl⟩
    rw [tryFrom_of_plain hspace hlen hall.1 ?_ hstar,
      splitOnce_eq_none (c := '/') (by decide) hslashMem]
    · simp [hok]
    · rintro ⟨rest, rfl⟩
      simp at hslashMem

/-- Asterisk-form takes no query. -/
lemma tryFrom_asteriskQuery (text : Text) : tryFrom ('*' :: '?' :: text) = none := by
  rcases hparse : tryFrom ('*' :: '?' :: text) with _ | uri
  · rfl
  · have hspace := space_notMem_of_parse hparse
    have hlen : byteLen ('*' :: '?' :: text) ≤ 65534 := by
      by_contra hlong
      rw [tryFrom, if_pos (.inr (not_le.mp hlong))] at hparse
      cases hparse
    rw [tryFrom_of_plain hspace hlen (by simp) (by simp) (by simp)] at hparse
    rcases hsplit : splitOnce "://".toList ('*' :: '?' :: text) with _ | ⟨scheme, rest⟩
    · have hbad : authorityOk ('*' :: '?' :: text) = false := by
        have hstar : authorityChar '*' = false := by decide
        simp [authorityOk, hstar]
      rw [hsplit] at hparse
      simp [hbad] at hparse
    · -- a scheme in front of `://` would have to start with `*`
      have hsound := splitOnce_sound hsplit
      have hbad : schemeOk scheme = false := by
        rw [← Bool.not_eq_true]
        intro hok
        rw [schemeOk, Bool.and_eq_true, List.all_eq_true] at hok
        rcases scheme with _ | ⟨c, scheme⟩
        · simp at hsound
        · simp only [List.cons_append, List.cons.injEq] at hsound
          exact (scheme_char (hok.2 c (by simp))).2.2.2.2.1 hsound.1.symm
      rw [hsplit] at hparse
      simp [afterScheme, hbad] at hparse

/-- The URI parser of the `http` crate, by its parse rules. -/
def http : HttpUri where
  tryFrom := tryFrom
  schemeOk := schemeOk
  authorityOk := authorityOk
  pathChar := pathChar
  queryChar := queryChar
  scheme_short := by
    intro scheme h
    rw [schemeOk, Bool.and_eq_true, decide_eq_true_eq, List.all_eq_true] at h
    refine ⟨h.1, ?_⟩
    intro c hc
    obtain ⟨hascii, hcolon, hspace, -, -, hfragment⟩ := scheme_char (h.2 c hc)
    exact ⟨hascii, hcolon, hfragment, hspace⟩
  authority_chars := by
    intro authority h
    rw [authorityOk, Bool.and_eq_true, Bool.not_eq_true', List.isEmpty_eq_false_iff,
      List.all_eq_true] at h
    exact ⟨h.1, fun c hc => ⟨(authority_char (h.2 c hc)).1, (authority_char (h.2 c hc)).2.1,
      (authority_char (h.2 c hc)).2.2.1⟩⟩
  path_chars := fun _ => path_char
  query_chars := fun _ => query_char
  no_space := fun _ h _ => if_pos (.inl h)
  empty := by decide
  origin_form := by
    intro text uri h
    unfold tryFrom at h
    by_cases hbad : ' ' ∈ '/' :: text ∨ 65534 < byteLen ('/' :: text)
    · rw [if_pos hbad] at h
      cases h
    · rw [if_neg hbad, if_neg (List.cons_ne_nil _ _), if_pos (by simp),
        Option.map_eq_some_iff] at h
      obtain ⟨target, -, rfl⟩ := h
      rfl
  asterisk_form := by
    intro uri h
    have hstar : tryFrom ['*'] = some ⟨none, none, ['*'], none⟩ := by decide
    rw [hstar, Option.some.injEq] at h
    subst h
    rfl
  asterisk_query := tryFrom_asteriskQuery
  absolute_form := fun _ _ _ _ => tryFrom_absolute
  authority_form := fun _ => tryFrom_authority

/-! ## URLs -/

/-- The URL functions on parsed components. Only one text is parsed. -/
def url : UrlCrate where
  parse := fun raw =>
    if raw = "https://api.openai.com".toList then
      some ⟨"https".toList, [], none, some "api.openai.com".toList, none, ['/'], none, none⟩
    else none
  asStr := fun url =>
    url.scheme ++ "://".toList ++ url.host.getD [] ++
      (url.port.map fun port => ':' :: decimal port).getD [] ++ url.path ++
      (url.query.map fun query => '?' :: query).getD []
  setPath := fun url path => { url with path := UrlPath.parse path }
  setQuery := fun url query =>
    { url with query := query.map (Percent.encode Percent.specialQuerySet) }
  set_path := fun _ _ _ _ => rfl
  set_no_query := fun _ => rfl
  set_query := fun _ _ _ _ => rfl

/-- A value for every assumed crate. -/
def crates : Crates where
  http := http
  url := url
  blake3 := fun _ => ⟨List.replicate 32 0, by decide⟩
  responseBuilds := fun _ _ => true

/-! ## A configuration -/

/-- The path `/v1/models`. -/
def modelsPath : OriginFormPath := ⟨"/v1/models".toList, by decide +kernel⟩

/-- The origin `https://api.openai.com`. -/
def origin : UpstreamOrigin where
  url := ⟨"https".toList, [], none, some "api.openai.com".toList, none, ['/'], none, none⟩
  accepted := by decide

/-- The method `GET` in an allowlist. -/
def getMethod : AllowedMethod := ⟨Method.get, by decide, by decide⟩

/-- `GET:exact:/v1/models` for `https://api.openai.com`, with small limits. -/
def config : GatewayConfig where
  allowedOperations := [⟨getMethod, ⟨.exactPath, modelsPath, by decide⟩⟩]
  maxConcurrentRequests := ⟨4, by decide, by decide⟩
  maxRequestBytes := ⟨1024, by decide, by decide⟩
  maxRequestHeaderBytes := ⟨4096, by decide, by decide⟩
  maxResponseBytes := ⟨1024, by decide, by decide⟩
  maxResponseHeaderBytes := ⟨4096, by decide, by decide⟩
  requestTimeout := ⟨30, by decide, by decide⟩
  upstreamOrigin := origin

/-- The first request identity of a run. -/
def requestId : RequestId := ⟨⟨List.replicate 16 0, by decide⟩, ⟨1, by decide, by decide⟩⟩

/-- A timestamp. -/
def timestamp : AuditTimestamp := ⟨"2026-01-01T00:00:00.000000000Z".toList⟩

/-- A refused request. -/
def event : AuditEvent where
  decision := .denied
  errorClass := some "too_many_requests"
  method := ⟨"GET".toList⟩
  path := ['/']
  query := none
  requestBody := .notObserved
  requestId := requestId
  responseBody := .notObserved
  status := .tooManyRequests
  timestamp := timestamp
  upstreamOrigin := "https://api.openai.com".toList
  upstreamPath := none
  upstreamQuery := none
  version := .current

end Custode.Reference
