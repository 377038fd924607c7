import Custode.Audit.Wire
import Custode.Reference
import Mathlib.Data.List.TakeWhile

/-!
# The upstream origin, read back

`UpstreamOrigin::parse` bounds the raw spelling, `AuditEvent::new_at` records the spelling of the
`url` crate, and the reader of an existing log gives that one to `UpstreamOrigin::parse` again. The
`url` crate may spell an origin with more bytes than it was configured with: it adds the slashes
behind the scheme, and writes an IDN host in punycode.

* `UrlCrate.SpellsOrigins` — what the gateway relies on: how an origin is spelled, and that its
  spelling is read as the same URL;
* `UpstreamOrigin.origin_roundTrips_iff` — an accepted origin is read back iff its spelling takes at
  most 255 bytes;
* `Reference.plainCrates` — a `url` crate for hosts of lower-case letters and dots.
-/

namespace Custode

open Found Found.Text

/-! ## How an origin is spelled -/

/-- Scheme, host and port of a URL, as text. -/
def Url.originText (url : Url) : Text :=
  url.scheme ++ "://".toList ++ url.host.getD [] ++
    (url.port.map fun port => ':' :: decimal port).getD []

/-- The spelling of an origin by `Url::as_str`, and what `Url::parse` reads in it. -/
structure UrlCrate.SpellsOrigins (U : UrlCrate) : Prop where
  /-- An HTTP URL has a host, and no `/` in it. -/
  host : ∀ raw url, U.parse raw = some url → url.isHttp = true →
    ∃ host, url.host = some host ∧ host ≠ [] ∧ '/' ∉ host
  /-- Without path, query, fragment and credentials a URL is its origin and `/`. -/
  spelled : ∀ raw url, U.parse raw = some url → originError url = none →
    U.asStr url = url.originText ++ ['/']
  /-- The parser is idempotent on its own serialisation. -/
  idempotent : ∀ raw url, U.parse raw = some url → url.isHttp = true →
    U.parse (U.asStr url) = some url
  /-- An HTTP URL without a path has the path `/`. -/
  emptyPath : ∀ url, url.isHttp = true → U.parse (url.originText ++ ['/']) = some url →
    U.parse url.originText = some url

/-- Trimming `/` at the end undoes one that was added. -/
lemma trimEnd_append_slash {s : Text} (h : ∀ c ∈ s.getLast?, c ≠ '/') :
    ((s ++ ['/']).reverse.dropWhile (· == '/')).reverse = s := by
  rw [List.reverse_append, List.reverse_singleton, List.singleton_append,
    List.dropWhile_cons_of_pos (by simp)]
  rcases hs : s.reverse with _ | ⟨c, t⟩
  · rw [List.reverse_eq_nil_iff.mp hs]
    rfl
  · have hc : c ≠ '/' := by
      apply h
      rw [← List.head?_reverse, hs]
      rfl
    rw [List.dropWhile_cons_of_neg (by simpa using hc), ← hs, List.reverse_reverse]

/-- The spelling of an origin does not end in `/`. -/
lemma Url.getLast?_originText {url : Url} {host : Text} (hhost : url.host = some host)
    (hne : host ≠ []) (hslash : '/' ∉ host) : ∀ c ∈ url.originText.getLast?, c ≠ '/' := by
  intro c hc
  unfold originText at hc
  rw [hhost] at hc
  rcases hport : url.port with _ | port
  · have hmem : c ∈ host := by
      rw [hport, Option.map_none, Option.getD_none, List.append_nil, Option.getD_some,
        List.getLast?_append_of_ne_nil _ hne] at hc
      exact List.mem_of_getLast? hc
    exact fun heq => hslash (heq ▸ hmem)
  · have hdigit : c ∈ decimal port := by
      simp only [hport, Option.map_some, Option.getD_some] at hc
      rw [List.getLast?_append_of_ne_nil _ (List.cons_ne_nil _ _), ← List.singleton_append,
        List.getLast?_append_of_ne_nil _ (decimal_ne_nil port)] at hc
      exact List.mem_of_getLast? hc
    rintro rfl
    exact absurd (isDigit_of_mem_decimal hdigit) (by decide)

namespace UpstreamOrigin

/-- The origin's text is its scheme, host and port. -/
lemma asStr_eq {X : Crates} (hX : X.url.SpellsOrigins) {raw : Text} {origin : UpstreamOrigin}
    (h : X.url.parse raw = some origin.url) : origin.asStr X = origin.url.originText := by
  obtain ⟨host, hhost, hne, hslash⟩ := hX.host raw origin.url h origin.isHttp
  unfold asStr
  rw [hX.spelled raw origin.url h origin.accepted]
  exact trimEnd_append_slash (Url.getLast?_originText hhost hne hslash)

/-- The `url` crate reads the origin's text as the origin's URL. -/
lemma parse_asStr {X : Crates} (hX : X.url.SpellsOrigins) {raw : Text} {origin : UpstreamOrigin}
    (h : X.url.parse raw = some origin.url) : X.url.parse (origin.asStr X) = some origin.url := by
  rw [asStr_eq hX h]
  apply hX.emptyPath _ origin.isHttp
  rw [← hX.spelled raw origin.url h origin.accepted]
  exact hX.idempotent raw origin.url h origin.isHttp

/-- The text of the origin is parsed to the origin, and so is what an event records of it. -/
structure RoundTrips (X : Crates) (origin : UpstreamOrigin) : Prop where
  /-- The text is accepted, with the same origin. -/
  parsed : parse X (origin.asStr X) = .ok origin
  /-- The origin that an event records is accepted when the log is read. -/
  recorded : ∀ input timestamp event, AuditEvent.newAt X input timestamp = some event →
    input.request.upstreamOrigin = origin →
      deserializeExistingUpstreamOrigin X event.upstreamOrigin = .ok origin

/-- Reading an origin from the log is parsing it. -/
lemma roundTrips_of_parsed {X : Crates} {origin : UpstreamOrigin}
    (h : parse X (origin.asStr X) = .ok origin) : RoundTrips X origin := by
  refine ⟨h, ?_⟩
  intro input timestamp event hevent horigin
  obtain ⟨method, -, rfl⟩ := Option.map_eq_some_iff.mp hevent
  unfold deserializeExistingUpstreamOrigin
  simp only [horigin, h]
  rfl

/-- The text of an accepted origin is accepted again, as the same origin, iff scheme, host and port
of the URL that was read in the raw text take at most 255 bytes. -/
theorem origin_roundTrips_iff {X : Crates} (hX : X.url.SpellsOrigins) {raw : Text} {url : Url}
    {origin : UpstreamOrigin} (hurl : X.url.parse raw = some url) (h : parse X raw = .ok origin) :
    RoundTrips X origin ↔ byteLen url.originText ≤ maxUpstreamOriginBytes := by
  obtain ⟨-, hread⟩ := parse_eq_ok_iff.mp h
  obtain rfl : url = origin.url := Option.some.inj (hurl.symm.trans hread)
  have hparse : parse X (origin.asStr X) = .ok origin ↔
      byteLen origin.url.originText ≤ maxUpstreamOriginBytes := by
    rw [parse_eq_ok_iff, asStr_eq hX hurl, and_iff_left]
    rw [← asStr_eq hX hurl]
    exact parse_asStr hX hurl
  rw [← hparse]
  exact ⟨RoundTrips.parsed, roundTrips_of_parsed⟩

end UpstreamOrigin

/-! ## A `url` crate for plain hosts -/

namespace Reference

/-- A lower-case letter or a dot. -/
def hostChar (c : Char) : Bool := c.isLower || c == '.'

/-- The URL of a host. -/
def hostUrl (host : Text) : Url :=
  ⟨"http".toList, [], none, some host, none, ['/'], none, none⟩

/-- Reads `http:`, any number of slashes, a host and possibly a slash. -/
def parseHost (raw : Text) : Option Url :=
  (stripPrefix "http:".toList raw).bind fun rest =>
    let authority := rest.dropWhile (· == '/')
    let host := authority.takeWhile hostChar
    let tail := authority.dropWhile hostChar
    if host ≠ [] ∧ (tail = [] ∨ tail = ['/']) then some (hostUrl host) else none

/-- Hosts, and their URLs, in the place of all URLs. -/
def plainCrates : Crates := { crates with url := { url with parse := parseHost } }

/-- What is read is the URL of a host. -/
lemma parseHost_sound {raw : Text} {read : Url} (h : parseHost raw = some read) :
    ∃ host, read = hostUrl host ∧ host ≠ [] ∧ ∀ c ∈ host, hostChar c = true := by
  unfold parseHost at h
  obtain ⟨rest, -, hrest⟩ := Option.bind_eq_some_iff.mp h
  dsimp only at hrest
  split at hrest
  · rename_i hhost
    cases hrest
    exact ⟨_, rfl, hhost.1, fun c hc => List.mem_takeWhile_imp hc⟩
  · cases hrest

/-- The URL of a host is read, with any number of slashes in front of the host. -/
lemma parseHost_spelled {host : Text} (hne : host ≠ []) (hchars : ∀ c ∈ host, hostChar c = true)
    (slashes : Nat) (tail : Text) (htail : tail = [] ∨ tail = ['/']) :
    parseHost ("http:".toList ++ (List.replicate slashes '/' ++ (host ++ tail))) =
      some (hostUrl host) := by
  have hhost : ∀ c ∈ (host ++ tail).head?, (c == '/') = false := by
    intro c hc
    rw [List.head?_append_of_ne_nil _ hne] at hc
    have hc := hchars c (List.mem_of_head? hc)
    by_contra heq
    rw [Bool.not_eq_false, beq_iff_eq] at heq
    subst heq
    exact absurd hc (by decide)
  have hstop : ∀ c ∈ tail.head?, hostChar c = false := by
    rcases htail with rfl | rfl
    · simp
    · simp [hostChar]
  obtain ⟨-, hdrop⟩ := takeWhile_dropWhile_of_stop (p := (· == '/'))
    (s := List.replicate slashes '/') (by simp +contextual) hhost
  obtain ⟨htake, hafter⟩ := takeWhile_dropWhile_of_stop hchars hstop
  unfold parseHost
  have hstrip : stripPrefix "http:".toList
      ("http:".toList ++ (List.replicate slashes '/' ++ (host ++ tail))) =
        some (List.replicate slashes '/' ++ (host ++ tail)) := by
    simp [stripPrefix]
  rw [hstrip, Option.bind_some]
  dsimp only
  rw [hdrop, htake, hafter, if_pos ⟨hne, htail⟩]

/-- The origin of a host is `http://` and the host. -/
lemma originText_hostUrl (host : Text) :
    (hostUrl host).originText = "http:".toList ++ (List.replicate 2 '/' ++ (host ++ [])) := by
  simp [hostUrl, Url.originText]

/-- The origins of hosts are spelled as `SpellsOrigins` asks. -/
lemma plainCrates_spellsOrigins : plainCrates.url.SpellsOrigins := by
  have hasStr (host : Text) : plainCrates.url.asStr (hostUrl host) =
      (hostUrl host).originText ++ ['/'] := List.append_nil _
  constructor
  · intro raw read h _
    obtain ⟨host, rfl, hne, hchars⟩ := parseHost_sound h
    exact ⟨host, rfl, hne, fun hslash => absurd (hchars _ hslash) (by decide)⟩
  · intro raw read h _
    obtain ⟨host, rfl, -, -⟩ := parseHost_sound h
    exact hasStr host
  · intro raw read h _
    obtain ⟨host, rfl, hne, hchars⟩ := parseHost_sound h
    rw [hasStr, originText_hostUrl, List.append_nil, List.append_assoc, List.append_assoc]
    exact parseHost_spelled hne hchars 2 ['/'] (by simp)
  · intro read _ h
    obtain ⟨host, rfl, hne, hchars⟩ := parseHost_sound h
    rw [originText_hostUrl]
    exact parseHost_spelled hne hchars 2 [] (by simp)

/-- A host of 250 bytes. -/
def longHost : Text :=
  let label := fun n => List.replicate n 'a'
  label 62 ++ '.' :: (label 62 ++ '.' :: (label 62 ++ '.' :: label 61))

/-- The long host is made of host characters. -/
lemma hostChar_of_mem_longHost : ∀ c ∈ longHost, hostChar c = true := by
  intro c hc
  simp only [longHost, List.mem_append, List.mem_cons, List.mem_replicate] at hc
  rcases hc with ⟨-, rfl⟩ | rfl | ⟨-, rfl⟩ | rfl | ⟨-, rfl⟩ | rfl | ⟨-, rfl⟩ <;> decide

/-- The length of the long host. -/
@[simp] lemma byteLen_longHost : byteLen longHost = 250 := by
  unfold longHost
  simp only [byteLen_append, byteLen_cons, byteLen_replicate]
  decide

/-- The origin of the long host. -/
def longOrigin : UpstreamOrigin := ⟨hostUrl longHost, by decide⟩

/-- The origin of the host `models.internal`. -/
def modelsOrigin : UpstreamOrigin := ⟨hostUrl "models.internal".toList, by decide⟩

end Reference

namespace UpstreamOrigin

open Reference

/-- The origin of `http:models.internal` is read back. -/
theorem modelsOrigin_roundTrips : RoundTrips plainCrates modelsOrigin := by
  have hread : plainCrates.url.parse "http:models.internal".toList = some modelsOrigin.url := by
    decide
  have haccepted := parse_eq_ok_iff.mpr ⟨by decide, hread⟩
  exact (origin_roundTrips_iff plainCrates_spellsOrigins hread haccepted).mpr (by decide)

/-- The raw text without slashes is accepted at the limit, the text of its origin is two bytes over
the limit. -/
theorem longOrigin_not_read_back :
    plainCrates.url.SpellsOrigins ∧
      parse plainCrates ("http:".toList ++ longHost) = .ok longOrigin ∧
      parse plainCrates (longOrigin.asStr plainCrates) =
        .error (.upstreamOriginTooLong 255 257) := by
  have hread : plainCrates.url.parse ("http:".toList ++ longHost) = some (hostUrl longHost) := by
    have h := parseHost_spelled (List.cons_ne_nil _ _) hostChar_of_mem_longHost 0 [] (by simp)
    rwa [List.append_nil] at h
  have hraw : byteLen ("http:".toList ++ longHost) = 255 := by
    rw [byteLen_append, byteLen_longHost]
    rfl
  have htext : byteLen (hostUrl longHost).originText = 257 := by
    rw [originText_hostUrl, List.append_nil, byteLen_append, byteLen_append, byteLen_longHost]
    rfl
  refine ⟨plainCrates_spellsOrigins, ?_, ?_⟩
  · exact parse_eq_ok_iff.mpr ⟨hraw.le, hread⟩
  · have hasStr : longOrigin.asStr plainCrates = (hostUrl longHost).originText :=
      asStr_eq plainCrates_spellsOrigins hread
    rw [hasStr]
    unfold parse
    rw [if_pos (by rw [htext]; decide), htext]
    rfl

end UpstreamOrigin

end Custode
