import Custode.Audit.Upstream

/-!
# The forwarded URL

The allowlist decides on the request path; the request goes to the URL that
`UpstreamOrigin::join_path_query` builds. `forwarded_url` says that the two are about the same path:
the URL parser leaves every accepted path as it is, the joined URL has the configured scheme, host
and port and no fragment, and its text behind the origin is read back as the same path and query.
-/

namespace Custode

open Found Found.Text

/-- The text of a URL behind its origin. -/
def Url.afterOrigin (url : Url) : Text :=
  url.path ++ (url.query.map fun query => '?' :: query).getD [] ++
    (url.fragment.map fun fragment => '#' :: fragment).getD []

/-- An accepted path has neither delimiter in it. -/
lemma OriginFormPath.delimiter_notMem (path : OriginFormPath) :
    '?' ∉ path.value ∧ '#' ∉ path.value := by
  constructor
  · intro h
    exact absurd (path.chars _ h).2 (by decide)
  · intro h
    exact absurd (path.chars _ h).2 (by decide)

/-- The query of a joined URL has no `#` in it. -/
lemma OriginFormQuery.hash_notMem (query : OriginFormQuery) : '#' ∉ forwardedQuery query.value := by
  have hchars := (queryError_eq_none_iff.mp query.accepted).2.2.1
  intro h
  have hbyte : '#'.toUInt8 ∈ bytes (forwardedQuery query.value) :=
    List.mem_flatMap.mpr ⟨'#', h, by decide⟩
  rw [bytes_forwardedQuery hchars, List.mem_flatMap] at hbyte
  obtain ⟨byte, hmem, hforwarded⟩ := hbyte
  have haccepted : isOriginFormQueryByte byte = true := by
    unfold hasInvalidQueryCharacter at hchars
    rw [List.any_eq_false] at hchars
    simpa using hchars byte hmem
  exact (isOriginFormQueryByte_forwarded haccepted _ hforwarded).2 rfl

/-- A configured origin has no fragment. -/
lemma UpstreamOrigin.fragment_eq_none (origin : UpstreamOrigin) : origin.url.fragment = none := by
  have h := origin.accepted
  unfold originError at h
  split_ifs at h with _ _ _ hparts _
  · simp only [not_or] at hparts
    simpa using hparts.2.2

/-- The joined URL is the configured one with the accepted path and the forwarded query. -/
lemma UpstreamOrigin.joinPathQuery_eq (X : Crates) (origin : UpstreamOrigin) (path : OriginFormPath)
    (query : Option OriginFormQuery) :
    origin.joinPathQuery X path query =
      { origin.url with
        path := path.value
        query := query.map fun query => forwardedQuery query.value } := by
  have hhttp : ({ origin.url with path := path.value } : Url).isHttp = true := origin.isHttp
  rw [joinPathQuery, X.url.setPath_accepted origin.isHttp path]
  cases query with
  | none => rw [Option.map_none, X.url.set_no_query, Option.map_none]
  | some query =>
      rw [Option.map_some, X.url.set_query _ query.value hhttp query.accepted, Option.map_some,
        forwardedQuery]

/-- The forwarded URL has the path that the allowlist decided on. Setting the path of a URL changes
no accepted path; the joined URL keeps the scheme, host and port of the configured origin and has no
fragment; and behind the origin its text splits at `?` into that path and the forwarded query, with
no `#` in it. -/
theorem forwarded_url (X : Crates) (origin : UpstreamOrigin) (path : OriginFormPath)
    (query : Option OriginFormQuery) :
    UrlPath.parse path.value = path.value ∧
    (origin.joinPathQuery X path query).scheme = origin.url.scheme ∧
    (origin.joinPathQuery X path query).host = origin.url.host ∧
    (origin.joinPathQuery X path query).port = origin.url.port ∧
    (origin.joinPathQuery X path query).path = path.value ∧
    (origin.joinPathQuery X path query).query =
      query.map (fun query => forwardedQuery query.value) ∧
    (origin.joinPathQuery X path query).fragment = none ∧
    '#' ∉ (origin.joinPathQuery X path query).afterOrigin ∧
    splitOnce ['?'] (origin.joinPathQuery X path query).afterOrigin =
      query.map fun query => (path.value, forwardedQuery query.value) := by
  have hfragment := origin.fragment_eq_none
  obtain ⟨hmark, hhash⟩ := path.delimiter_notMem
  rw [origin.joinPathQuery_eq X path query]
  refine ⟨path.parse_value, rfl, rfl, rfl, rfl, rfl, hfragment, ?_, ?_⟩
  · cases query with
    | none => simpa [Url.afterOrigin, hfragment] using hhash
    | some query => simpa [Url.afterOrigin, hfragment] using ⟨hhash, query.hash_notMem⟩
  · cases query with
    | none =>
        simp only [Url.afterOrigin, hfragment, Option.map_none, Option.getD_none, List.append_nil]
        exact splitOnce_eq_none List.mem_cons_self hmark
    | some query =>
        simp only [Url.afterOrigin, hfragment, Option.map_none, Option.map_some, Option.getD_none,
          Option.getD_some, List.append_nil]
        have hsplit := splitOnce_of_fresh (a := []) (b := []) (c := '?') (p := path.value)
          (r := forwardedQuery query.value) List.not_mem_nil hmark
        simpa using hsplit

end Custode
