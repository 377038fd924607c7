import Custode.Found.Percent

/-!
# The path of an `http` or `https` URL

The path states of the WHATWG URL parser for a special scheme, as they run when the path of a URL
is replaced: tabs and newlines are dropped, `/` and `\` both end a segment, `.` and `..` are
resolved in all their `%2e` spellings, and the characters of the path percent-encode set are
percent-encoded. A `?` or `#` does not end the path here; it is percent-encoded.

`parse_eq_self` says which texts the parser leaves as they are: those that start with `/`, have no
character that it drops, rewrites or encodes, and no dot segment.
-/

namespace Custode.Found.UrlPath

open Percent Segments

/-! ## The parser -/

/-- ASCII tab or newline. -/
def isTabOrNewline (c : Char) : Bool := c == '\t' || c == '\n' || c == '\r'

/-- The characters that end a segment. -/
def isSeparator (c : Char) : Bool := c == '/' || c == '\\'

/-- The path percent-encode set. -/
def pathSet (c : Char) : Bool :=
  querySet c || c == '?' || c == '^' || c.toNat == 0x60 || c.toNat == 0x7B || c.toNat == 0x7D

/-- The spellings of `.` as a segment. -/
def singleDots : List Text := [".", "%2e", "%2E"].map String.toList

/-- The spellings of `..` as a segment. -/
def doubleDots : List Text :=
  ["..", ".%2e", ".%2E", "%2e.", "%2E.", "%2e%2e", "%2e%2E", "%2E%2e", "%2E%2E"].map String.toList

/-- The path start state: one leading separator is passed over. -/
def pathStart : Text → Text
  | [] => []
  | c :: rest => if isSeparator c then rest else c :: rest

/-- The path state: the segments that the URL is left with. -/
def pathState (input : Text) : List Text :=
  removeDotSegments singleDots.contains doubleDots.contains [] []
    ((input.splitOnP isSeparator).map (encode pathSet))

/-- The path of a special URL after it was set to `input`. -/
def parse (input : Text) : Text :=
  (pathState (pathStart (input.filter fun c => !isTabOrNewline c))).flatMap fun segment =>
    '/' :: segment

/-! ## Paths that are kept -/

/-- Segments written one behind the other, each behind a `/`. -/
lemma flatMap_slash {segments : List Text} (h : segments ≠ []) :
    (segments.flatMap fun segment => '/' :: segment) = '/' :: ['/'].intercalate segments := by
  induction segments with
  | nil => exact absurd rfl h
  | cons s rest ih =>
      rw [List.flatMap_cons]
      cases rest with
      | nil => simp
      | cons t rest =>
          rw [ih (List.cons_ne_nil _ _), List.intercalate_cons_of_ne_nil (List.cons_ne_nil _ _)]
          simp only [List.cons_append, List.append_assoc, List.nil_append]

/-- A path is kept when nothing in it is dropped, rewritten, encoded or resolved. -/
lemma parse_eq_self {rest : Text} (hkept : ∀ c ∈ rest, isTabOrNewline c = false)
    (hslash : ∀ c ∈ rest, c ≠ '\\') (hplain : ∀ c ∈ rest, pathSet c = false)
    (hdots : ∀ segment ∈ rest.splitOn '/',
      singleDots.contains segment = false ∧ doubleDots.contains segment = false) :
    parse ('/' :: rest) = '/' :: rest := by
  have hfilter : ('/' :: rest).filter (fun c => !isTabOrNewline c) = '/' :: rest := by
    rw [List.filter_eq_self]
    intro c hc
    rw [List.mem_cons] at hc
    rcases hc with rfl | hc
    · rfl
    · rw [hkept c hc]
      rfl
  have hsplit : rest.splitOnP isSeparator = rest.splitOn '/' := by
    rw [List.splitOn_eq_splitOnP]
    apply splitOnP_congr
    intro c hc
    unfold isSeparator
    rw [beq_false_of_ne (hslash c hc), Bool.or_false]
  have hencode : (rest.splitOn '/').map (encode pathSet) = rest.splitOn '/' := by
    rw [List.splitOn_eq_splitOnP]
    refine (List.map_congr_left fun segment hsegment => ?_).trans (List.map_id _)
    apply encode_of_disjoint
    intro c hc
    exact hplain c (of_mem_splitOnP hsegment c hc).1
  have hstate : pathState rest = rest.splitOn '/' := by
    unfold pathState
    rw [hsplit, hencode, removeDotSegments_of_plain hdots, List.nil_append]
  unfold parse
  rw [hfilter]
  calc ((pathState rest).flatMap fun segment => '/' :: segment)
      = '/' :: ['/'].intercalate (rest.splitOn '/') := by
        rw [hstate, flatMap_slash (List.splitOn_ne_nil '/' rest)]
    _ = '/' :: rest := by rw [List.intercalate_splitOn]

end Custode.Found.UrlPath
