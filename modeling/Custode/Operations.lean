import Custode.Config
import Custode.Found.Checks
import Custode.Found.Sorting
import Mathlib.Data.List.Perm.Basic

/-!
# Configured operations

`config.rs`: one configured operation, `METHOD:exact:/path` or `METHOD:prefix:/path`, its canonical
order, and the set of configured operations.

* `AllowedOperation.parse_eq_ok_iff` — the text of an operation is its only spelling;
* `AllowedOperation.cmpConfig` — the three-key comparison is a lawful total order whose `eq` is
  equality, so duplicate detection among neighbours finds every duplicate.
-/

namespace Custode

open Found Found.Text Found.Checks Found.Sorting

/-! ## One operation -/

/-- The canonical configuration token.
Source: `config.rs` `AllowedPathKind::as_str` -/
def AllowedPathKind.asStr : AllowedPathKind → Text
  | .exactPath => "exact".toList
  | .prefixPath => "prefix".toList

/-- The canonical sort rank.
Source: `config.rs` `AllowedPathKind::sort_rank` -/
def AllowedPathKind.sortRank : AllowedPathKind → Nat
  | .exactPath => 0
  | .prefixPath => 1

namespace AllowedOperation

/-- Compares operations by their canonical configuration order; texts are compared by their bytes.
Source: `config.rs` `AllowedOperation::cmp_config` -/
def cmpConfig (a b : AllowedOperation) : Ordering :=
  ((compare (bytes a.method.method.text) (bytes b.method.method.text)).then
    (compare a.path.kind.sortRank b.path.kind.sortRank)).then
      (compare (bytes a.path.value.value) (bytes b.path.value.value))

/-- The path of a configured operation: the match of `AllowedOperation::parse` on the kind. -/
def parsePath (kind pathText : Text) : Except ConfigError AllowedPath :=
  if kind = "exact".toList then AllowedPath.exact pathText
  else if kind = "prefix".toList then AllowedPath.prefixOf pathText
  else .error (.invalidOperationKind kind)

/-- Parses a configured allowed operation.
Source: `config.rs` `AllowedOperation::parse` -/
def parse (raw : Text) : Except ConfigError AllowedOperation :=
  if maxAllowedOperationBytes < byteLen raw then
    .error (.allowedOperationTooLong maxAllowedOperationBytes (byteLen raw))
  else
    let parts := splitn [':'] 3 raw
    let methodText := parts.getD 0 []
    let kind := parts.getD 1 []
    let pathText := parts.getD 2 []
    if methodText = [] ∨ kind = [] ∨ pathText = [] then .error (.invalidAllowedOperation raw)
    else do
      let method ← AllowedMethod.parse methodText
      let path ← parsePath kind pathText
      return ⟨method, path⟩

/-- This operation in canonical configuration form.
Source: `config.rs` `AllowedOperation::to_config_text` -/
def toConfigText (operation : AllowedOperation) : Text :=
  operation.method.method.text ++ ':' :: (operation.path.kind.asStr ++ ':' ::
    operation.path.value.value)

end AllowedOperation

/-- Canonical, duplicate-free configured operations.
Source: `config.rs` `AllowedOperations` -/
structure AllowedOperations where
  operations : List AllowedOperation
  deriving DecidableEq

/-- Parses allowed operation strings and rejects an empty operation set.
Source: `config.rs` `AllowedOperations::parse` -/
def AllowedOperations.parse (operations : List Text) : Except ConfigError AllowedOperations :=
  if operations.all List.isEmpty then .error .emptyOperations
  else if maxAllowedOperations < operations.length then
    .error (.tooManyAllowedOperations maxAllowedOperations operations.length)
  else do
    let parsed ← operations.mapM AllowedOperation.parse
    let sorted := sortBy AllowedOperation.cmpConfig parsed
    match firstRepeat sorted with
    | some duplicate => .error (.duplicateAllowedOperation duplicate.toConfigText)
    | none => return ⟨sorted⟩

/-! ## What the parsers of the parts accept -/

/-- A method is read back from its text. -/
lemma Method.fromBytes_text (method : Method) : Method.fromBytes method.text = some method := by
  unfold Method.fromBytes
  rw [dif_pos ⟨method.token, method.fits⟩]

/-- An allowed method is read from the text of it alone. -/
lemma AllowedMethod.parse_eq_ok_iff {raw : Text} {method : AllowedMethod} :
    AllowedMethod.parse raw = .ok method ↔ raw = method.method.text := by
  unfold AllowedMethod.parse
  constructor
  · intro h
    split_ifs at h with hlong
    split at h
    · cases h
    · rename_i parsed hparsed
      split_ifs at h with hconnect
      rw [← Except.ok.inj h]
      exact (Method.text_of_fromBytes hparsed).symm
  · rintro rfl
    rw [dif_neg (not_lt.mpr method.short)]
    split
    · rename_i hparsed
      rw [Method.fromBytes_text] at hparsed
      cases hparsed
    · rename_i parsed hparsed
      rw [Method.fromBytes_text, Option.some.injEq] at hparsed
      subst hparsed
      rw [dif_neg method.supported]

/-- An allowed path is read from the text of it alone. -/
lemma parseAllowedPath_eq_ok_iff {raw : Text} {path : OriginFormPath} :
    parseAllowedPath raw = .ok path ↔ raw = path.value := by
  unfold parseAllowedPath
  constructor
  · intro h
    cases hparse : OriginFormPath.parse raw with
    | error error => simp [hparse, Except.mapError] at h
    | ok parsed =>
        simp only [hparse, Except.mapError, Except.ok.injEq] at h
        rw [← h, (OriginFormPath.parse_eq_ok_iff.mp hparse).2]
  · rintro rfl
    rw [OriginFormPath.parse_eq_ok_iff.mpr ⟨path.accepted, rfl⟩]
    rfl

/-- An exact path is read from its text. -/
lemma AllowedPath.exact_eq_ok_iff {raw : Text} {path : AllowedPath} :
    AllowedPath.exact raw = .ok path ↔ path.kind = .exactPath ∧ raw = path.value.value := by
  unfold AllowedPath.exact
  constructor
  · intro h
    cases hparse : parseAllowedPath raw with
    | error error => simp [hparse, Except.map] at h
    | ok value =>
        simp only [hparse, Except.map, Except.ok.injEq] at h
        rw [← h]
        exact ⟨rfl, parseAllowedPath_eq_ok_iff.mp hparse⟩
  · rintro ⟨hkind, hraw⟩
    obtain ⟨kind, value, hsegment⟩ := path
    obtain rfl : kind = .exactPath := hkind
    rw [parseAllowedPath_eq_ok_iff.mpr hraw]
    rfl

/-- A path prefix is read from its text. -/
lemma AllowedPath.prefixOf_eq_ok_iff {raw : Text} {path : AllowedPath} :
    AllowedPath.prefixOf raw = .ok path ↔ path.kind = .prefixPath ∧ raw = path.value.value := by
  unfold AllowedPath.prefixOf
  constructor
  · intro h
    cases hparse : parseAllowedPath raw with
    | error error => simp [hparse] at h
    | ok value =>
        simp only [hparse] at h
        split_ifs at h with hroot
        rw [← Except.ok.inj h]
        exact ⟨rfl, parseAllowedPath_eq_ok_iff.mp hparse⟩
  · rintro ⟨hkind, hraw⟩
    obtain ⟨kind, value, hsegment⟩ := path
    obtain rfl : kind = .prefixPath := hkind
    have hroot : ¬ (value.value = ['/'] ∨ ['/'] <:+ value.value) := by
      rintro (hroot | hsuffix)
      · exact hsegment rfl (hroot ▸ List.suffix_rfl)
      · exact hsegment rfl hsuffix
    rw [parseAllowedPath_eq_ok_iff.mpr hraw]
    simp only [dif_neg hroot]

/-- The two kinds have different names. -/
lemma AllowedPathKind.asStr_inj {kind kind' : AllowedPathKind} :
    kind.asStr = kind'.asStr ↔ kind = kind' := by
  refine ⟨fun h => ?_, congrArg asStr⟩
  cases kind <;> cases kind' <;> first | rfl | exact absurd h (by decide)

namespace AllowedOperation

/-- A path is read from its kind and its text. -/
lemma parsePath_eq_ok_iff {kind pathText : Text} {path : AllowedPath} :
    parsePath kind pathText = .ok path ↔
      kind = path.kind.asStr ∧ pathText = path.value.value := by
  have hexactText : "exact".toList = AllowedPathKind.exactPath.asStr := rfl
  have hprefixText : "prefix".toList = AllowedPathKind.prefixPath.asStr := rfl
  unfold parsePath
  rw [hexactText, hprefixText]
  by_cases hexact : kind = AllowedPathKind.exactPath.asStr
  · rw [if_pos hexact, AllowedPath.exact_eq_ok_iff, hexact, AllowedPathKind.asStr_inj,
      eq_comm (a := path.kind)]
  · rw [if_neg hexact]
    by_cases hprefix : kind = AllowedPathKind.prefixPath.asStr
    · rw [if_pos hprefix, AllowedPath.prefixOf_eq_ok_iff, hprefix, AllowedPathKind.asStr_inj,
        eq_comm (a := path.kind)]
    · rw [if_neg hprefix]
      refine iff_of_false (fun h => by cases h) ?_
      rintro ⟨hkind, -⟩
      cases hcase : path.kind with
      | exactPath => exact hexact (hkind.trans (by rw [hcase]))
      | prefixPath => exact hprefix (hkind.trans (by rw [hcase]))

/-- A method holds no `:`. -/
lemma colon_notMem_method (method : Method) : ':' ∉ method.text :=
  fun hmem => absurd (method.isTokenChar_of_mem _ hmem) (by decide)

/-- A kind holds no `:`. -/
lemma colon_notMem_kind (kind : AllowedPathKind) : ':' ∉ kind.asStr := by
  cases kind with
  | exactPath => decide
  | prefixPath => decide

/-- The parts of an operation's text: the path keeps its own colons. -/
lemma splitn_toConfigText (operation : AllowedOperation) :
    splitn [':'] 3 operation.toConfigText =
      [operation.method.method.text, operation.path.kind.asStr, operation.path.value.value] := by
  unfold toConfigText
  simp only [splitn, splitOnce_singleton (colon_notMem_method _),
    splitOnce_singleton (colon_notMem_kind _)]

/-- Three parts that are there, with their colons, make up the text. -/
lemma eq_of_splitn {raw : Text} (h : ((splitn [':'] 3 raw).getD 2 []) ≠ []) :
    raw = (splitn [':'] 3 raw).getD 0 [] ++ ':' :: ((splitn [':'] 3 raw).getD 1 [] ++ ':' ::
      (splitn [':'] 3 raw).getD 2 []) := by
  simp only [splitn] at h ⊢
  cases hfirst : splitOnce [':'] raw with
  | none => simp [hfirst] at h
  | some parts =>
      obtain ⟨methodText, rest⟩ := parts
      cases hsecond : splitOnce [':'] rest with
      | none => simp [hfirst, hsecond] at h
      | some parts =>
          obtain ⟨kind, pathText⟩ := parts
          simp only [hsecond]
          rw [splitOnce_sound hfirst, splitOnce_sound hsecond]
          simp

/-- The text of an operation is its only spelling. -/
lemma parse_eq_ok_iff {raw : Text} {operation : AllowedOperation} :
    parse raw = .ok operation ↔
      byteLen raw ≤ maxAllowedOperationBytes ∧ raw = operation.toConfigText := by
  unfold parse
  constructor
  · intro h
    split_ifs at h with hlong
    dsimp only at h
    split_ifs at h with hempty
    simp only [not_or] at hempty
    obtain ⟨method, hmethod, h⟩ := exists_of_bind_eq_ok h
    obtain ⟨path, hpath, h⟩ := exists_of_bind_eq_ok h
    obtain rfl := Except.ok.inj h
    rw [AllowedMethod.parse_eq_ok_iff] at hmethod
    rw [parsePath_eq_ok_iff] at hpath
    refine ⟨not_lt.mp hlong, ?_⟩
    rw [eq_of_splitn hempty.2.2, hmethod, hpath.1, hpath.2]
    rfl
  · rintro ⟨hshort, rfl⟩
    have hmethod : operation.method.method.text ≠ [] := by
      have htoken := operation.method.method.token
      intro hnil
      rw [hnil] at htoken
      cases htoken
    have hkind : operation.path.kind.asStr ≠ [] := by
      cases operation.path.kind <;> exact List.cons_ne_nil _ _
    have hpath : operation.path.value.value ≠ [] := by
      intro hnil
      have hslash := operation.path.value.slash_prefix
      rw [hnil] at hslash
      simp at hslash
    rw [if_neg (not_lt.mpr hshort), splitn_toConfigText]
    simp only [List.getD_cons_zero, List.getD_cons_succ, hmethod, hkind, hpath, or_self, if_false]
    rw [AllowedMethod.parse_eq_ok_iff.mpr rfl, parsePath_eq_ok_iff.mpr ⟨rfl, rfl⟩]
    rfl

/-- An operation is read from its text and from no other; its text is read back whenever it is
within the joint limit. -/
theorem parse_toConfigText :
    (∀ raw operation, parse raw = .ok operation →
      operation.toConfigText = raw ∧ parse operation.toConfigText = .ok operation) ∧
    (∀ operation : AllowedOperation, byteLen operation.toConfigText ≤ 4160 →
      parse operation.toConfigText = .ok operation) ∧
    ∀ raw raw' operation, parse raw = .ok operation → parse raw' = .ok operation →
      raw = raw' := by
  refine ⟨?_, ?_, ?_⟩
  · intro raw operation h
    have htext := (parse_eq_ok_iff.mp h).2
    rw [← htext]
    exact ⟨rfl, h⟩
  · intro operation hshort
    exact parse_eq_ok_iff.mpr ⟨hshort, rfl⟩
  · intro raw raw' operation h h'
    rw [(parse_eq_ok_iff.mp h).2, (parse_eq_ok_iff.mp h').2]

/-! ## The canonical order -/

/-- The comparison, as the three keys one after another. -/
lemma cmpConfig_eq : cmpConfig =
    compareLex (compareLex
      (compareOn fun operation => bytes operation.method.method.text)
      (compareOn fun operation => operation.path.kind.sortRank))
      (compareOn fun operation => bytes operation.path.value.value) := rfl

instance : Std.TransCmp cmpConfig := by
  rw [cmpConfig_eq]
  infer_instance

/-- A kind is decided by its rank. -/
lemma sortRank_injective {kind kind' : AllowedPathKind} (h : kind.sortRank = kind'.sortRank) :
    kind = kind' := by
  cases kind <;> cases kind' <;> first | rfl | cases h

/-- Operations with the same keys are equal. -/
lemma eq_of_keys {a b : AllowedOperation}
    (hmethod : bytes a.method.method.text = bytes b.method.method.text)
    (hkind : a.path.kind.sortRank = b.path.kind.sortRank)
    (hpath : bytes a.path.value.value = bytes b.path.value.value) : a = b := by
  obtain ⟨⟨⟨text, htoken, hfits⟩, hshort, hsupported⟩, kind, ⟨value, haccepted⟩, hsegment⟩ := a
  obtain ⟨⟨⟨text', htoken', hfits'⟩, hshort', hsupported'⟩, kind', ⟨value', haccepted'⟩,
    hsegment'⟩ := b
  obtain rfl : text = text' := bytes_injective hmethod
  obtain rfl : kind = kind' := sortRank_injective hkind
  obtain rfl : value = value' := bytes_injective hpath
  rfl

instance : Std.LawfulEqCmp cmpConfig where
  compare_self := Std.ReflCmp.compare_self
  eq_of_compare := by
    intro a b h
    unfold cmpConfig at h
    rw [Ordering.then_eq_eq, Ordering.then_eq_eq, Std.LawfulEqOrd.compare_eq_iff_eq,
      Std.LawfulEqOrd.compare_eq_iff_eq, Std.LawfulEqOrd.compare_eq_iff_eq] at h
    exact eq_of_keys h.1.1 h.1.2 h.2

end AllowedOperation

/-! ## The set of configured operations -/

/-- The three outcomes of a list that is not empty and not too long. -/
lemma AllowedOperations.parse_of_parsed {operations : List Text} {parsed : List AllowedOperation}
    (hentry : ∃ raw ∈ operations, raw ≠ []) (hcount : operations.length ≤ maxAllowedOperations)
    (hparsed : operations.mapM AllowedOperation.parse = .ok parsed) :
    AllowedOperations.parse operations =
      match firstRepeat (sortBy AllowedOperation.cmpConfig parsed) with
      | some duplicate => .error (.duplicateAllowedOperation duplicate.toConfigText)
      | none => .ok ⟨sortBy AllowedOperation.cmpConfig parsed⟩ := by
  have hall : ¬ operations.all List.isEmpty = true := by
    obtain ⟨raw, hraw, hne⟩ := hentry
    intro hall
    exact hne (List.isEmpty_iff.mp (List.all_eq_true.mp hall raw hraw))
  unfold AllowedOperations.parse
  rw [if_neg hall, if_neg (not_lt.mpr hcount), hparsed]
  rfl

/-- What an accepted list was. -/
lemma AllowedOperations.parse_eq_ok {operations : List Text} {accepted : AllowedOperations}
    (h : AllowedOperations.parse operations = .ok accepted) :
    (∃ raw ∈ operations, raw ≠ []) ∧ operations.length ≤ maxAllowedOperations ∧
      ∃ parsed, operations.mapM AllowedOperation.parse = .ok parsed ∧
        firstRepeat (sortBy AllowedOperation.cmpConfig parsed) = none ∧
        accepted.operations = sortBy AllowedOperation.cmpConfig parsed := by
  unfold AllowedOperations.parse at h
  split_ifs at h with hempty hcount
  obtain ⟨parsed, hparsed, h⟩ := exists_of_bind_eq_ok h
  dsimp only at h
  refine ⟨?_, not_lt.mp hcount, parsed, hparsed, ?_⟩
  · simp only [List.all_eq_true, not_forall, List.isEmpty_iff] at hempty
    obtain ⟨raw, hraw, hne⟩ := hempty
    exact ⟨raw, hraw, hne⟩
  · split at h
    · cases h
    · rename_i hnone
      exact ⟨hnone, by rw [← Except.ok.inj h]⟩

variable {operations : List Text} {parsed : List AllowedOperation}

/-- The entry at the position of a parsed operation. -/
lemma exists_entry {i : Nat} {operation : AllowedOperation}
    (h : List.Forall₂ (fun raw operation => AllowedOperation.parse raw = .ok operation)
      operations parsed) (hi : parsed[i]? = some operation) :
    ∃ raw, operations[i]? = some raw ∧ AllowedOperation.parse raw = .ok operation := by
  obtain ⟨hlt, rfl⟩ := List.getElem?_eq_some_iff.mp hi
  have hlt' : i < operations.length := h.length_eq ▸ hlt
  exact ⟨operations[i], List.getElem?_eq_getElem hlt', h.get hlt' hlt⟩

/-- The parsed operation at the position of an entry. -/
lemma getElem?_parsed {i : Nat} {raw : Text} {operation : AllowedOperation}
    (h : List.Forall₂ (fun raw operation => AllowedOperation.parse raw = .ok operation)
      operations parsed) (hi : operations[i]? = some raw)
    (hraw : AllowedOperation.parse raw = .ok operation) : parsed[i]? = some operation := by
  obtain ⟨hlt, rfl⟩ := List.getElem?_eq_some_iff.mp hi
  have hlt' : i < parsed.length := h.length_eq ▸ hlt
  have hget : AllowedOperation.parse operations[i] = .ok parsed[i] := h.get hlt hlt'
  rw [hraw] at hget
  rw [List.getElem?_eq_getElem hlt', ← Except.ok.inj hget]

/-- Entries at different positions are the same operation exactly when the parsed list has a
duplicate. -/
lemma not_nodup_iff_of_forall₂
    (h : List.Forall₂ (fun raw operation => AllowedOperation.parse raw = .ok operation)
      operations parsed) :
    ¬ parsed.Nodup ↔ ∃ (i j : Nat) (raw raw' : Text) (operation : AllowedOperation), i ≠ j ∧
      operations[i]? = some raw ∧ operations[j]? = some raw' ∧
      AllowedOperation.parse raw = .ok operation ∧
      AllowedOperation.parse raw' = .ok operation := by
  rw [List.nodup_iff_getElem?_ne_getElem?]
  constructor
  · intro hrepeat
    push Not at hrepeat
    obtain ⟨i, j, hij, hj, hsame⟩ := hrepeat
    have hlast : parsed[j]? = some parsed[j] := List.getElem?_eq_getElem hj
    obtain ⟨raw, hraw, hparse⟩ := exists_entry h (hsame.trans hlast)
    obtain ⟨raw', hraw', hparse'⟩ := exists_entry h hlast
    exact ⟨i, j, raw, raw', parsed[j], hij.ne, hraw, hraw', hparse, hparse'⟩
  · rintro ⟨i, j, raw, raw', operation, hij, hraw, hraw', hparse, hparse'⟩ hdistinct
    have hi := getElem?_parsed h hraw hparse
    have hj := getElem?_parsed h hraw' hparse'
    have hilt := (List.getElem?_eq_some_iff.mp hi).1
    have hjlt := (List.getElem?_eq_some_iff.mp hj).1
    rcases Nat.lt_or_gt_of_ne hij with hlt | hgt
    · exact hdistinct i j hlt hjlt (hi.trans hj.symm)
    · exact hdistinct j i hgt hilt (hj.trans hi.symm)

namespace AllowedOperations

/-- What is stored is strictly increasing and holds exactly the parsed entries. -/
lemma parse_sound {accepted : AllowedOperations}
    (h : AllowedOperations.parse operations = .ok accepted) :
    Increasing AllowedOperation.cmpConfig accepted.operations ∧
      (∀ raw ∈ operations, ∃ operation ∈ accepted.operations,
        AllowedOperation.parse raw = .ok operation) ∧
      ∀ operation ∈ accepted.operations, ∃ raw ∈ operations,
        AllowedOperation.parse raw = .ok operation := by
  obtain ⟨-, -, parsed, hparsed, hrepeat, haccepted⟩ := parse_eq_ok h
  have hentries := mapM_eq_ok_iff.mp hparsed
  have hmem (operation : AllowedOperation) :
      operation ∈ accepted.operations ↔ operation ∈ parsed := by
    rw [haccepted]
    exact (sortBy_perm _ parsed).mem_iff
  refine ⟨?_, ?_, ?_⟩
  · rw [haccepted]
    exact (firstRepeat_eq_none_iff (sorted_sortBy parsed)).mp hrepeat
  · intro raw hraw
    obtain ⟨i, hi⟩ := List.mem_iff_getElem?.mp hraw
    have hlt : i < parsed.length := hentries.length_eq ▸ (List.getElem?_eq_some_iff.mp hi).1
    obtain ⟨raw', hraw', hparse⟩ := exists_entry hentries (List.getElem?_eq_getElem hlt)
    obtain rfl : raw = raw' := Option.some.inj (hi.symm.trans hraw')
    exact ⟨parsed[i], (hmem _).mpr (List.getElem_mem hlt), hparse⟩
  · intro operation hoperation
    obtain ⟨i, hi⟩ := List.mem_iff_getElem?.mp ((hmem operation).mp hoperation)
    obtain ⟨raw, hraw, hparse⟩ := exists_entry hentries hi
    exact ⟨raw, List.mem_of_getElem? hraw, hparse⟩

/-- The order of the entries does not matter. -/
lemma parse_of_perm {operations' : List Text} {accepted : AllowedOperations}
    (h : AllowedOperations.parse operations = .ok accepted) (hperm : operations.Perm operations') :
    AllowedOperations.parse operations' = .ok accepted := by
  obtain ⟨⟨raw, hraw, hne⟩, hcount, parsed, hparsed, hrepeat, haccepted⟩ := parse_eq_ok h
  obtain ⟨parsed', hparsed', hperm'⟩ :=
    List.perm_comp_forall₂ hperm.symm (mapM_eq_ok_iff.mp hparsed)
  have hsort : sortBy AllowedOperation.cmpConfig parsed' =
      sortBy AllowedOperation.cmpConfig parsed := sortBy_eq_of_perm hperm'
  rw [parse_of_parsed ⟨raw, hperm.mem_iff.mp hraw, hne⟩ (hperm.length_eq ▸ hcount)
    (mapM_eq_ok_iff.mpr hparsed'), hsort, hrepeat, ← haccepted]

/-- Every entry parses, so they parse together. -/
lemma exists_mapM
    (h : ∀ raw ∈ operations, ∃ operation, AllowedOperation.parse raw = .ok operation) :
    ∃ parsed, operations.mapM AllowedOperation.parse = .ok parsed := by
  induction operations with
  | nil => exact ⟨[], rfl⟩
  | cons raw operations ih =>
      obtain ⟨hraw, hrest⟩ := List.forall_mem_cons.mp h
      obtain ⟨operation, hoperation⟩ := hraw
      obtain ⟨parsed, hparsed⟩ := ih hrest
      refine ⟨operation :: parsed, mapM_eq_ok_iff.mpr (.cons hoperation ?_)⟩
      exact mapM_eq_ok_iff.mp hparsed

/-- A list of valid entries is refused as a duplicate exactly when two of its entries are the same
operation. -/
lemma parse_eq_duplicate_iff (hentry : ∃ raw ∈ operations, raw ≠ [])
    (hcount : operations.length ≤ maxAllowedOperations)
    (hvalid : ∀ raw ∈ operations, ∃ operation, AllowedOperation.parse raw = .ok operation) :
    (∃ text, AllowedOperations.parse operations = .error (.duplicateAllowedOperation text)) ↔
      ∃ (i j : Nat) (raw raw' : Text) (operation : AllowedOperation), i ≠ j ∧
        operations[i]? = some raw ∧ operations[j]? = some raw' ∧
        AllowedOperation.parse raw = .ok operation ∧
        AllowedOperation.parse raw' = .ok operation := by
  obtain ⟨parsed, hparsed⟩ := exists_mapM hvalid
  rw [← not_nodup_iff_of_forall₂ (mapM_eq_ok_iff.mp hparsed),
    ← (sortBy_perm AllowedOperation.cmpConfig parsed).nodup_iff,
    nodup_iff_of_sorted (sorted_sortBy parsed),
    ← firstRepeat_eq_none_iff (sorted_sortBy parsed), parse_of_parsed hentry hcount hparsed]
  cases firstRepeat (sortBy AllowedOperation.cmpConfig parsed) with
  | none => simp
  | some duplicate => simp

/-- The configured operations: what is accepted, when a duplicate is reported, and the order behind
both. -/
theorem parse_canonical :
    (∀ operations accepted, AllowedOperations.parse operations = .ok accepted →
      Increasing AllowedOperation.cmpConfig accepted.operations ∧ accepted.operations.Nodup ∧
      (∀ raw ∈ operations, ∃ operation ∈ accepted.operations,
        AllowedOperation.parse raw = .ok operation) ∧
      (∀ operation ∈ accepted.operations, ∃ raw ∈ operations,
        AllowedOperation.parse raw = .ok operation) ∧
      ∀ operations' : List Text, operations.Perm operations' →
        AllowedOperations.parse operations' = .ok accepted) ∧
    (∀ operations : List Text, (∃ raw ∈ operations, raw ≠ []) → operations.length ≤ 256 →
      (∀ raw ∈ operations, ∃ operation, AllowedOperation.parse raw = .ok operation) →
      ((∃ text, AllowedOperations.parse operations = .error (.duplicateAllowedOperation text)) ↔
        ∃ (i j : Nat) (raw raw' : Text) (operation : AllowedOperation), i ≠ j ∧
          operations[i]? = some raw ∧ operations[j]? = some raw' ∧
          AllowedOperation.parse raw = .ok operation ∧
          AllowedOperation.parse raw' = .ok operation)) ∧
    (∀ a b, AllowedOperation.cmpConfig a b = .eq ↔ a = b) ∧
    (∀ a b, AllowedOperation.cmpConfig b a = (AllowedOperation.cmpConfig a b).swap) ∧
    ∀ a b c, (AllowedOperation.cmpConfig a b).isLE = true →
      (AllowedOperation.cmpConfig b c).isLE = true →
      (AllowedOperation.cmpConfig a c).isLE = true := by
  refine ⟨?_, ?_, ?_, ?_, ?_⟩
  · intro operations accepted h
    obtain ⟨hincreasing, hentries, hoperations⟩ := parse_sound h
    exact ⟨hincreasing, nodup_of_increasing hincreasing, hentries, hoperations,
      fun operations' hperm => parse_of_perm h hperm⟩
  · intro operations hentry hcount hvalid
    exact parse_eq_duplicate_iff hentry hcount hvalid
  · intro a b
    exact Std.LawfulEqCmp.compare_eq_iff_eq
  · intro a b
    exact Std.OrientedCmp.eq_swap
  · intro a b c hab hbc
    exact Std.TransCmp.isLE_trans hab hbc

end AllowedOperations

end Custode
