import Custode.Audit.Tail
import Custode.Audit.Upstream
import Custode.Audit.Wire

/-!
# The inspection of an existing log

What `AuditWriter::open` does with the content of the log: the tail has to end in a newline, and
then `validate_existing_audit_events` reads every line. Any call to the file can fail, and the JSON
of a line is read by `serde_json`.

* `inspectAuditLog_ok_iff` — a log with lines is accepted when no call fails and every line is
  accepted with a new request id.
* The validation of a line can panic: the joined URL of an upstream-attempted event has the query
  with its apostrophes encoded, and `from_url` parses it under the same limit
  (`ExistingAuditEventFields.JoinsTooLong`). `startup_inspection_total_iff` says when that happens,
  for every content and every failing call.
-/

namespace Custode

open Found Found.Text Found.Serde

/-! ## Lines -/

/-- The lines of a content, each with its newline, as `read_until(b'\n')` yields them. -/
def readLines : List UInt8 → List (List UInt8)
  | [] => []
  | byte :: rest =>
      if byte = newline then [newline] :: readLines rest
      else
        match readLines rest with
        | [] => [[byte]]
        | line :: lines => (byte :: line) :: lines

/-- Why a line was not read. -/
inductive LineError where
  | malformed
  | read (error : ReadError ExistingFieldError)
  | trailingCharacters

/-- The JSON parser of `serde_json`: it reads a value from the front and answers what is left. -/
abbrev JsonParser := List UInt8 → Option (Json × List UInt8)

/-- JSON whitespace. -/
def isJsonSpace (byte : UInt8) : Bool := [0x20, 0x0A, 0x0D, 0x09].contains byte

/-- A failed call of `serde_json`, or what it read; `none` where the validation panics.
Source: `serde_json::from_slice::<ExistingAuditEvent>` -/
def ExistingAuditEventFields.fromSlice (X : Crates) (time : Humantime) (parse : JsonParser)
    (line : List UInt8) : Option (Except LineError ExistingAuditEventFields) :=
  match parse line with
  | none => some (.error .malformed)
  | some (json, rest) =>
      match deserializeValid X time json with
      | none => none
      | some (.error error) => some (.error (.read error))
      | some (.ok fields) =>
          if rest.all isJsonSpace then some (.ok fields) else some (.error .trailingCharacters)

/-- There are at most as many lines as bytes. -/
lemma length_readLines_le (content : List UInt8) : (readLines content).length ≤ content.length := by
  induction content with
  | nil => exact Nat.le_refl 0
  | cons byte rest ih =>
      unfold readLines
      split
      · exact Nat.succ_le_succ ih
      · split
        · exact Nat.le_add_left 1 _
        · rename_i line lines hlines
          rw [hlines] at ih
          exact Nat.le_succ_of_le ih

/-- A line stops at its first newline. -/
lemma readLines_append {line : List UInt8} (hline : newline ∉ line) (rest : List UInt8) :
    readLines (line ++ newline :: rest) = (line ++ [newline]) :: readLines rest := by
  induction line with
  | nil => rfl
  | cons byte line ih =>
      rw [List.mem_cons, not_or] at hline
      rw [List.cons_append, readLines, if_neg (Ne.symm hline.1), ih hline.2]
      rfl

/-! ## The inspection -/

/-- Failure of an inspection, for the audit path.
Source: `audit.rs` `AuditError` -/
inductive InspectError (P : Type) where
  | corruptLog (path : P) (line : NonZeroU64) (source : LineError)
  | inspect (path : P) (source : IoErrorKind)
  | tornLog (path : P)

section Inspection

variable {P : Type} (X : Crates) (time : Humantime) (parse : JsonParser) (faults : Faults)
  (path : P)

/-- Maps the failure of a call to the file. -/
def orInspect {α : Type} (answer : Except IoErrorKind α) : Except (InspectError P) α :=
  answer.mapError (.inspect path)

/-- The loop over the lines, from `reader.calls` on; `none` where it panics.
Source: `audit.rs` `validate_existing_audit_events` -/
def validateLines : List (List UInt8) → Nat → List Text → LogReader →
    Option (Except (InspectError P) LogReader)
  | [], _, _, reader =>
      -- the read of no bytes, and the last seek
      match faults reader.calls with
      | some source => some (.error (.inspect path source))
      | none =>
          let reader := { reader with calls := reader.calls + 1 }
          some (orInspect path ((reader.seek faults (.fromEnd 0)).map Prod.snd))
  | bytes :: lines, lineNumber, requestIds, reader =>
      match faults reader.calls with
      | some source => some (.error (.inspect path source))
      | none =>
          let line := bytes.dropLast
          match nonZeroU64 lineNumber with
          | none => none
          | some numberedLine =>
              match ExistingAuditEventFields.fromSlice X time parse line with
              | none => none
              | some (.error source) => some (.error (.corruptLog path numberedLine source))
              | some (.ok event) =>
                  if requestIds.contains event.requestId then
                    some (.error (.corruptLog path numberedLine
                      (.read (.custom (.custom "duplicate audit request id")))))
                  else if lineNumber < u64Max then
                    validateLines lines (lineNumber + 1) (event.requestId :: requestIds)
                      { reader with
                        position := reader.position + bytes.length
                        calls := reader.calls + 1 }
                  else none

/-- Validates newline-terminated events in an existing audit log.
Source: `audit.rs` `validate_existing_audit_events` -/
def validateExistingAuditEvents (reader : LogReader) : Option (Except (InspectError P) LogReader) :=
  match reader.seek faults (.start 0) with
  | .error source => some (.error (.inspect path source))
  | .ok (_, reader) =>
      validateLines X time parse faults path (readLines reader.content) 1 [] reader

/-- The inspection of the content of an existing log.
Source: `audit.rs` `AuditWriter::open`, `inspect_audit_log_tail` -/
def inspectAuditLog (content : List UInt8) : Option (Except (InspectError P) LogReader) :=
  match classifyAuditLogTail faults (.opened content) with
  | .error source => some (.error (.inspect path source))
  | .ok (.empty, reader) => some (.ok reader)
  | .ok (.complete, reader) => validateExistingAuditEvents X time parse faults path reader
  | .ok (.torn, _) => some (.error (.tornLog path))

end Inspection

/-- The bytes of a file. Their number is a file offset. -/
structure FileBytes where
  data : List UInt8
  fits : data.length ≤ isizeMax

/-! ## When the validation of a line panics -/

section Panics

variable {X : Crates} {time : Humantime} {parse : JsonParser}

variable (X) in
/-- An event passes the checks in front of the upstream target, and its accepted query has no room
for its apostrophes. -/
structure ExistingAuditEventFields.JoinsTooLong (fields : ExistingAuditEventFields) : Prop where
  checked : fields.validateBeforeUpstream X = .ok ()
  attempted : fields.decision ≠ .denied
  path : pathError fields.path = none
  query : ∃ query, fields.query = some query ∧ queryError query = none ∧
    maxOriginFormQueryBytes < byteLen query + 2 * query.count '\''

/-- The upstream target of an event is not read back exactly when its query has no room. -/
lemma ExistingAuditEventFields.expectedUpstreamTarget_eq_none_iff
    (fields : ExistingAuditEventFields) :
    fields.expectedUpstreamTarget X = none ↔ pathError fields.path = none ∧
      ∃ query, fields.query = some query ∧ queryError query = none ∧ ¬ HasRoom query := by
  have hjoined : ∀ accepted : AcceptedTarget,
      AcceptedTarget.new fields.path fields.query = .ok accepted →
      (fields.expectedUpstreamTarget X = none ↔ ¬ ∀ q ∈ accepted.query, HasRoom q.value) := by
    intro accepted hnew
    rw [expectedUpstreamTarget, hnew]
    simp only [fromUrl_joinPathQuery, Option.map_eq_none_iff]
    rw [← forwardedTarget_eq_some_iff accepted.path accepted.query,
      ← Option.ne_none_iff_exists', not_not]
  constructor
  · intro h
    rcases hnew : AcceptedTarget.new fields.path fields.query with error | accepted
    · rw [expectedUpstreamTarget, hnew] at h
      cases h
    · obtain ⟨hpath, hquery⟩ := AcceptedTarget.new_eq_ok hnew
      have hroom := (hjoined accepted hnew).mp h
      push Not at hroom
      obtain ⟨query, hmem, hroom⟩ := hroom
      rw [AcceptedTarget.queryText, Option.mem_def.mp hmem] at hquery
      exact ⟨hpath ▸ accepted.path.accepted, query.value, hquery.symm, query.accepted, hroom⟩
  · rintro ⟨hpath, query, hquery, haccepted, hroom⟩
    have hnew := AcceptedTarget.new_text ⟨⟨fields.path, hpath⟩, some ⟨query, haccepted⟩⟩
    simp only [AcceptedTarget.queryText, Option.map_some, ← hquery] at hnew
    rw [hjoined _ hnew]
    exact fun hall => hroom (hall _ rfl)

/-- Validation panics exactly where the joined target is too long. -/
lemma ExistingAuditEventFields.validate_eq_none_iff (fields : ExistingAuditEventFields) :
    fields.validate X = none ↔ fields.JoinsTooLong X := by
  have hfull : ∀ query, ¬ HasRoom query ↔
      maxOriginFormQueryBytes < byteLen query + 2 * query.count '\'' := fun query => not_le
  constructor
  · intro h
    unfold validate at h
    split at h
    · cases h
    · rename_i hchecked
      have hattempted : fields.decision ≠ .denied := by
        intro hdenied
        rw [validateUpstreamTarget, hdenied] at h
        simp only at h
        split_ifs at h
      have hnone : fields.expectedUpstreamTarget X = none := by
        unfold validateUpstreamTarget at h
        split at h
        · rename_i hdenied
          exact absurd hdenied hattempted
        · exact Option.map_eq_none_iff.mp h
        · exact Option.map_eq_none_iff.mp h
        · exact Option.map_eq_none_iff.mp h
      obtain ⟨hpath, query, hquery, haccepted, hroom⟩ :=
        fields.expectedUpstreamTarget_eq_none_iff.mp hnone
      exact ⟨hchecked, hattempted, hpath, query, hquery, haccepted, (hfull query).mp hroom⟩
  · rintro ⟨hchecked, hattempted, hpath, query, hquery, haccepted, hlong⟩
    have hnone : fields.expectedUpstreamTarget X = none :=
      fields.expectedUpstreamTarget_eq_none_iff.mpr
        ⟨hpath, query, hquery, haccepted, (hfull query).mpr hlong⟩
    rw [validate, hchecked]
    simp only [validateUpstreamTarget, hnone, Option.map_none]
    split
    · rename_i hdenied
      exact absurd hdenied hattempted
    · rfl
    · rfl
    · rfl

/-- An accepted line is read as an event that passes the validation. -/
lemma fromSlice_eq_ok {line : List UInt8} {fields : ExistingAuditEventFields}
    (h : ExistingAuditEventFields.fromSlice X time parse line = some (.ok fields)) :
    ∃ json rest, parse line = some (json, rest) ∧
      ExistingAuditEventFields.deserialize X time json = .ok fields ∧
      fields.validate X = some (.ok ()) := by
  unfold ExistingAuditEventFields.fromSlice ExistingAuditEventFields.deserializeValid at h
  rcases hparse : parse line with _ | ⟨json, rest⟩
  · rw [hparse] at h
    cases h
  · simp only [hparse] at h
    rcases hfields : ExistingAuditEventFields.deserialize X time json with error | read
    · simp only [hfields] at h
      cases h
    · simp only [hfields] at h
      rcases hvalidate : read.validate X with _ | (message | _)
      · simp only [hvalidate] at h
        cases h
      · simp only [hvalidate] at h
        cases h
      · simp only [hvalidate] at h
        split_ifs at h
        · obtain rfl := Except.ok.inj (Option.some.inj h)
          exact ⟨json, rest, rfl, hfields, hvalidate⟩
        · cases h

variable (X time parse)

/-- A line is read as the fields of an event whose query has no room. -/
def LinePanics (line : List UInt8) : Prop :=
  ∃ json rest fields, parse line = some (json, rest) ∧
    ExistingAuditEventFields.deserialize X time json = .ok fields ∧ fields.JoinsTooLong X

/-- The lines are read and validated as these events. -/
def AcceptsLines (lines : List (List UInt8)) (events : List ExistingAuditEventFields) : Prop :=
  List.Forall₂ (fun line event =>
    ExistingAuditEventFields.fromSlice X time parse line.dropLast = some (.ok event)) lines events

variable {X time parse}

/-- A line panics exactly where its event is read and its validation panics. -/
lemma fromSlice_eq_none_iff (line : List UInt8) :
    ExistingAuditEventFields.fromSlice X time parse line = none ↔ LinePanics X time parse line := by
  constructor
  · intro h
    unfold ExistingAuditEventFields.fromSlice ExistingAuditEventFields.deserializeValid at h
    rcases hparse : parse line with _ | ⟨json, rest⟩
    · rw [hparse] at h
      cases h
    · simp only [hparse] at h
      rcases hfields : ExistingAuditEventFields.deserialize X time json with error | fields
      · simp only [hfields] at h
        cases h
      · simp only [hfields] at h
        refine ⟨json, rest, fields, hparse, hfields, ?_⟩
        rw [← fields.validate_eq_none_iff]
        rcases hvalidate : fields.validate X with _ | (message | _)
        · rfl
        · simp only [hvalidate] at h
          cases h
        · simp only [hvalidate] at h
          split_ifs at h
  · rintro ⟨json, rest, fields, hparse, hfields, hlong⟩
    rw [← fields.validate_eq_none_iff] at hlong
    simp only [ExistingAuditEventFields.fromSlice, ExistingAuditEventFields.deserializeValid,
      hparse, hfields, hlong]

variable {P : Type} {faults : Faults} {path : P}

/-- The loop comes to a line: the reads up to it succeed, and every line in front of it is accepted
and brings a new request id. -/
structure Reaches (X : Crates) (time : Humantime) (parse : JsonParser) (faults : Faults)
    (requestIds : List Text) (calls : Nat) (before : List (List UInt8)) : Prop where
  reads : ∀ n ≤ before.length, faults (calls + n) = none
  accepted : ∃ events, AcceptsLines X time parse before events ∧
    (events.map (·.requestId)).Nodup ∧ ∀ event ∈ events, event.requestId ∉ requestIds

namespace Reaches

variable {requestIds : List Text} {calls : Nat} {line : List UInt8} {before : List (List UInt8)}

/-- Reading comes to the end of no lines at all. -/
lemma nil (hread : faults calls = none) : Reaches X time parse faults requestIds calls [] := by
  refine ⟨?_, [], .nil, List.nodup_nil, List.forall_mem_nil _⟩
  intro n hn
  obtain rfl := Nat.le_zero.mp hn
  exact hread

/-- The first line is read and accepted. -/
lemma head (h : Reaches X time parse faults requestIds calls (line :: before)) :
    faults calls = none ∧
      ∃ event,
        ExistingAuditEventFields.fromSlice X time parse line.dropLast = some (.ok event) := by
  obtain ⟨events, hevents, -⟩ := h.accepted
  cases hevents with
  | cons hfirst hrest => exact ⟨h.reads 0 (Nat.zero_le _), _, hfirst⟩

/-- Reading gets past an accepted line when its identity is new. -/
lemma cons_iff {event : ExistingAuditEventFields} (hread : faults calls = none)
    (hline : ExistingAuditEventFields.fromSlice X time parse line.dropLast = some (.ok event)) :
    Reaches X time parse faults requestIds calls (line :: before) ↔
      event.requestId ∉ requestIds ∧
        Reaches X time parse faults (event.requestId :: requestIds) (calls + 1) before := by
  constructor
  · rintro ⟨hreads, events, hevents, hnodup, hnew⟩
    cases hevents with
    | @cons _ first _ rest hfirst hrest =>
        rw [hline] at hfirst
        obtain rfl := Except.ok.inj (Option.some.inj hfirst)
        rw [List.map_cons, List.nodup_cons] at hnodup
        refine ⟨hnew _ List.mem_cons_self, ?_, rest, hrest, hnodup.2, ?_⟩
        · intro n hn
          rw [Nat.add_assoc, Nat.add_comm 1]
          exact hreads (n + 1) (Nat.succ_le_succ hn)
        · intro later hlater
          rw [List.mem_cons, not_or]
          refine ⟨?_, hnew later (List.mem_cons_of_mem _ hlater)⟩
          intro hsame
          exact hnodup.1 (hsame ▸ List.mem_map_of_mem hlater)
  · rintro ⟨hfresh, hreads, events, hevents, hnodup, hnew⟩
    refine ⟨?_, event :: events, .cons hline hevents, ?_, ?_⟩
    · intro n hn
      cases n with
      | zero => exact hread
      | succ n =>
          rw [← Nat.add_assoc, Nat.add_right_comm]
          exact hreads n (Nat.le_of_succ_le_succ hn)
    · rw [List.map_cons, List.nodup_cons]
      refine ⟨?_, hnodup⟩
      intro hmem
      obtain ⟨later, hlater, hsame⟩ := List.mem_map.mp hmem
      exact hnew later hlater (hsame ▸ List.mem_cons_self)
    · intro later hlater
      rcases List.mem_cons.mp hlater with rfl | hlater
      · exact hfresh
      · exact fun hmem => hnew later hlater (List.mem_cons_of_mem _ hmem)

end Reaches

/-- The loop comes to a line that panics. -/
def MeetsPanic (X : Crates) (time : Humantime) (parse : JsonParser) (faults : Faults)
    (requestIds : List Text) (calls : Nat) (lines : List (List UInt8)) : Prop :=
  ∃ before line after, lines = before ++ line :: after ∧
    Reaches X time parse faults requestIds calls before ∧ LinePanics X time parse line.dropLast

namespace MeetsPanic

variable {requestIds : List Text} {calls : Nat} {line : List UInt8} {lines : List (List UInt8)}

/-- No line, no panic. -/
lemma not_nil : ¬ MeetsPanic X time parse faults requestIds calls [] := by
  rintro ⟨before, line, after, hlines, -⟩
  simp at hlines

/-- An accepted line is not the one that panics. -/
lemma cons_iff {event : ExistingAuditEventFields} (hread : faults calls = none)
    (hline : ExistingAuditEventFields.fromSlice X time parse line.dropLast = some (.ok event)) :
    MeetsPanic X time parse faults requestIds calls (line :: lines) ↔
      event.requestId ∉ requestIds ∧
        MeetsPanic X time parse faults (event.requestId :: requestIds) (calls + 1) lines := by
  have hsound : ¬ LinePanics X time parse line.dropLast := by
    rw [← fromSlice_eq_none_iff, hline]
    exact Option.some_ne_none _
  constructor
  · rintro ⟨before, last, after, hlines, hreaches, hpanics⟩
    cases before with
    | nil =>
        obtain ⟨rfl, rfl⟩ := List.cons.inj hlines
        exact absurd hpanics hsound
    | cons first before =>
        obtain ⟨rfl, rfl⟩ := List.cons.inj hlines
        obtain ⟨hfresh, hreaches⟩ := (Reaches.cons_iff hread hline).mp hreaches
        exact ⟨hfresh, before, last, after, rfl, hreaches, hpanics⟩
  · rintro ⟨hfresh, before, last, after, rfl, hreaches, hpanics⟩
    exact ⟨line :: before, last, after, rfl,
      (Reaches.cons_iff hread hline).mpr ⟨hfresh, hreaches⟩, hpanics⟩

/-- A line that is not accepted is the last one that the loop comes to. -/
lemma cons_iff_of_stopped (hstopped : ¬ (faults calls = none ∧
      ∃ event, ExistingAuditEventFields.fromSlice X time parse line.dropLast = some (.ok event))) :
    MeetsPanic X time parse faults requestIds calls (line :: lines) ↔
      faults calls = none ∧ LinePanics X time parse line.dropLast := by
  constructor
  · rintro ⟨before, last, after, hlines, hreaches, hpanics⟩
    cases before with
    | nil =>
        obtain ⟨rfl, rfl⟩ := List.cons.inj hlines
        exact ⟨hreaches.reads 0 (Nat.le_refl 0), hpanics⟩
    | cons first before =>
        obtain ⟨rfl, rfl⟩ := List.cons.inj hlines
        exact absurd hreaches.head hstopped
  · rintro ⟨hread, hpanics⟩
    exact ⟨[], line, lines, rfl, .nil hread, hpanics⟩

end MeetsPanic

section Round

variable {bytes : List UInt8} {lines : List (List UInt8)} {lineNumber : Nat}
  {requestIds : List Text} {reader reader' : LogReader} {event : ExistingAuditEventFields}

/-- A line with a new request id is left behind. -/
lemma validateLines_fresh (hpositive : 0 < lineNumber) (hnext : lineNumber < u64Max)
    (hread : faults reader.calls = none)
    (hline : ExistingAuditEventFields.fromSlice X time parse bytes.dropLast = some (.ok event))
    (hfresh : event.requestId ∉ requestIds) :
    validateLines X time parse faults path (bytes :: lines) lineNumber requestIds reader =
      validateLines X time parse faults path lines (lineNumber + 1)
        (event.requestId :: requestIds)
        { reader with
          position := reader.position + bytes.length
          calls := reader.calls + 1 } := by
  simp only [validateLines, hread, nonZeroU64_of_pos hpositive (Nat.le_of_lt hnext), hline,
    if_neg (mt List.contains_iff_mem.mp hfresh), if_pos hnext]

/-- A line with a request id that an earlier line has is reported. -/
lemma validateLines_repeated (hpositive : 0 < lineNumber) (hbounded : lineNumber ≤ u64Max)
    (hread : faults reader.calls = none)
    (hline : ExistingAuditEventFields.fromSlice X time parse bytes.dropLast = some (.ok event))
    (hseen : event.requestId ∈ requestIds) :
    validateLines X time parse faults path (bytes :: lines) lineNumber requestIds reader =
      some (.error (.corruptLog path ⟨lineNumber, hpositive, hbounded⟩
        (.read (.custom (.custom "duplicate audit request id"))))) := by
  unfold validateLines
  simp only [hread, nonZeroU64_of_pos hpositive hbounded, hline,
    if_pos (List.contains_iff_mem.mpr hseen)]

/-- A line that is not valid is reported. -/
lemma validateLines_invalid {source : LineError} (hpositive : 0 < lineNumber)
    (hbounded : lineNumber ≤ u64Max) (hread : faults reader.calls = none)
    (hline : ExistingAuditEventFields.fromSlice X time parse bytes.dropLast =
      some (.error source)) :
    validateLines X time parse faults path (bytes :: lines) lineNumber requestIds reader =
      some (.error (.corruptLog path ⟨lineNumber, hpositive, hbounded⟩ source)) := by
  unfold validateLines
  simp only [hread, nonZeroU64_of_pos hpositive hbounded, hline]

/-- A line that is not accepted is an error, or it panics. -/
lemma validateLines_stopped (hpositive : 0 < lineNumber) (hbounded : lineNumber ≤ u64Max)
    (hstopped : ¬ (faults reader.calls = none ∧
      ∃ event, ExistingAuditEventFields.fromSlice X time parse bytes.dropLast = some (.ok event))) :
    (faults reader.calls = none ∧ LinePanics X time parse bytes.dropLast ∧
        validateLines X time parse faults path (bytes :: lines) lineNumber requestIds reader =
          none) ∨
      ¬ (faults reader.calls = none ∧ LinePanics X time parse bytes.dropLast) ∧
        ∃ error, validateLines X time parse faults path (bytes :: lines) lineNumber requestIds
          reader = some (.error error) := by
  rw [← fromSlice_eq_none_iff]
  rcases hread : faults reader.calls with _ | source
  · rcases hline : ExistingAuditEventFields.fromSlice X time parse bytes.dropLast with
      _ | (error | event)
    · refine .inl ⟨rfl, rfl, ?_⟩
      simp only [validateLines, hread, nonZeroU64_of_pos hpositive hbounded, hline]
    · refine .inr ⟨?_, _, validateLines_invalid hpositive hbounded hread hline⟩
      rintro ⟨-, ⟨⟩⟩
    · exact absurd ⟨hread, event, hline⟩ hstopped
  · refine .inr ⟨?_, ?_⟩
    · rintro ⟨⟨⟩, -⟩
    · simp only [validateLines, hread]
      exact ⟨_, rfl⟩

end Round

/-- The loop accepts the lines when it comes to their end and the last seek succeeds. -/
lemma validateLines_eq_ok_iff (lines : List (List UInt8)) {lineNumber : Nat}
    {requestIds : List Text} {reader reader' : LogReader} (hpositive : 0 < lineNumber)
    (hcount : lineNumber + lines.length ≤ u64Max) :
    validateLines X time parse faults path lines lineNumber requestIds reader = some (.ok reader') ↔
      Reaches X time parse faults requestIds reader.calls lines ∧
        faults (reader.calls + lines.length + 1) = none ∧
        reader' = ⟨reader.content, reader.content.length, reader.calls + lines.length + 2⟩ := by
  induction lines generalizing lineNumber requestIds reader with
  | nil =>
      rcases hread : faults reader.calls with _ | source
      · rcases hseek : faults (reader.calls + 1) with _ | source
        · simp only [validateLines, hread, orInspect, LogReader.seek, LogReader.attempt, hseek,
            Nat.zero_le, if_true, Except.map, Except.mapError, Option.some_inj, Except.ok.injEq]
          constructor
          · rintro rfl
            exact ⟨.nil hread, trivial, rfl⟩
          · rintro ⟨-, -, rfl⟩
            rfl
        · refine iff_of_false ?_ ?_
          · simp only [validateLines, hread, orInspect, LogReader.seek, LogReader.attempt, hseek,
              Except.map, Except.mapError]
            rintro ⟨⟩
          · rintro ⟨-, hlast, -⟩
            cases hlast
      · refine iff_of_false ?_ ?_
        · simp only [validateLines, hread]
          rintro ⟨⟩
        · rintro ⟨hreaches, -⟩
          rw [← Nat.add_zero reader.calls, hreaches.reads 0 (Nat.le_refl 0)] at hread
          cases hread
  | cons bytes lines ih =>
      rw [List.length_cons] at hcount
      by_cases hhead : faults reader.calls = none ∧
          ∃ event, ExistingAuditEventFields.fromSlice X time parse bytes.dropLast = some (.ok event)
      · obtain ⟨hread, event, hline⟩ := hhead
        rw [Reaches.cons_iff hread hline]
        by_cases hseen : event.requestId ∈ requestIds
        · rw [validateLines_repeated hpositive (by omega) hread hline hseen]
          refine iff_of_false ?_ (fun h => h.1.1 hseen)
          rintro ⟨⟩
        · rw [validateLines_fresh hpositive (by omega) hread hline hseen,
            ih (Nat.succ_pos _) (by omega), List.length_cons, ← Nat.add_assoc,
            Nat.add_right_comm reader.calls 1]
          exact ⟨fun h => ⟨⟨hseen, h.1⟩, h.2⟩, fun h => ⟨h.1.2, h.2⟩⟩
      · refine iff_of_false ?_ (fun h => hhead h.1.head)
        rcases validateLines_stopped hpositive (by omega) hhead with
          ⟨-, -, hpanics⟩ | ⟨-, error, herror⟩
        · rw [hpanics]
          rintro ⟨⟩
        · rw [herror]
          rintro ⟨⟩

/-- The loop panics when it comes to a line that does. -/
lemma validateLines_eq_none_iff (lines : List (List UInt8)) {lineNumber : Nat}
    {requestIds : List Text} {reader : LogReader} (hpositive : 0 < lineNumber)
    (hcount : lineNumber + lines.length ≤ u64Max) :
    validateLines X time parse faults path lines lineNumber requestIds reader = none ↔
      MeetsPanic X time parse faults requestIds reader.calls lines := by
  induction lines generalizing lineNumber requestIds reader with
  | nil =>
      refine iff_of_false ?_ MeetsPanic.not_nil
      unfold validateLines
      split <;> exact Option.some_ne_none _
  | cons bytes lines ih =>
      rw [List.length_cons] at hcount
      by_cases hhead : faults reader.calls = none ∧
          ∃ event, ExistingAuditEventFields.fromSlice X time parse bytes.dropLast = some (.ok event)
      · obtain ⟨hread, event, hline⟩ := hhead
        rw [MeetsPanic.cons_iff hread hline]
        by_cases hseen : event.requestId ∈ requestIds
        · rw [validateLines_repeated hpositive (by omega) hread hline hseen]
          exact iff_of_false (Option.some_ne_none _) (fun h => h.1 hseen)
        · rw [validateLines_fresh hpositive (by omega) hread hline hseen,
            ih (Nat.succ_pos _) (by omega)]
          exact ⟨fun h => ⟨hseen, h⟩, fun h => h.2⟩
      · rw [MeetsPanic.cons_iff_of_stopped hhead]
        rcases validateLines_stopped hpositive (by omega) hhead with
          ⟨hread, hpanics, hnone⟩ | ⟨hsound, error, herror⟩
        · exact iff_of_true hnone ⟨hread, hpanics⟩
        · rw [herror]
          exact iff_of_false (Option.some_ne_none _) hsound

end Panics

/-! ## The inspection of a log with lines -/

section Inspection

variable {P : Type} {X : Crates} {time : Humantime} {parse : JsonParser} {faults : Faults}
  {path : P}

/-- Line numbers fit a `u64`. -/
lemma readLines_count (content : FileBytes) : 1 + (readLines content.data).length ≤ u64Max := by
  have hlines := length_readLines_le content.data
  have hbytes := content.fits
  have hmax : isizeMax < u64Max := by decide
  omega

/-- The lines of a complete log are validated. -/
lemma inspectAuditLog_complete {content : List UInt8} (hlast : content.getLast? = some newline)
    (hfaults : ∀ n < 4, faults n = none) :
    inspectAuditLog X time parse faults path content =
      validateLines X time parse faults path (readLines content) 1 [] ⟨content, 0, 4⟩ := by
  have hcomplete : classifyAuditLogTail faults (.opened content) =
      .ok (.complete, ⟨content, content.length, 3⟩) :=
    classifyAuditLogTail_eq_complete_iff.mpr ⟨hlast, fun n hn => hfaults n (by omega), rfl⟩
  have hseek : LogReader.seek faults ⟨content, content.length, 3⟩ (.start 0) =
      .ok (0, ⟨content, 0, 4⟩) :=
    LogReader.attempt_eq_ok_iff.mpr ⟨hfaults 3 (by decide), rfl⟩
  simp only [inspectAuditLog, hcomplete, validateExistingAuditEvents, hseek]

/-- A log that is not empty and not refused is complete. -/
lemma complete_of_inspectAuditLog {content : List UInt8} (hne : content ≠ [])
    {result : Option (Except (InspectError P) LogReader)}
    (h : inspectAuditLog X time parse faults path content = result)
    (haccepted : ∀ error, result ≠ some (.error error)) :
    content.getLast? = some newline ∧ ∀ n < 4, faults n = none := by
  subst h
  rcases htail : classifyAuditLogTail faults (.opened content) with error | ⟨tail, reader⟩
  · exact absurd (by rw [inspectAuditLog, htail]) (haccepted (.inspect path error))
  · have hend := (classifyAuditLogTail_sound htail).1
    cases tail with
    | empty =>
        rcases List.eq_nil_or_concat content with rfl | ⟨front, byte, rfl⟩
        · exact absurd rfl hne
        · rw [List.concat_eq_append, endOf_concat] at hend
          split at hend <;> cases hend
    | torn => exact absurd (by rw [inspectAuditLog, htail]) (haccepted (.tornLog path))
    | complete =>
        obtain ⟨hlast, hfaults, rfl⟩ := classifyAuditLogTail_eq_complete_iff.mp htail
        refine ⟨hlast, ?_⟩
        intro n hn
        rcases Nat.lt_succ_iff_lt_or_eq.mp hn with hn | rfl
        · exact hfaults n hn
        · rcases hread : faults 3 with _ | source
          · rfl
          · refine absurd ?_ (haccepted (.inspect path source))
            simp only [inspectAuditLog, htail, validateExistingAuditEvents, LogReader.seek,
              LogReader.attempt, hread]

/-- A log with lines is accepted when no call fails and every line is accepted with a new id. -/
theorem inspectAuditLog_ok_iff {content : FileBytes} (hne : content.data ≠ [])
    {reader : LogReader} :
    inspectAuditLog X time parse faults path content.data = some (.ok reader) ↔
      content.data.getLast? = some newline ∧ (∀ n < 4, faults n = none) ∧
        Reaches X time parse faults [] 4 (readLines content.data) ∧
        faults (4 + (readLines content.data).length + 1) = none ∧
        reader = ⟨content.data, content.data.length, 4 + (readLines content.data).length + 2⟩ := by
  constructor
  · intro h
    obtain ⟨hlast, hfaults⟩ := complete_of_inspectAuditLog hne h nofun
    rw [inspectAuditLog_complete hlast hfaults] at h
    exact ⟨hlast, hfaults, (validateLines_eq_ok_iff _ Nat.one_pos (readLines_count content)).mp h⟩
  · rintro ⟨hlast, hfaults, hlines⟩
    rw [inspectAuditLog_complete hlast hfaults]
    exact (validateLines_eq_ok_iff _ Nat.one_pos (readLines_count content)).mpr hlines

/-- The lines of an accepted log are accepted, with distinct request ids. -/
lemma accepts_of_inspectAuditLog {content : FileBytes} {reader : LogReader}
    (h : inspectAuditLog X time parse faults path content.data = some (.ok reader)) :
    ∃ events, AcceptsLines X time parse (readLines content.data) events ∧
      (events.map (·.requestId)).Nodup := by
  by_cases hne : content.data = []
  · rw [hne]
    exact ⟨[], .nil, List.nodup_nil⟩
  · obtain ⟨-, -, hreaches, -⟩ := (inspectAuditLog_ok_iff hne).mp h
    obtain ⟨events, hevents, hnodup, -⟩ := hreaches.accepted
    exact ⟨events, hevents, hnodup⟩

end Inspection

/-! ## The inspection panics -/

/-- The inspection of a log comes to a line that panics: nothing fails up to that line, the log ends
in a newline, and every line in front of it is accepted and brings a new request id. -/
def InspectionPanics (X : Crates) (time : Humantime) (parse : JsonParser) (faults : Faults)
    (content : List UInt8) : Prop :=
  content.getLast? = some newline ∧ (∀ n < 4, faults n = none) ∧
    ∃ before line after, readLines content = before ++ line :: after ∧
      Reaches X time parse faults [] 4 before ∧ LinePanics X time parse line.dropLast

/-- Inspection panics exactly where the reader meets a line that panics. -/
lemma inspectAuditLog_eq_none_iff {P : Type} {X : Crates} {time : Humantime} {parse : JsonParser}
    {faults : Faults} {path : P} (content : FileBytes) :
    inspectAuditLog X time parse faults path content.data = none ↔
      InspectionPanics X time parse faults content.data := by
  have hlines : validateLines X time parse faults path (readLines content.data) 1 []
      ⟨content.data, 0, 4⟩ = none ↔ _ :=
    validateLines_eq_none_iff _ Nat.one_pos (readLines_count content)
  constructor
  · intro h
    have hne : content.data ≠ [] := by
      intro hnil
      rw [hnil, inspectAuditLog] at h
      split at h
      · cases h
      · cases h
      · rename_i htail
        cases (classifyAuditLogTail_sound htail).1
      · cases h
    obtain ⟨hlast, hfaults⟩ := complete_of_inspectAuditLog hne h nofun
    rw [inspectAuditLog_complete hlast hfaults] at h
    exact ⟨hlast, hfaults, hlines.mp h⟩
  · rintro ⟨hlast, hfaults, hpanics⟩
    rw [inspectAuditLog_complete hlast hfaults]
    exact hlines.mpr hpanics

/-- The inspection of an existing log ends, unless it comes to a line with an accepted upstream
target whose query has no room for its apostrophes. -/
theorem startup_inspection_total_iff {P : Type} (X : Crates) (time : Humantime) (parse : JsonParser)
    (faults : Faults) (path : P) (content : FileBytes) :
    (∃ result, inspectAuditLog X time parse faults path content.data = some result) ↔
      ¬ InspectionPanics X time parse faults content.data := by
  have hnone : inspectAuditLog X time parse faults path content.data = none ↔
      InspectionPanics X time parse faults content.data := inspectAuditLog_eq_none_iff content
  rw [← hnone, ← Option.ne_none_iff_exists']

/-! ## A log that panics -/

/-- `humantime` on the timestamp `2026-01-01T00:00:00.000000000Z`. -/
def Reference.humantime : Humantime where
  parseRfc3339 value := if value = Reference.timestamp.text then some 1767225600000000000 else none
  formatRfc3339Nanos _ := Reference.timestamp.text
  format_shape := by
    intro _ _ _
    decide +kernel

/-- `serde_json` on the texts of some values. -/
def Reference.parser (values : List Json) : JsonParser := fun line =>
  (values.find? fun json => decide (bytes json.compact = line)).map fun json => (json, [])

/-- The reference parser reads the first of its values back. -/
lemma Reference.parser_head (json : Json) (values : List Json) :
    Reference.parser (json :: values) (bytes json.compact) = some (json, []) := by
  have hfound : decide (bytes json.compact = bytes json.compact) = true := decide_eq_true rfl
  unfold Reference.parser
  rw [List.find?_cons, hfound]
  rfl

/-- A line whose value is read as a valid event is accepted. -/
lemma fromSlice_of_read {X : Crates} {time : Humantime} {parse : JsonParser} {line : List UInt8}
    {json : Json} {fields : ExistingAuditEventFields} (hparse : parse line = some (json, []))
    (hread : ExistingAuditEventFields.deserialize X time json = .ok fields)
    (hvalid : fields.validate X = some (.ok ())) :
    ExistingAuditEventFields.fromSlice X time parse line = some (.ok fields) := by
  simp only [ExistingAuditEventFields.fromSlice, ExistingAuditEventFields.deserializeValid, hparse,
    hread, hvalid, List.all_nil, if_true]

/-- A log of one line is accepted when its value is read as a valid event. -/
lemma inspectAuditLog_singleton {P : Type} {X : Crates} {time : Humantime} {path : P} {json : Json}
    {fields : ExistingAuditEventFields} {content : FileBytes}
    (hcontent : content.data = bytes json.compact ++ [newline])
    (hread : ExistingAuditEventFields.deserialize X time json = .ok fields)
    (hvalid : fields.validate X = some (.ok ())) :
    inspectAuditLog X time (Reference.parser [json]) (fun _ => none) path content.data =
      some (.ok ⟨content.data, content.data.length, 7⟩) := by
  have hlines : readLines content.data = [bytes json.compact ++ [newline]] := by
    rw [hcontent]
    exact readLines_append json.newline_notMem_compact []
  have hline : ExistingAuditEventFields.fromSlice X time (Reference.parser [json])
      (bytes json.compact ++ [newline]).dropLast = some (.ok fields) := by
    rw [List.dropLast_concat]
    exact fromSlice_of_read (Reference.parser_head json []) hread hvalid
  refine (inspectAuditLog_ok_iff (by rw [hcontent]; simp)).mpr ⟨?_, fun _ _ => rfl, ?_, rfl, ?_⟩
  · rw [hcontent, List.getLast?_concat]
  · rw [hlines]
    exact (Reaches.cons_iff rfl hline).mpr ⟨List.not_mem_nil, .nil rfl⟩
  · rw [hlines]
    rfl

/-- An allowed `GET /v1/models` with a query of `n` apostrophes, as a line of a log can have it. -/
def apostropheEvent (n : Nat) : AuditEvent :=
  { Reference.event with
    decision := .allowed
    errorClass := none
    path := Reference.modelsPath.value
    query := some (List.replicate n '\'')
    requestBody := .empty
    responseBody := .empty
    status := .ok
    upstreamPath := some Reference.modelsPath.value }

/-- The fields of `apostropheEvent`. -/
def apostropheFields (n : Nat) : ExistingAuditEventFields where
  decision := .allowed
  errorClass := none
  method := Method.get.text
  path := Reference.modelsPath.value
  query := some (List.replicate n '\'')
  requestBody := .empty
  requestId := Reference.requestId.display
  responseBody := .empty
  status := .ok
  timestamp := Reference.timestamp.text
  upstreamOrigin := Reference.origin
  upstreamPath := some Reference.modelsPath.value
  upstreamQuery := none
  version := .current

/-- The event with 2731 apostrophes joins a target that is too long. -/
lemma apostropheFields_joinsTooLong : (apostropheFields 2731).JoinsTooLong Reference.crates where
  checked := rfl
  attempted := by decide
  path := Reference.modelsPath.accepted
  query := ⟨_, rfl, (apostrophes 2731 (by decide)).accepted, by decide +kernel⟩

/-- The log of an event with a query of 2731 apostrophes. -/
def apostropheLog : FileBytes where
  data := (apostropheEvent 2731).line
  fits := by decide +kernel

/-- Its log is one line. -/
lemma readLines_apostropheLog : readLines apostropheLog.data = [apostropheLog.data] :=
  readLines_append (newline_notMem_serializeJsonEvent _) []

/-- Its line panics. -/
lemma linePanics_apostropheLog :
    LinePanics Reference.crates Reference.humantime
      (Reference.parser [(apostropheEvent 2731).json]) apostropheLog.data.dropLast := by
  have hline : apostropheLog.data.dropLast = serializeJsonEvent (apostropheEvent 2731) :=
    List.dropLast_concat
  have hread : ExistingAuditEventFields.read (apostropheEvent 2731) Reference.origin =
      .ok (apostropheFields 2731) := by decide +kernel
  have hfields : ExistingAuditEventFields.deserialize Reference.crates Reference.humantime
      (apostropheEvent 2731).json = .ok (apostropheFields 2731) :=
    ExistingAuditEventFields.deserialize_json rfl (by decide +kernel) hread
  have hparse : Reference.parser [(apostropheEvent 2731).json]
      (serializeJsonEvent (apostropheEvent 2731)) = some ((apostropheEvent 2731).json, []) :=
    Reference.parser_head _ []
  rw [hline]
  exact ⟨_, _, _, hparse, hfields, apostropheFields_joinsTooLong⟩

/-- Without failing calls the loop comes to that line first. -/
lemma meetsPanic_apostropheLog (calls : Nat) :
    MeetsPanic Reference.crates Reference.humantime
      (Reference.parser [(apostropheEvent 2731).json]) (fun _ => none) [] calls
      (readLines apostropheLog.data) :=
  ⟨[], apostropheLog.data, [], readLines_apostropheLog, .nil rfl, linePanics_apostropheLog⟩

/-- A log of one line, whose event has a query of 2731 apostrophes, stops the inspection. -/
theorem startup_inspection_panics :
    ∃ content : FileBytes, content.data = (apostropheEvent 2731).line ∧
      inspectAuditLog Reference.crates Reference.humantime
          (Reference.parser [(apostropheEvent 2731).json]) (fun _ => none) () content.data =
        none := by
  refine ⟨apostropheLog, rfl, ?_⟩
  rw [inspectAuditLog_eq_none_iff apostropheLog]
  exact ⟨List.getLast?_concat, fun _ _ => rfl, meetsPanic_apostropheLog 4⟩

end Custode
