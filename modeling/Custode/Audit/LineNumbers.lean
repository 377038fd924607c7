import Custode.Audit.Startup
import Custode.Found.Scan

/-!
# The line that is reported

`validate_existing_audit_events` as a scan: a line is sound when it is read as a valid event, its
key is the request id, and the loop stops at the line where the scan does. So the error names the
first line that is not valid or repeats a request id, counted from one.

* `lineId` — the request id of a valid line;
* `validateLines_eq` — the loop is the scan, unless it comes to a line on which the validation
  panics;
* `validation_reports_iff` — the report is right exactly when it comes to no such line.
-/

namespace Custode

open Found Found.Text Found.Scan

section Report

variable {P : Type} (X : Crates) (time : Humantime) (parse : JsonParser)

/-- The request id of a valid line, given with its newline. -/
def lineId (line : List UInt8) : Option Text :=
  match ExistingAuditEventFields.fromSlice X time parse line.dropLast with
  | some (.ok event) => some event.requestId
  | _ => none

/-- What the validation of a content answers: it accepts the content when all lines are valid, with
distinct request ids, and then the reader is at the end; otherwise it names the first line that is
not valid or repeats the request id of an earlier one. -/
structure ReportsFirstBadLine (path : P) (content : List UInt8)
    (result : Option (Except (InspectError P) LogReader)) : Prop where
  accepts : (∃ reader, result = some (.ok reader)) ↔
    AllGood (lineId X time parse) (readLines content)
  atEnd : ∀ reader, result = some (.ok reader) →
    reader.content = content ∧ reader.position = content.length
  reports : ¬ AllGood (lineId X time parse) (readLines content) →
    ∃ n number source, FirstBadAt (lineId X time parse) (readLines content) n ∧
      number.get = n + 1 ∧ result = some (.error (.corruptLog path number source))

variable {X time parse} in
/-- Only a validation that returns reports something. -/
lemma ReportsFirstBadLine.ne_none {path : P} {content : List UInt8}
    {result : Option (Except (InspectError P) LogReader)}
    (h : ReportsFirstBadLine X time parse path content result) : result ≠ none := by
  rintro rfl
  by_cases hgood : AllGood (lineId X time parse) (readLines content)
  · obtain ⟨reader, hreader⟩ := h.accepts.mpr hgood
    cases hreader
  · obtain ⟨n, number, source, -, -, herror⟩ := h.reports hgood
    cases herror

end Report

section Scan

variable {P : Type} {X : Crates} {time : Humantime} {parse : JsonParser} {path : P}
  {bytes : List UInt8} {event : ExistingAuditEventFields}

/-- The identity of a line that is accepted is that of its event. -/
lemma lineId_of_accepted
    (h : ExistingAuditEventFields.fromSlice X time parse bytes.dropLast = some (.ok event)) :
    lineId X time parse bytes = some event.requestId := by
  unfold lineId
  rw [h]

/-- A line that panics has no request id. -/
lemma lineId_of_panics (h : LinePanics X time parse bytes.dropLast) :
    lineId X time parse bytes = none := by
  unfold lineId
  rw [(fromSlice_eq_none_iff _).mpr h]

/-- Without failing calls the loop is the scan: it comes to the end, or it reports the line where
the scan stops. -/
lemma validateLines_eq (lines : List (List UInt8)) (lineNumber : Nat) (requestIds : List Text)
    (reader : LogReader) (hpositive : 0 < lineNumber) (hcount : lineNumber + lines.length ≤ u64Max)
    (hsound : ¬ MeetsPanic X time parse (fun _ => none) requestIds reader.calls lines) :
    (firstBad (lineId X time parse) requestIds lines = none →
        ∃ calls,
          validateLines X time parse (fun _ => none) path lines lineNumber requestIds reader =
            some (.ok ⟨reader.content, reader.content.length, calls⟩)) ∧
      ∀ n, firstBad (lineId X time parse) requestIds lines = some n →
        ∃ number source, number.get = lineNumber + n ∧
          validateLines X time parse (fun _ => none) path lines lineNumber requestIds reader =
            some (.error (.corruptLog path number source)) := by
  induction lines generalizing lineNumber requestIds reader with
  | nil =>
      refine ⟨fun _ => ⟨reader.calls + 2, ?_⟩, fun n h => ?_⟩
      · simp [validateLines, orInspect, LogReader.seek, LogReader.attempt, Except.map,
          Except.mapError]
      · cases h
  | cons bytes lines ih =>
      rw [List.length_cons] at hcount
      have hbounded : lineNumber ≤ u64Max := by omega
      unfold firstBad
      rcases hline : ExistingAuditEventFields.fromSlice X time parse bytes.dropLast with
        _ | (source | event)
      · -- a line that panics is the first one that the loop comes to
        refine absurd ⟨[], bytes, lines, rfl, .nil rfl, ?_⟩ hsound
        exact (fromSlice_eq_none_iff _).mp hline
      · have hid : lineId X time parse bytes = none := by
          unfold lineId
          rw [hline]
        rw [hid]
        refine ⟨fun h => ?_, fun n h => ?_⟩
        · cases h
        · obtain rfl := Option.some.inj h
          exact ⟨_, _, rfl, validateLines_invalid hpositive hbounded rfl hline⟩
      · rw [lineId_of_accepted hline]
        by_cases hseen : event.requestId ∈ requestIds
        · simp only [if_pos hseen]
          refine ⟨fun h => ?_, fun n h => ?_⟩
          · cases h
          · obtain rfl := Option.some.inj h
            exact ⟨_, _, rfl, validateLines_repeated hpositive hbounded rfl hline hseen⟩
        · simp only [if_neg hseen]
          rw [MeetsPanic.cons_iff rfl hline] at hsound
          obtain ⟨hend, hstop⟩ := ih (lineNumber + 1) (event.requestId :: requestIds)
            ⟨reader.content, reader.position + bytes.length, reader.calls + 1⟩
            (Nat.succ_pos _) (by omega) fun hpanics => hsound ⟨hseen, hpanics⟩
          rw [validateLines_fresh hpositive (by omega) rfl hline hseen]
          refine ⟨fun h => hend (Option.map_eq_none_iff.mp h), fun n h => ?_⟩
          obtain ⟨m, hm, rfl⟩ := Option.map_eq_some_iff.mp h
          obtain ⟨number, source, hnumber, hresult⟩ := hstop m hm
          exact ⟨number, source, by omega, hresult⟩

end Scan

/-! ## The validation of a content -/

section Validation

variable {P : Type}

/-- The validation reads the content from its start. -/
lemma validateExistingAuditEvents_eq (X : Crates) (time : Humantime) (parse : JsonParser) (path : P)
    (content : List UInt8) (position calls : Nat) :
    validateExistingAuditEvents X time parse (fun _ => none) path ⟨content, position, calls⟩ =
      validateLines X time parse (fun _ => none) path (readLines content) 1 []
        ⟨content, 0, calls + 1⟩ := rfl

/-- Startup panics on the lines of a log exactly where it meets a line that panics. -/
lemma validateExistingAuditEvents_eq_none_iff (X : Crates) (time : Humantime) (parse : JsonParser)
    (path : P) (content : FileBytes) (position calls : Nat) :
    validateExistingAuditEvents X time parse (fun _ => none) path
        ⟨content.data, position, calls⟩ = none ↔
      MeetsPanic X time parse (fun _ => none) [] (calls + 1) (readLines content.data) := by
  rw [validateExistingAuditEvents_eq]
  exact validateLines_eq_none_iff _ Nat.one_pos (readLines_count content)

/-- Whatever the reader has done before, the validation of a content reports its first bad line,
exactly when it comes to no line on which the check of a line panics. -/
theorem validation_reports_iff (X : Crates) (time : Humantime) (parse : JsonParser) (path : P)
    (content : FileBytes) (position calls : Nat) :
    ReportsFirstBadLine X time parse path content.data
        (validateExistingAuditEvents X time parse (fun _ => none) path
          ⟨content.data, position, calls⟩) ↔
      ¬ MeetsPanic X time parse (fun _ => none) [] (calls + 1) (readLines content.data) := by
  constructor
  · intro h hpanics
    apply h.ne_none
    exact (validateExistingAuditEvents_eq_none_iff X time parse path content position calls).mpr
      hpanics
  · intro hsound
    rw [validateExistingAuditEvents_eq]
    obtain ⟨hend, hstop⟩ := validateLines_eq (readLines content.data) 1 []
      ⟨content.data, 0, calls + 1⟩ Nat.one_pos (readLines_count content) hsound
    rcases hscan : firstBad (lineId X time parse) [] (readLines content.data) with _ | n
    · obtain ⟨calls', hok⟩ := hend hscan
      have hgood := firstBad_eq_none_iff.mp hscan
      rw [hok]
      refine ⟨iff_of_true ⟨_, rfl⟩ hgood, ?_, fun hbad => absurd hgood hbad⟩
      intro reader hreader
      obtain rfl := Except.ok.inj (Option.some.inj hreader)
      exact ⟨rfl, rfl⟩
    · obtain ⟨number, source, hnumber, herror⟩ := hstop n hscan
      have hfirst := firstBad_eq_some_iff.mp hscan
      have hbad : ¬ AllGood (lineId X time parse) (readLines content.data) :=
        fun hgood => allGood_iff.mp hgood n hfirst.1
      rw [herror]
      refine ⟨iff_of_false ?_ hbad, ?_, fun _ => ?_⟩
      · rintro ⟨reader, hreader⟩
        cases hreader
      · intro reader hreader
        cases hreader
      · exact ⟨n, number, source, hfirst, by omega, rfl⟩

/-- The log with a query of 2731 apostrophes has one line, which is not valid; the validation
panics instead of reporting it. -/
theorem apostropheLog_not_reported :
    lineId Reference.crates Reference.humantime (Reference.parser [(apostropheEvent 2731).json])
        apostropheLog.data = none ∧
      ¬ ReportsFirstBadLine Reference.crates Reference.humantime
          (Reference.parser [(apostropheEvent 2731).json]) () apostropheLog.data
        (validateExistingAuditEvents Reference.crates Reference.humantime
          (Reference.parser [(apostropheEvent 2731).json]) (fun _ => none) ()
          ⟨apostropheLog.data, 0, 0⟩) := by
  refine ⟨lineId_of_panics linePanics_apostropheLog, ?_⟩
  intro h
  apply h.ne_none
  rw [validateExistingAuditEvents_eq_none_iff]
  exact meetsPanic_apostropheLog (0 + 1)

end Validation

end Custode
