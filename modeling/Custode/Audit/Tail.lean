import Custode.Audit.Serialize
import Custode.Found.Checks

/-!
# The tail of an existing log

Reading an existing log file, where any seek or read can fail, and `classify_audit_log_tail`: the
log is empty, ends with a newline, or is torn (`endOf_eq_torn_iff`).
-/

namespace Custode

open Found Found.Checks

/-- Where a seek goes (`std::io::SeekFrom`). -/
inductive SeekFrom where
  | start (offset : Nat)
  | fromEnd (back : Nat)

/-- An open log file. The number of calls made so far decides which fails. -/
structure LogReader where
  content : List UInt8
  position : Nat
  calls : Nat

/-- The failure of each call to the file, if it fails. -/
abbrev Faults := Nat → Option IoErrorKind

/-- A file that was just opened. -/
def LogReader.opened (content : List UInt8) : LogReader := ⟨content, 0, 0⟩

namespace LogReader

variable (faults : Faults) (reader : LogReader)

/-- One call to the file. -/
def attempt {α : Type} (answer : Except IoErrorKind (α × LogReader)) :
    Except IoErrorKind (α × LogReader) :=
  match faults reader.calls with
  | some error => .error error
  | none => answer

variable {faults reader} in
/-- A call answers `ok` when it does not fail and its answer is `ok`. -/
lemma attempt_eq_ok_iff {α : Type} {answer : Except IoErrorKind (α × LogReader)}
    {result : α × LogReader} : reader.attempt faults answer = .ok result ↔
      faults reader.calls = none ∧ answer = .ok result := by
  unfold attempt
  rcases faults reader.calls with _ | error
  · exact ⟨fun h => ⟨rfl, h⟩, fun h => h.2⟩
  · exact iff_of_false nofun (fun h => nomatch h.1)

/-- Moves to a position and answers it (`AsyncSeekExt::seek`). -/
def seek : SeekFrom → Except IoErrorKind (Nat × LogReader)
  | .start offset => reader.attempt faults
      (.ok (offset, ⟨reader.content, offset, reader.calls + 1⟩))
  | .fromEnd back => reader.attempt faults
      (if back ≤ reader.content.length then
        .ok (reader.content.length - back,
          ⟨reader.content, reader.content.length - back, reader.calls + 1⟩)
      else .error .other)

/-- Reads one byte (`AsyncReadExt::read_exact` into a one-byte buffer). -/
def readExact : Except IoErrorKind (UInt8 × LogReader) :=
  reader.attempt faults
    (match reader.content[reader.position]? with
    | none => .error .other
    | some byte => .ok (byte, ⟨reader.content, reader.position + 1, reader.calls + 1⟩))

end LogReader

/-- Existing audit log tail state at startup.
Source: `audit.rs` `AuditLogTail` -/
inductive AuditLogTail where
  | complete
  | empty
  | torn
  deriving DecidableEq

/-- Classifies the tail state for an existing audit log.
Source: `audit.rs` `classify_audit_log_tail` -/
def classifyAuditLogTail (faults : Faults) (reader : LogReader) :
    Except IoErrorKind (AuditLogTail × LogReader) := do
  let (length, reader) ← reader.seek faults (.fromEnd 0)
  if length = 0 then return (.empty, reader)
  else
    let (_, reader) ← reader.seek faults (.fromEnd 1)
    let (finalByte, reader) ← reader.readExact faults
    return (if finalByte = newline then .complete else .torn, reader)

/-- The last byte of a log decides its tail state. -/
def endOf (content : List UInt8) : AuditLogTail :=
  match content.getLast? with
  | none => .empty
  | some byte => if byte = newline then .complete else .torn

/-- The state of a log with a last byte. -/
lemma endOf_concat (front : List UInt8) (byte : UInt8) :
    endOf (front ++ [byte]) = if byte = newline then .complete else .torn := by
  rw [endOf, List.getLast?_concat]

/-- Empty, or ends in a newline. -/
def EndsLine (content : List UInt8) : Prop := content = [] ∨ content.getLast? = some newline

/-- Whole lines behind whole lines are whole lines. -/
lemma EndsLine.append {first second : List UInt8} (hfirst : EndsLine first)
    (hsecond : EndsLine second) : EndsLine (first ++ second) := by
  rcases hsecond with rfl | hsecond
  · rw [List.append_nil]
    exact hfirst
  · right
    rw [List.getLast?_append, hsecond, Option.some_or]

/-- A log is torn when it ends within a line. -/
lemma endOf_eq_torn_iff (content : List UInt8) : endOf content = .torn ↔ ¬ EndsLine content := by
  rcases List.eq_nil_or_concat content with rfl | ⟨front, byte, rfl⟩
  · exact ⟨nofun, fun h => absurd (.inl rfl) h⟩
  · rw [List.concat_eq_append, endOf_concat, EndsLine, List.getLast?_concat]
    by_cases hbyte : byte = newline
    · rw [if_pos hbyte, hbyte]
      exact ⟨nofun, fun h => absurd (.inr rfl) h⟩
    · rw [if_neg hbyte]
      simp [hbyte]

/-- What stands behind whole lines decides whether the log is torn. -/
lemma endOf_append_eq_torn_iff {lines : List UInt8} (hlines : EndsLine lines) (tail : List UInt8) :
    endOf (lines ++ tail) = .torn ↔ tail ≠ [] ∧ tail.getLast? ≠ some newline := by
  rw [endOf_eq_torn_iff]
  by_cases htail : EndsLine tail
  · refine iff_of_false (fun h => h (hlines.append htail)) ?_
    rintro ⟨hne, hlast⟩
    exact htail.elim hne hlast
  · have hne : tail ≠ [] := fun h => htail (.inl h)
    have hlast : tail.getLast? ≠ some newline := fun h => htail (.inr h)
    refine iff_of_true ?_ ⟨hne, hlast⟩
    rintro (hnil | hends)
    · exact hne (List.append_eq_nil_iff.mp hnil).2
    · rw [List.getLast?_append_of_ne_nil _ hne] at hends
      exact hlast hends

/-- The tail state of a log with a last byte is answered when nothing fails. -/
lemma classifyAuditLogTail_concat_iff {faults : Faults} {front : List UInt8} {byte : UInt8}
    {tail : AuditLogTail} {reader : LogReader} :
    classifyAuditLogTail faults (.opened (front ++ [byte])) = .ok (tail, reader) ↔
      (∀ n < 3, faults n = none) ∧ tail = endOf (front ++ [byte]) ∧
        reader = ⟨front ++ [byte], (front ++ [byte]).length, 3⟩ := by
  have hpositive : (front ++ [byte]).length = front.length + 1 := by simp
  constructor
  · intro h
    obtain ⟨⟨length, first⟩, hfirst, h⟩ := exists_of_bind_eq_ok h
    obtain ⟨hzero, hlength⟩ := LogReader.attempt_eq_ok_iff.mp hfirst
    rw [if_pos (Nat.zero_le _)] at hlength
    obtain ⟨rfl, rfl⟩ := Prod.mk.inj (Except.ok.inj hlength)
    simp only [LogReader.opened, hpositive] at h
    obtain ⟨⟨position, second⟩, hsecond, h⟩ := exists_of_bind_eq_ok h
    obtain ⟨hone, hposition⟩ := LogReader.attempt_eq_ok_iff.mp hsecond
    simp only [hpositive, Nat.le_add_left, if_true, Nat.add_sub_cancel] at hposition
    obtain ⟨rfl, rfl⟩ := Prod.mk.inj (Except.ok.inj hposition)
    obtain ⟨⟨finalByte, third⟩, hthird, h⟩ := exists_of_bind_eq_ok h
    obtain ⟨htwo, hread⟩ := LogReader.attempt_eq_ok_iff.mp hthird
    simp only [List.getElem?_concat_length] at hread
    obtain ⟨rfl, rfl⟩ := Prod.mk.inj (Except.ok.inj hread)
    obtain ⟨rfl, rfl⟩ := Prod.mk.inj (Except.ok.inj h)
    refine ⟨?_, (endOf_concat front byte).symm, by rw [hpositive]⟩
    intro n hn
    obtain rfl | rfl | rfl : n = 0 ∨ n = 1 ∨ n = 2 := by omega
    · exact hzero
    · exact hone
    · exact htwo
  · rintro ⟨hfaults, rfl, rfl⟩
    rw [endOf_concat]
    simp only [classifyAuditLogTail, LogReader.seek, LogReader.readExact, LogReader.opened,
      LogReader.attempt, hfaults 0 (by decide), hfaults 1 (by decide), hfaults 2 (by decide),
      hpositive, if_true, bind, Except.bind, Nat.le_add_left, Nat.add_sub_cancel,
      List.getElem?_concat_length]
    rfl

/-- Whatever fails, a tail state that is answered is the right one. -/
lemma classifyAuditLogTail_sound {faults : Faults} {content : List UInt8} {tail : AuditLogTail}
    {reader : LogReader}
    (h : classifyAuditLogTail faults (.opened content) = .ok (tail, reader)) :
    tail = endOf content ∧ reader.content = content := by
  rcases List.eq_nil_or_concat content with rfl | ⟨front, byte, rfl⟩
  · obtain ⟨⟨length, first⟩, hfirst, h⟩ := exists_of_bind_eq_ok h
    obtain ⟨rfl, rfl⟩ := Prod.mk.inj (Except.ok.inj (LogReader.attempt_eq_ok_iff.mp hfirst).2)
    obtain ⟨rfl, rfl⟩ := Prod.mk.inj (Except.ok.inj h)
    exact ⟨rfl, rfl⟩
  · rw [List.concat_eq_append] at h ⊢
    obtain ⟨-, rfl, rfl⟩ := classifyAuditLogTail_concat_iff.mp h
    exact ⟨rfl, rfl⟩

/-- A log is complete when nothing fails and its last byte is a newline. -/
lemma classifyAuditLogTail_eq_complete_iff {faults : Faults} {content : List UInt8}
    {reader : LogReader} :
    classifyAuditLogTail faults (.opened content) = .ok (.complete, reader) ↔
      content.getLast? = some newline ∧ (∀ n < 3, faults n = none) ∧
        reader = ⟨content, content.length, 3⟩ := by
  rcases List.eq_nil_or_concat content with rfl | ⟨front, byte, rfl⟩
  · refine iff_of_false ?_ nofun
    intro h
    have htail := (classifyAuditLogTail_sound h).1
    cases htail
  · rw [List.concat_eq_append, classifyAuditLogTail_concat_iff, endOf_concat, List.getLast?_concat,
      Option.some_inj]
    constructor
    · rintro ⟨hfaults, htail, rfl⟩
      split_ifs at htail with hbyte
      exact ⟨hbyte, hfaults, rfl⟩
    · rintro ⟨hbyte, hfaults, rfl⟩
      exact ⟨hfaults, (if_pos hbyte).symm, rfl⟩

/-- When nothing fails, the tail state is answered. -/
lemma classifyAuditLogTail_total {faults : Faults} (hfaults : ∀ n, faults n = none)
    (content : List UInt8) :
    ∃ reader, classifyAuditLogTail faults (.opened content) = .ok (endOf content, reader) := by
  rcases List.eq_nil_or_concat content with rfl | ⟨front, byte, rfl⟩
  · simp only [classifyAuditLogTail, LogReader.seek, LogReader.attempt, hfaults]
    exact ⟨_, rfl⟩
  · rw [List.concat_eq_append]
    exact ⟨_, classifyAuditLogTail_concat_iff.mpr ⟨fun n _ => hfaults n, rfl, rfl⟩⟩

end Custode
