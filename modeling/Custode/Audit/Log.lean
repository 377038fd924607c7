import Custode.Audit.Tail
import Custode.Found.Interleaving
import Custode.Reference

/-!
# The audit log over whole runs

Any number of tasks write events through the writer's mutex, each one after another. The writer may
fail in its write, its flush or its commit, and a failing call may have passed on any part of what
the writer took.

* `LogFile` — what the tasks share: the file, what the writer took and did not pass on, the poison
  flag, the lock, and what the calls returned so far.
* `Intact` and `Broken` — the two shapes of a log whose lock is free: it holds the lines of exactly
  the events whose calls returned `Ok`, or these and a part of the line of the first failure.
* `LogInv` — what holds in between, for each point at which the holder of the lock can stand.

`audit_log_over_runs` is the conclusion.
-/

namespace Custode

open Found Program

/-! ## The writer -/

/-- What a task does to the writer. -/
inductive WriterCall where
  /-- `state.lock().await`, to write these bytes -/
  | lock (serialized : List UInt8)
  /-- `self.poisoned` -/
  | loadPoisoned
  /-- `writer.write_all(serialized).await` -/
  | writeAll (serialized : List UInt8)
  /-- `writer.flush().await` -/
  | flush
  /-- `writer.commit().await` -/
  | commit
  /-- `self.poisoned = true` -/
  | storePoisoned
  /-- `write_event` drops its guard, if it has one, and returns -/
  | returns (event : AuditEvent) (result : Except AuditError Unit)

/-- The answer of a call. -/
abbrev WriterCall.Answer : WriterCall → Type
  | loadPoisoned => Bool
  | writeAll _ | flush | commit => Except IoErrorKind Unit
  | lock _ | storePoisoned | returns _ _ => Unit

/-- A program over the writer. -/
abbrev WriterProgram := Program WriterCall.Answer

/-- Writes, flushes, and commits serialized audit bytes to the supplied writer.
Source: `audit.rs` `write_serialized_event` -/
def writeSerializedEvent (serialized : List UInt8) : WriterProgram (Except AuditError Unit) := do
  match ← perform (WriterCall.writeAll serialized) with
  | .error _ => return .error .write
  | .ok () =>
      match ← perform WriterCall.flush with
      | .error _ => return .error .write
      | .ok () =>
          match ← perform WriterCall.commit with
          | .error _ => return .error .write
          | .ok () => return .ok ()

/-- Writes serialized audit bytes unless a previous write failed.
Source: `audit.rs` `AuditWriterState::write_serialized` -/
def writeSerialized (serialized : List UInt8) : WriterProgram (Except AuditError Unit) := do
  if ← perform WriterCall.loadPoisoned then return .error .poisoned
  else
    match ← writeSerializedEvent serialized with
    | .error .write => do
        perform WriterCall.storePoisoned
        return .error .write
    | result => return result

/-- Writes one required audit event.
Source: `audit.rs` `AuditWriter::write_event` -/
def writeEvent (maxEventBytes : Nat) (event : AuditEvent) :
    WriterProgram (Except AuditError Unit) := do
  match serializeEvent event maxEventBytes with
  | .error error => do
      perform (WriterCall.returns event (.error error))
      return .error error
  | .ok serialized => do
      perform (WriterCall.lock serialized)
      let result ← writeSerialized serialized
      perform (WriterCall.returns event result)
      return result

/-- The calls of one task. -/
def writeEvents (maxEventBytes : Nat) : List AuditEvent → WriterProgram Unit
  | [] => return ()
  | event :: events => do
      let _ ← writeEvent maxEventBytes event
      writeEvents maxEventBytes events

/-! ## What the tasks share -/

/-- The file behind the writer, and the writer's state. -/
structure LogFile where
  /-- The bytes of the file. -/
  content : List UInt8
  /-- What the writer took and has not passed on. -/
  buffered : List UInt8
  /-- `AuditWriterState::poisoned` -/
  poisoned : Bool
  /-- The bytes that the holder of the lock is to write. -/
  holder : Option (List UInt8)
  /-- What the calls of `write_event` returned, in the order in which they did. -/
  returned : List (AuditEvent × Except AuditError Unit)

namespace LogFile

/-- A writer that was just opened. -/
def opened (initial : List UInt8) : LogFile := ⟨initial, [], false, none, []⟩

/-- What a call with its answer does. -/
def Exec (s : LogFile) : Event WriterCall.Answer → LogFile → Prop
  | ⟨.lock serialized, _⟩, s' => s.holder = none ∧ s' = { s with holder := some serialized }
  | ⟨.loadPoisoned, poisoned⟩, s' => poisoned = s.poisoned ∧ s' = s
  | ⟨.writeAll serialized, .ok _⟩, s' => ∃ passed rest, s.buffered ++ serialized = passed ++ rest ∧
      s' = { s with content := s.content ++ passed, buffered := rest }
  | ⟨.writeAll serialized, .error _⟩, s' => ∃ passed, passed <+: s.buffered ++ serialized ∧
      s' = { s with content := s.content ++ passed, buffered := [] }
  | ⟨.flush, .ok _⟩, s' => s' = { s with content := s.content ++ s.buffered, buffered := [] }
  | ⟨.flush, .error _⟩, s' => ∃ passed, passed <+: s.buffered ∧
      s' = { s with content := s.content ++ passed, buffered := [] }
  | ⟨.commit, _⟩, s' => s' = s
  | ⟨.storePoisoned, _⟩, s' => s' = { s with poisoned := true }
  | ⟨.returns event result, _⟩, s' => s' = { s with
      holder := match result with
        | .error (.eventTooLarge _ _) => s.holder
        | _ => none
      returned := s.returned ++ [(event, result)] }

end LogFile

/-- The tasks at the writer. Every call runs to its return. -/
def logArena (ι : Type) : Arena ι WriterCall.Answer LogFile where
  exec := fun _ => LogFile.Exec
  Cancellable := fun _ _ => False
  release := fun _ s => s

section Runs

variable {ι : Type} [DecidableEq ι] (maxEventBytes : Nat) (initial : List UInt8)
  (events : ι → List AuditEvent)

/-- The states that tasks with these events reach. -/
def LogReach (turns : List (Turn ι WriterCall.Answer))
    (c : Config (fun _ : ι => Unit) WriterCall.Answer LogFile) : Prop :=
  Reach (logArena ι) (fun i => writeEvents maxEventBytes (events i)) (.opened initial) turns c

end Runs

/-! ## Where a task stands -/

/-- How far a task is with its event; `line` is what it writes. -/
inductive Phase where
  | idle
  | locked (line : List UInt8)
  | clean (line : List UInt8)
  | written (line : List UInt8)
  | flushed (line : List UInt8)
  | committed (line : List UInt8)
  | failed (line : List UInt8)
  | poisonStored (line : List UInt8)
  | refused (line : List UInt8)

namespace Phase

/-- The phase after one more call. -/
def observe : Phase → Event WriterCall.Answer → Phase
  | _, ⟨.lock line, _⟩ => locked line
  | locked line, ⟨.loadPoisoned, true⟩ => refused line
  | locked line, ⟨.loadPoisoned, false⟩ => clean line
  | clean line, ⟨.writeAll _, .ok _⟩ => written line
  | clean line, ⟨.writeAll _, .error _⟩ => failed line
  | written line, ⟨.flush, .ok _⟩ => flushed line
  | written line, ⟨.flush, .error _⟩ => failed line
  | flushed line, ⟨.commit, .ok _⟩ => committed line
  | flushed line, ⟨.commit, .error _⟩ => failed line
  | failed line, ⟨.storePoisoned, _⟩ => poisonStored line
  | _, ⟨.returns _ _, _⟩ => idle
  | phase, _ => phase

/-- The calls that a task makes in a phase. -/
inductive Ready (maxEventBytes : Nat) : Phase → WriterCall → Prop
  | tooLarge {event : AuditEvent} {error : AuditError}
      (size : serializeEvent event maxEventBytes = .error error) :
      Ready maxEventBytes idle (.returns event (.error error))
  | lock (line : List UInt8) : Ready maxEventBytes idle (.lock line)
  | loadPoisoned (line : List UInt8) : Ready maxEventBytes (locked line) .loadPoisoned
  | writeAll (line : List UInt8) : Ready maxEventBytes (clean line) (.writeAll line)
  | flush (line : List UInt8) : Ready maxEventBytes (written line) .flush
  | commit (line : List UInt8) : Ready maxEventBytes (flushed line) .commit
  | storePoisoned (line : List UInt8) : Ready maxEventBytes (failed line) .storePoisoned
  | ok {event : AuditEvent} {line : List UInt8}
      (size : serializeEvent event maxEventBytes = .ok line) :
      Ready maxEventBytes (committed line) (.returns event (.ok ()))
  | write {event : AuditEvent} {line : List UInt8}
      (size : serializeEvent event maxEventBytes = .ok line) :
      Ready maxEventBytes (poisonStored line) (.returns event (.error .write))
  | poisoned {event : AuditEvent} {line : List UInt8}
      (size : serializeEvent event maxEventBytes = .ok line) :
      Ready maxEventBytes (refused line) (.returns event (.error .poisoned))

/-- Follows a task. -/
def monitor (maxEventBytes : Nat) : Monitor WriterCall.Answer Phase where
  observe := observe
  Ready := Ready maxEventBytes

end Phase

section Phases

variable (maxEventBytes : Nat)

/-- `write_event` goes through the phases and ends idle. -/
lemma safe_writeEvent (event : AuditEvent) :
    (Phase.monitor maxEventBytes).Safe (writeEvent maxEventBytes event)
      (fun _ phase => phase = .idle) .idle := by
  unfold writeEvent
  cases hsize : serializeEvent event maxEventBytes with
  | error error => exact ⟨.tooLarge hsize, fun _ => rfl⟩
  | ok line =>
      refine ⟨.lock line, fun _ => ?_⟩
      refine ⟨.loadPoisoned line, ?_⟩
      rintro (_ | _)
      · refine ⟨.writeAll line, ?_⟩
        rintro (_ | _)
        · exact ⟨.storePoisoned line, fun _ => ⟨.write hsize, fun _ => rfl⟩⟩
        · refine ⟨.flush line, ?_⟩
          rintro (_ | _)
          · exact ⟨.storePoisoned line, fun _ => ⟨.write hsize, fun _ => rfl⟩⟩
          · refine ⟨.commit line, ?_⟩
            rintro (_ | _)
            · exact ⟨.storePoisoned line, fun _ => ⟨.write hsize, fun _ => rfl⟩⟩
            · exact ⟨.ok hsize, fun _ => rfl⟩
      · exact ⟨.poisoned hsize, fun _ => rfl⟩

/-- So does a task that writes several events. -/
lemma safe_writeEvents (events : List AuditEvent) :
    (Phase.monitor maxEventBytes).Safe (writeEvents maxEventBytes events)
      (fun _ phase => phase = .idle) .idle := by
  induction events with
  | nil => rfl
  | cons event events ih =>
      unfold writeEvents
      rw [Monitor.safe_bind]
      apply (safe_writeEvent maxEventBytes event).mono
      rintro result phase rfl
      exact ih

end Phases

/-! ## The content of the log -/

/-- What a returned call added to the log. -/
def okLine : AuditEvent × Except AuditError Unit → List UInt8
  | (event, .ok _) => event.line
  | (_, .error _) => []

/-- The lines of exactly the events whose calls returned `Ok`. -/
def okLines (returned : List (AuditEvent × Except AuditError Unit)) : List UInt8 :=
  returned.flatMap okLine

/-- The size check of the call failed. -/
def TooLarge (maxEventBytes : Nat) (call : AuditEvent × Except AuditError Unit) : Prop :=
  ∃ error, serializeEvent call.1 maxEventBytes = .error error ∧ call.2 = .error error

/-- What a call can return before any write failed. -/
def Kept (maxEventBytes : Nat) (call : AuditEvent × Except AuditError Unit) : Prop :=
  call.2 = .ok () ∨ TooLarge maxEventBytes call

/-- What a call can return after a write failed. -/
def Refused (maxEventBytes : Nat) (call : AuditEvent × Except AuditError Unit) : Prop :=
  call.2 = .error .poisoned ∨ TooLarge maxEventBytes call

section Invariant

variable {ι : Type} [DecidableEq ι] (maxEventBytes : Nat) (initial : List UInt8)

/-- No write failed so far, and the log has the lines of what returned `Ok` and then `tail`. -/
structure Intact (s : LogFile) (tail : List UInt8) : Prop where
  kept : ∀ call ∈ s.returned, Kept maxEventBytes call
  content : s.content = initial ++ okLines s.returned ++ tail

/-- A write failed, and the log ends in what that call left. -/
structure Broken (s : LogFile) : Prop where
  poisoned : s.poisoned = true
  content : ∃ before event after tail, s.returned = before ++ (event, .error .write) :: after ∧
    (∀ call ∈ before, Kept maxEventBytes call) ∧ (∀ call ∈ after, Refused maxEventBytes call) ∧
    tail <+: event.line ∧ s.content = initial ++ okLines before ++ tail

/-- Between calls. -/
def Settled (s : LogFile) : Prop :=
  (s.poisoned = false ∧ s.buffered = [] ∧ Intact maxEventBytes initial s []) ∨
    Broken maxEventBytes initial s

/-- What holds while the holder of the lock is in a phase. -/
inductive Working (s : LogFile) (line : List UInt8) : Phase → Prop
  | locked (settled : Settled maxEventBytes initial s) : Working s line (.locked line)
  | clean (poisoned : s.poisoned = false) (buffered : s.buffered = [])
      (intact : Intact maxEventBytes initial s []) : Working s line (.clean line)
  | written {passed : List UInt8} (poisoned : s.poisoned = false)
      (split : passed ++ s.buffered = line) (intact : Intact maxEventBytes initial s passed) :
      Working s line (.written line)
  | flushed (poisoned : s.poisoned = false) (buffered : s.buffered = [])
      (intact : Intact maxEventBytes initial s line) : Working s line (.flushed line)
  | committed (poisoned : s.poisoned = false) (buffered : s.buffered = [])
      (intact : Intact maxEventBytes initial s line) : Working s line (.committed line)
  | failed {passed : List UInt8} (part : passed <+: line)
      (intact : Intact maxEventBytes initial s passed) : Working s line (.failed line)
  | poisonStored {passed : List UInt8} (poisoned : s.poisoned = true) (part : passed <+: line)
      (intact : Intact maxEventBytes initial s passed) : Working s line (.poisonStored line)
  | refused (broken : Broken maxEventBytes initial s) : Working s line (.refused line)

/-- At most one task is not idle: the holder of the lock. -/
structure LogInv (s : LogFile) (phases : ι → Phase) : Prop where
  free : s.holder = none → (∀ i, phases i = .idle) ∧ Settled maxEventBytes initial s
  held : ∀ line, s.holder = some line → ∃ i, (∀ j, j ≠ i → phases j = .idle) ∧
    Working maxEventBytes initial s line (phases i)

variable {maxEventBytes initial} {s s' : LogFile} {phases : ι → Phase} {line : List UInt8} {i : ι}

omit [DecidableEq ι] in
/-- A task that is not idle holds the lock. -/
lemma LogInv.working (h : LogInv maxEventBytes initial s phases) (hi : phases i ≠ .idle) :
    ∃ line, s.holder = some line ∧ (∀ j, j ≠ i → phases j = .idle) ∧
      Working maxEventBytes initial s line (phases i) := by
  rcases hholder : s.holder with _ | line
  · exact absurd ((h.free hholder).1 i) hi
  · obtain ⟨j, hothers, hworking⟩ := h.held line hholder
    have hij : i = j := by
      by_contra hne
      exact hi (hothers i hne)
    subst hij
    exact ⟨line, rfl, hothers, hworking⟩

/-- The holder goes on. -/
lemma LogInv.advance {phase : Phase} (hholder : s'.holder = some line)
    (hothers : ∀ j, j ≠ i → phases j = .idle)
    (hworking : Working maxEventBytes initial s' line phase) :
    LogInv maxEventBytes initial s' (Function.update phases i phase) := by
  constructor
  · intro hfree
    rw [hholder] at hfree
    cases hfree
  · intro line' hline
    rw [hholder] at hline
    cases hline
    refine ⟨i, ?_, ?_⟩
    · intro j hj
      rw [Function.update_of_ne hj]
      exact hothers j hj
    · rw [Function.update_self]
      exact hworking

/-- The holder gives the lock back. -/
lemma LogInv.settle (hholder : s'.holder = none) (hothers : ∀ j, j ≠ i → phases j = .idle)
    (hsettled : Settled maxEventBytes initial s') :
    LogInv maxEventBytes initial s' (Function.update phases i .idle) := by
  constructor
  · intro _
    refine ⟨?_, hsettled⟩
    intro j
    by_cases hj : j = i
    · rw [hj, Function.update_self]
    · rw [Function.update_of_ne hj]
      exact hothers j hj
  · intro line hline
    rw [hholder] at hline
    cases hline

/-! ### Returns -/

/-- The state after a call returned. -/
def LogFile.after (s : LogFile) (event : AuditEvent) (result : Except AuditError Unit)
    (holder : Option (List UInt8)) : LogFile :=
  { s with holder := holder, returned := s.returned ++ [(event, result)] }

/-- The lines after one more returned call. -/
lemma okLines_snoc (returned : List (AuditEvent × Except AuditError Unit))
    (call : AuditEvent × Except AuditError Unit) :
    okLines (returned ++ [call]) = okLines returned ++ okLine call := by
  simp [okLines]

/-- What holds of a list and of one more element holds of both together. -/
lemma forall_mem_snoc {α : Type} {p : α → Prop} {l : List α} {a : α} (h : ∀ x ∈ l, p x)
    (ha : p a) : ∀ x ∈ l ++ [a], p x := by
  intro x hx
  rcases List.mem_append.mp hx with hx | hx
  · exact h x hx
  · rw [List.mem_singleton.mp hx]
    exact ha

/-- A call that is too large leaves an intact log intact. -/
lemma Intact.tooLarge {tail : List UInt8} {event : AuditEvent} {error : AuditError}
    {holder : Option (List UInt8)} (h : Intact maxEventBytes initial s tail)
    (hsize : serializeEvent event maxEventBytes = .error error) :
    Intact maxEventBytes initial (s.after event (.error error) holder) tail := by
  constructor
  · exact forall_mem_snoc h.kept (.inr ⟨error, hsize, rfl⟩)
  · change s.content = initial ++ okLines (s.returned ++ [(event, .error error)]) ++ tail
    rw [okLines_snoc, okLine, List.append_nil]
    exact h.content

/-- A call that is refused leaves a broken log as it is. -/
lemma Broken.refuse {event : AuditEvent} {result : Except AuditError Unit}
    {holder : Option (List UInt8)} (h : Broken maxEventBytes initial s)
    (hrefused : Refused maxEventBytes (event, result)) :
    Broken maxEventBytes initial (s.after event result holder) := by
  obtain ⟨hpoisoned, before, failed, after, tail, hreturned, hbefore, hafter, htail, hcontent⟩ := h
  refine ⟨hpoisoned, before, failed, after ++ [(event, result)], tail, ?_, hbefore, ?_, htail,
    hcontent⟩
  · change s.returned ++ [(event, result)] = _
    rw [hreturned, List.append_assoc, List.cons_append]
  · exact forall_mem_snoc hafter hrefused

/-- A call that is too large leaves a settled log settled. -/
lemma Settled.tooLarge {event : AuditEvent} {error : AuditError} {holder : Option (List UInt8)}
    (h : Settled maxEventBytes initial s)
    (hsize : serializeEvent event maxEventBytes = .error error) :
    Settled maxEventBytes initial (s.after event (.error error) holder) := by
  rcases h with ⟨hpoisoned, hbuffered, hintact⟩ | hbroken
  · exact .inl ⟨hpoisoned, hbuffered, hintact.tooLarge hsize⟩
  · exact .inr (hbroken.refuse (.inr ⟨error, hsize, rfl⟩))

/-- A call that is too large leaves a working writer where it is. -/
lemma Working.tooLarge {phase : Phase} {event : AuditEvent} {error : AuditError}
    {holder : Option (List UInt8)} (h : Working maxEventBytes initial s line phase)
    (hsize : serializeEvent event maxEventBytes = .error error) :
    Working maxEventBytes initial (s.after event (.error error) holder) line phase := by
  cases h with
  | locked settled => exact .locked (settled.tooLarge hsize)
  | clean poisoned buffered intact => exact .clean poisoned buffered (intact.tooLarge hsize)
  | written poisoned split intact => exact .written poisoned split (intact.tooLarge hsize)
  | flushed poisoned buffered intact => exact .flushed poisoned buffered (intact.tooLarge hsize)
  | committed poisoned buffered intact => exact .committed poisoned buffered (intact.tooLarge hsize)
  | failed part intact => exact .failed part (intact.tooLarge hsize)
  | poisonStored poisoned part intact => exact .poisonStored poisoned part (intact.tooLarge hsize)
  | refused broken => exact .refused (broken.refuse (.inr ⟨error, hsize, rfl⟩))

/-- Taking the mutex leaves a settled log settled. -/
lemma Settled.lock (h : Settled maxEventBytes initial s) :
    Settled maxEventBytes initial { s with holder := some line } := by
  rcases h with ⟨hpoisoned, hbuffered, hintact⟩ | hbroken
  · exact .inl ⟨hpoisoned, hbuffered, hintact.kept, hintact.content⟩
  · exact .inr ⟨hbroken.poisoned, hbroken.content⟩

/-- The call that committed its line returns `Ok`. -/
lemma Settled.ok {event : AuditEvent} (hpoisoned : s.poisoned = false) (hbuffered : s.buffered = [])
    (h : Intact maxEventBytes initial s event.line) :
    Settled maxEventBytes initial (s.after event (.ok ()) none) := by
  refine .inl ⟨hpoisoned, hbuffered, forall_mem_snoc h.kept (.inl rfl), ?_⟩
  change s.content = initial ++ okLines (s.returned ++ [(event, .ok ())]) ++ []
  rw [okLines_snoc, okLine, List.append_nil, ← List.append_assoc]
  exact h.content

/-- The call that failed returns `Write`. -/
lemma Settled.write {event : AuditEvent} {passed : List UInt8} (hpoisoned : s.poisoned = true)
    (hpart : passed <+: event.line) (h : Intact maxEventBytes initial s passed) :
    Settled maxEventBytes initial (s.after event (.error .write) none) :=
  .inr ⟨hpoisoned, s.returned, event, [], passed, rfl, h.kept, List.forall_mem_nil _, hpart,
    h.content⟩

/-! ### Calls -/

/-- The holder asks whether an earlier write failed. -/
lemma Settled.loadPoisoned (h : Settled maxEventBytes initial s) {r : Bool}
    (hexec : LogFile.Exec s ⟨.loadPoisoned, r⟩ s') : s'.holder = s.holder ∧
      Working maxEventBytes initial s' line (Phase.observe (.locked line) ⟨.loadPoisoned, r⟩) := by
  obtain ⟨rfl, rfl⟩ := hexec
  refine ⟨rfl, ?_⟩
  rcases h with ⟨hpoisoned, hbuffered, hintact⟩ | hbroken
  · rw [hpoisoned]
    exact .clean hpoisoned hbuffered hintact
  · rw [hbroken.poisoned]
    exact .refused hbroken

/-- The holder writes its line. -/
lemma Intact.writeAll (h : Intact maxEventBytes initial s []) (hpoisoned : s.poisoned = false)
    (hbuffered : s.buffered = []) {r : Except IoErrorKind Unit}
    (hexec : LogFile.Exec s ⟨.writeAll line, r⟩ s') : s'.holder = s.holder ∧
      Working maxEventBytes initial s' line (Phase.observe (.clean line) ⟨.writeAll line, r⟩) := by
  have hcontent := h.content
  rw [List.append_nil] at hcontent
  rcases r with error | _
  · obtain ⟨passed, hpart, rfl⟩ := hexec
    rw [hbuffered] at hpart
    refine ⟨rfl, .failed hpart ⟨h.kept, ?_⟩⟩
    change s.content ++ passed = _
    rw [hcontent]
  · obtain ⟨passed, rest, hsplit, rfl⟩ := hexec
    rw [hbuffered] at hsplit
    refine ⟨rfl, .written hpoisoned hsplit.symm ⟨h.kept, ?_⟩⟩
    change s.content ++ passed = _
    rw [hcontent]

/-- The holder flushes the writer. -/
lemma Intact.flush {passed : List UInt8} (h : Intact maxEventBytes initial s passed)
    (hpoisoned : s.poisoned = false) (hsplit : passed ++ s.buffered = line)
    {r : Except IoErrorKind Unit} (hexec : LogFile.Exec s ⟨.flush, r⟩ s') :
    s'.holder = s.holder ∧
      Working maxEventBytes initial s' line (Phase.observe (.written line) ⟨.flush, r⟩) := by
  rcases r with error | _
  · obtain ⟨more, ⟨rest, hrest⟩, rfl⟩ := hexec
    have hpart : passed ++ more <+: line :=
      ⟨rest, by rw [← hsplit, ← hrest, List.append_assoc]⟩
    refine ⟨rfl, .failed hpart ⟨h.kept, ?_⟩⟩
    change s.content ++ more = _
    rw [h.content, List.append_assoc]
  · obtain rfl := hexec
    refine ⟨rfl, .flushed hpoisoned rfl ⟨h.kept, ?_⟩⟩
    change s.content ++ s.buffered = _
    rw [h.content, ← hsplit, List.append_assoc]

/-- The holder keeps the lock and goes on, or it returns. -/
lemma Working.call {phase : Phase} (h : Working maxEventBytes initial s line phase)
    {op : WriterCall} {r : op.Answer} (hready : Phase.Ready maxEventBytes phase op)
    (hexec : LogFile.Exec s ⟨op, r⟩ s') :
    (s'.holder = s.holder ∧ Working maxEventBytes initial s' line (phase.observe ⟨op, r⟩)) ∨
      (s'.holder = none ∧ phase.observe ⟨op, r⟩ = .idle ∧ Settled maxEventBytes initial s') := by
  cases h with
  | locked settled =>
      cases hready
      exact .inl (settled.loadPoisoned hexec)
  | clean poisoned buffered intact =>
      cases hready
      exact .inl (intact.writeAll poisoned buffered hexec)
  | written poisoned split intact =>
      cases hready
      exact .inl (intact.flush poisoned split hexec)
  | flushed poisoned buffered intact =>
      cases hready
      obtain rfl := hexec
      rcases r with error | _
      · exact .inl ⟨rfl, .failed List.prefix_rfl intact⟩
      · exact .inl ⟨rfl, .committed poisoned buffered intact⟩
  | failed part intact =>
      cases hready
      obtain rfl := hexec
      exact .inl ⟨rfl, .poisonStored rfl part ⟨intact.kept, intact.content⟩⟩
  | committed poisoned buffered intact =>
      cases hready with
      | ok hsize =>
          obtain rfl := hexec
          rw [serializeEvent_eq_ok hsize] at intact
          exact .inr ⟨rfl, rfl, .ok poisoned buffered intact⟩
  | poisonStored poisoned part intact =>
      cases hready with
      | write hsize =>
          obtain rfl := hexec
          rw [serializeEvent_eq_ok hsize] at part
          exact .inr ⟨rfl, rfl, .write poisoned part intact⟩
  | refused broken =>
      cases hready
      obtain rfl := hexec
      exact .inr ⟨rfl, rfl, .inr (broken.refuse (.inl rfl))⟩

omit [DecidableEq ι] in
/-- A call whose event is too large leaves the lock and the file alone. -/
lemma LogInv.returnTooLarge (h : LogInv maxEventBytes initial s phases) {event : AuditEvent}
    {error : AuditError} (hsize : serializeEvent event maxEventBytes = .error error) :
    LogInv maxEventBytes initial (s.after event (.error error) s.holder) phases := by
  constructor
  · intro hfree
    obtain ⟨hidle, hsettled⟩ := h.free hfree
    exact ⟨hidle, hsettled.tooLarge hsize⟩
  · intro line hline
    obtain ⟨j, hothers, hj⟩ := h.held line hline
    exact ⟨j, hothers, hj.tooLarge hsize⟩

/-- Every call keeps the invariant. -/
lemma LogInv.call (h : LogInv maxEventBytes initial s phases) {op : WriterCall} {r : op.Answer}
    (hready : Phase.Ready maxEventBytes (phases i) op) (hexec : LogFile.Exec s ⟨op, r⟩ s') :
    LogInv maxEventBytes initial s'
      (Function.update phases i (Phase.observe (phases i) ⟨op, r⟩)) := by
  by_cases hphase : phases i = .idle
  · rw [hphase] at hready ⊢
    cases hready with
    | @tooLarge event error hsize =>
        obtain ⟨rfl, -⟩ := serializeEvent_eq_error hsize
        obtain rfl := hexec
        show LogInv maxEventBytes initial _ (Function.update phases i .idle)
        rw [← hphase, Function.update_eq_self]
        exact h.returnTooLarge hsize
    | lock line =>
        obtain ⟨hfree, rfl⟩ := hexec
        obtain ⟨hidle, hsettled⟩ := h.free hfree
        exact .advance rfl (fun j _ => hidle j) (.locked hsettled.lock)
  · obtain ⟨line, hholder, hothers, hworking⟩ := h.working hphase
    rcases hworking.call hready hexec with ⟨hsame, hnext⟩ | ⟨hfree, hreturned, hsettled⟩
    · exact .advance (hsame.trans hholder) hothers hnext
    · rw [hreturned]
      exact .settle hfree hothers hsettled

omit [DecidableEq ι] in
/-- After a write failed, no call reaches the writer. -/
lemma LogInv.refused (h : LogInv maxEventBytes initial s phases)
    (hbroken : Broken maxEventBytes initial s) {op : WriterCall} {r : op.Answer}
    (hready : Phase.Ready maxEventBytes (phases i) op) (hexec : LogFile.Exec s ⟨op, r⟩ s') :
    s'.content = s.content := by
  have hworking : phases i ≠ .idle → ∃ line, s.holder = some line ∧
      (∀ j, j ≠ i → phases j = .idle) ∧ Working maxEventBytes initial s line (phases i) :=
    h.working
  have hpoisoned : s.poisoned ≠ false := by
    rw [hbroken.poisoned]
    exact Bool.noConfusion
  generalize phases i = phase at hready hworking
  cases hready with
  | writeAll line =>
      obtain ⟨held, -, -, hclean⟩ := hworking nofun
      cases hclean with
      | clean poisoned buffered intact => exact absurd poisoned hpoisoned
  | flush line =>
      obtain ⟨held, -, -, hwritten⟩ := hworking nofun
      cases hwritten with
      | written poisoned split intact => exact absurd poisoned hpoisoned
  | lock line =>
      obtain ⟨-, rfl⟩ := hexec
      rfl
  | loadPoisoned line =>
      obtain ⟨-, rfl⟩ := hexec
      rfl
  | tooLarge | commit | storePoisoned | ok | write | poisoned =>
      obtain rfl := hexec
      rfl

omit [DecidableEq ι] in
/-- Either no write failed, and what stands behind the lines is of the call in progress, or the log
is broken. -/
lemma LogInv.intact_or_broken (h : LogInv maxEventBytes initial s phases) :
    (∃ tail, Intact maxEventBytes initial s tail ∧ (s.holder = none → tail = []) ∧
      ∀ line, s.holder = some line → tail <+: line) ∨ Broken maxEventBytes initial s := by
  rcases hholder : s.holder with _ | line
  · rcases (h.free hholder).2 with ⟨-, -, hintact⟩ | hbroken
    · exact .inl ⟨[], hintact, fun _ => rfl, fun _ _ => List.nil_prefix⟩
    · exact .inr hbroken
  · have hpart : ∀ {tail}, Intact maxEventBytes initial s tail → tail <+: line →
        (∃ tail, Intact maxEventBytes initial s tail ∧ (some line = none → tail = []) ∧
          ∀ held, some line = some held → tail <+: held) ∨ Broken maxEventBytes initial s := by
      intro tail hintact hprefix
      refine .inl ⟨tail, hintact, nofun, ?_⟩
      rintro held hheld
      cases hheld
      exact hprefix
    obtain ⟨i, -, hworking⟩ := h.held line hholder
    generalize phases i = phase at hworking
    cases hworking with
    | locked settled =>
        rcases settled with ⟨-, -, hintact⟩ | hbroken
        · exact hpart hintact List.nil_prefix
        · exact .inr hbroken
    | clean poisoned buffered intact => exact hpart intact List.nil_prefix
    | written poisoned split intact => exact hpart intact ⟨_, split⟩
    | flushed poisoned buffered intact => exact hpart intact List.prefix_rfl
    | committed poisoned buffered intact => exact hpart intact List.prefix_rfl
    | failed part intact => exact hpart intact part
    | poisonStored poisoned part intact => exact hpart intact part
    | refused broken => exact .inr broken

/-! ### Runs -/

omit [DecidableEq ι] in
/-- The invariant at the start. -/
lemma logInv_opened (initial : List UInt8) :
    LogInv maxEventBytes initial (.opened initial) (fun _ : ι => .idle) := by
  constructor
  · intro _
    refine ⟨fun _ => rfl, .inl ⟨rfl, rfl, List.forall_mem_nil _, ?_⟩⟩
    change initial = initial ++ [] ++ []
    rw [List.append_nil, List.append_nil]
  · intro line hline
    cases hline

variable {events : ι → List AuditEvent} {turns : List (Turn ι WriterCall.Answer)}
  {c : Config (fun _ : ι => Unit) WriterCall.Answer LogFile}

/-- The invariant holds over every run. -/
theorem LogReach.inv (h : LogReach maxEventBytes initial events turns c) :
    LogInv maxEventBytes initial c.shared fun i =>
      (Phase.monitor maxEventBytes).after .idle (c.history i) := by
  refine Reach.invariant (M := Phase.monitor maxEventBytes)
    (I := fun s phases _ => LogInv maxEventBytes initial s phases)
    (fun i => safe_writeEvents maxEventBytes (events i)) (logInv_opened initial) ?_ ?_ h
  · intro s phases dropped i op r s' hinv _ hready hexec
    exact hinv.call hready hexec
  · intro s phases dropped i op _ _ _ hcancellable
    exact hcancellable.elim

/-- A step after a write failed leaves the file as it is. -/
lemma LogReach.content_of_broken (h : LogReach maxEventBytes initial events turns c)
    (hbroken : Broken maxEventBytes initial c.shared) {t : Turn ι WriterCall.Answer}
    {c' : Config (fun _ : ι => Unit) WriterCall.Answer LogFile} (hstep : Step (logArena ι) c t c') :
    c'.shared.content = c.shared.content := by
  cases hstep with
  | @call i op k r s live head answer =>
      have hrun := Reach.runs h i
      rw [head] at hrun
      exact h.inv.refused hbroken ((safe_writeEvents maxEventBytes (events i)).ready hrun) answer
  | drop live head await => exact await.elim

/-! ### What it means -/

omit [DecidableEq ι] in
/-- What is returned while nothing failed is no write failure. -/
lemma Kept.ne_write {call : AuditEvent × Except AuditError Unit} (h : Kept maxEventBytes call) :
    call.2 ≠ .error .write := by
  rcases h with h | ⟨error, hsize, h⟩
  · rw [h]
    nofun
  · rw [h, (serializeEvent_eq_error hsize).1]
    nofun

omit [DecidableEq ι] in
/-- What is returned after a failure is no further write failure. -/
lemma Refused.ne_write {call : AuditEvent × Except AuditError Unit}
    (h : Refused maxEventBytes call) : call.2 ≠ .error .write := by
  rcases h with h | ⟨error, hsize, h⟩
  · rw [h]
    nofun
  · rw [h, (serializeEvent_eq_error hsize).1]
    nofun

/-- The only element of a kind splits a list in one way. -/
lemma split_unique {α : Type} {p : α → Prop} {before before' after after' : List α} {a a' : α}
    (h : before' ++ a' :: after' = before ++ a :: after) (ha' : p a')
    (hbefore : ∀ x ∈ before, ¬ p x) (hafter : ∀ x ∈ after, ¬ p x) :
    before' = before ∧ a' = a ∧ after' = after := by
  rcases List.append_eq_append_iff.mp h with ⟨mid, rfl, hmid⟩ | ⟨mid, rfl, hmid⟩
  · cases mid with
    | nil =>
        obtain ⟨rfl, rfl⟩ := List.cons.inj hmid
        exact ⟨(List.append_nil _).symm, rfl, rfl⟩
    | cons x mid =>
        obtain ⟨rfl, -⟩ := List.cons.inj hmid
        exact absurd ha' (hbefore a' (List.mem_append_right _ List.mem_cons_self))
  · cases mid with
    | nil =>
        obtain ⟨rfl, rfl⟩ := List.cons.inj hmid
        exact ⟨List.append_nil _, rfl, rfl⟩
    | cons x mid =>
        obtain ⟨-, rfl⟩ := List.cons.inj hmid
        exact absurd ha' (hafter a' (List.mem_append_right _ List.mem_cons_self))

omit [DecidableEq ι] in
/-- The only write failure of a broken log. -/
lemma Broken.split (h : Broken maxEventBytes initial s)
    {before after : List (AuditEvent × Except AuditError Unit)} {event : AuditEvent}
    (hreturned : s.returned = before ++ (event, .error .write) :: after) :
    ∃ tail, (∀ call ∈ before, Kept maxEventBytes call) ∧
      (∀ call ∈ after, Refused maxEventBytes call) ∧ tail <+: event.line ∧
      s.content = initial ++ okLines before ++ tail := by
  obtain ⟨-, before', event', after', tail, hreturned', hbefore, hafter, hpart, hcontent⟩ := h
  obtain ⟨rfl, hcall, rfl⟩ := split_unique (p := fun call => call.2 = .error .write)
    (hreturned.symm.trans hreturned') rfl (fun call hcall => (hbefore call hcall).ne_write)
    (fun call hcall => (hafter call hcall).ne_write)
  cases hcall
  exact ⟨tail, hbefore, hafter, hpart, hcontent⟩

/-- What the file of a log with this initial content holds, up to `tail`. -/
structure LogHolds (initial : List UInt8) (s : LogFile) (tail : List UInt8) : Prop where
  /-- The lines of exactly the events whose calls returned `Ok`, in lock order, and the tail. -/
  content : s.content = initial ++ okLines s.returned ++ tail
  /-- While the lock is free and no write failed there is no tail. -/
  free : s.holder = none → (∀ call ∈ s.returned, call.2 ≠ .error .write) → tail = []
  /-- While a call writes, and no write failed, the tail is of its line. -/
  held : ∀ line, s.holder = some line → (∀ call ∈ s.returned, call.2 ≠ .error .write) →
    tail <+: line
  /-- The tail is of the line of the first event that failed with `Write`. -/
  failed : ∀ before event after, s.returned = before ++ (event, .error .write) :: after →
    (∀ call ∈ before, call.2 ≠ .error .write) → tail <+: event.line
  /-- The tail decides whether the log is torn. -/
  torn : EndsLine initial → ∀ faults state reader,
    classifyAuditLogTail faults (.opened s.content) = .ok (state, reader) →
    (state = .torn ↔ tail ≠ [] ∧ tail.getLast? ≠ some newline)
  /-- The log is classified when no call to its file fails. -/
  classified : ∀ faults : Faults, (∀ n, faults n = none) →
    ∃ state reader, classifyAuditLogTail faults (.opened s.content) = .ok (state, reader)

omit [DecidableEq ι] in
/-- The lines of the acknowledged events end in a newline. -/
lemma endsLine_okLines (returned : List (AuditEvent × Except AuditError Unit)) :
    EndsLine (okLines returned) := by
  induction returned with
  | nil => exact .inl rfl
  | cons call returned ih =>
      rw [okLines, List.flatMap_cons]
      refine EndsLine.append ?_ ih
      obtain ⟨event, _ | _⟩ := call
      · exact .inl rfl
      · exact .inr (List.getLast?_concat)

omit [DecidableEq ι] in
/-- The two shapes of a log say what it holds. -/
lemma LogInv.holds (h : LogInv maxEventBytes initial s phases) :
    ∃ tail, LogHolds initial s tail := by
  have hclassified : ∀ faults : Faults, (∀ n, faults n = none) →
      ∃ state reader, classifyAuditLogTail faults (.opened s.content) = .ok (state, reader) :=
    fun faults hfaults => ⟨_, classifyAuditLogTail_total hfaults s.content⟩
  have htorn : ∀ {tail}, s.content = initial ++ okLines s.returned ++ tail → EndsLine initial →
      ∀ faults state reader, classifyAuditLogTail faults (.opened s.content) = .ok (state, reader) →
      (state = .torn ↔ tail ≠ [] ∧ tail.getLast? ≠ some newline) := by
    intro tail hcontent hinitial faults state reader hclassify
    rw [(classifyAuditLogTail_sound hclassify).1, hcontent]
    exact endOf_append_eq_torn_iff (hinitial.append (endsLine_okLines _)) tail
  rcases h.intact_or_broken with ⟨tail, hintact, hfree, hheld⟩ | hbroken
  · refine ⟨tail, hintact.content, fun hholder _ => hfree hholder, fun line hholder _ =>
      hheld line hholder, ?_, htorn hintact.content, hclassified⟩
    intro before event after hreturned _
    have hmem : (event, .error .write) ∈ s.returned := by
      rw [hreturned]
      exact List.mem_append_right _ List.mem_cons_self
    exact absurd rfl (hintact.kept _ hmem).ne_write
  · obtain ⟨-, before, event, after, tail, hreturned, hbefore, hafter, hpart, hcontent⟩ := hbroken
    have hlines : okLines s.returned = okLines before := by
      have hnone : after.flatMap okLine = [] := by
        rw [List.flatMap_eq_nil_iff]
        rintro ⟨later, result⟩ hmem
        rcases hafter _ hmem with h | ⟨error, -, h⟩
        · rw [show result = .error .poisoned from h, okLine]
        · rw [show result = .error error from h, okLine]
      rw [hreturned, okLines, List.flatMap_append, List.flatMap_cons, okLine, hnone]
      simp [okLines]
    rw [← hlines] at hcontent
    have hmem : (event, .error .write) ∈ s.returned := by
      rw [hreturned]
      exact List.mem_append_right _ List.mem_cons_self
    refine ⟨tail, hcontent, fun _ hnone => absurd rfl (hnone _ hmem), fun _ _ hnone =>
      absurd rfl (hnone _ hmem), ?_, htorn hcontent, hclassified⟩
    intro before' event' after' hreturned' _
    obtain ⟨-, hcall, -⟩ := split_unique (p := fun call => call.2 = .error .write)
      (hreturned'.symm.trans hreturned) rfl (fun call hcall => (hbefore call hcall).ne_write)
      (fun call hcall => (hafter call hcall).ne_write)
    cases hcall
    exact hpart

omit [DecidableEq ι] in
/-- A call whose event is too large does nothing to the file and to the poison flag. -/
lemma writeEvent_tooLarge {event : AuditEvent} {error : AuditError}
    {tr : List (Found.Event WriterCall.Answer)} {q : WriterProgram (Except AuditError Unit)}
    (hsize : serializeEvent event maxEventBytes = .error error)
    (hruns : (writeEvent maxEventBytes event).Runs tr q) :
    ∀ e ∈ tr, ∀ s s', LogFile.Exec s e s' →
      s'.content = s.content ∧ s'.poisoned = s.poisoned := by
  unfold writeEvent at hruns
  rw [hsize] at hruns
  rcases Runs.of_call hruns with ⟨rfl, -⟩ | ⟨r, tr', rfl, hafter⟩
  · exact List.forall_mem_nil _
  · obtain ⟨rfl, -⟩ := hafter.of_ret
    intro e he s s' hexec
    rw [List.mem_singleton.mp he] at hexec
    obtain rfl := hexec
    exact ⟨rfl, rfl⟩

omit [DecidableEq ι] in
/-- `EventTooLarge` is the failure of the size check. -/
lemma LogInv.tooLarge (h : LogInv maxEventBytes initial s phases)
    {call : AuditEvent × Except AuditError Unit} (hcall : call ∈ s.returned) {bytes max : Nat}
    (hresult : call.2 = .error (.eventTooLarge bytes max)) : TooLarge maxEventBytes call := by
  have hkept : Kept maxEventBytes call → TooLarge maxEventBytes call := by
    rintro (hok | hsize)
    · rw [hok] at hresult
      cases hresult
    · exact hsize
  rcases h.intact_or_broken with ⟨tail, hintact, -⟩ | hbroken
  · exact hkept (hintact.kept call hcall)
  · obtain ⟨-, before, event, after, tail, hreturned, hbefore, hafter, -⟩ := hbroken
    rw [hreturned, List.mem_append, List.mem_cons] at hcall
    rcases hcall with hcall | rfl | hcall
    · exact hkept (hbefore call hcall)
    · cases hresult
    · rcases hafter call hcall with hpoisoned | hsize
      · rw [hpoisoned] at hresult
        cases hresult
      · exact hsize

omit [DecidableEq ι] in
/-- A returned write failure broke the log. -/
lemma LogInv.broken (h : LogInv maxEventBytes initial s phases) {event : AuditEvent}
    (hmem : (event, .error .write) ∈ s.returned) : Broken maxEventBytes initial s := by
  rcases h.intact_or_broken with ⟨tail, hintact, -⟩ | hbroken
  · exact absurd rfl (hintact.kept _ hmem).ne_write
  · exact hbroken

end Invariant

/-- Any number of tasks write events through the writer's mutex, and writes, flushes and commits
fail at any call, after any number of bytes. In every state reached:

* the file holds the initial content, the lines of exactly the events whose calls returned `Ok`, in
  lock order, and a tail as `LogHolds` says, which decides whether the log is torn; the log is
  classified when no call to its file fails;
* after the first failure with `Write`, every later call that passes the size check returns
  `Poisoned`, and no step changes the file;
* `EventTooLarge` is only returned where the size check fails, and nothing that such a call does
  changes the file or poisons the writer.

A line has one newline, at its end. -/
theorem audit_log_over_runs {ι : Type} [DecidableEq ι] (maxEventBytes : Nat) (initial : List UInt8)
    (events : ι → List AuditEvent) {turns : List (Turn ι WriterCall.Answer)}
    {c : Config (fun _ : ι => Unit) WriterCall.Answer LogFile}
    (h : LogReach maxEventBytes initial events turns c) :
    (∃ tail, LogHolds initial c.shared tail) ∧
    (∀ before event after, c.shared.returned = before ++ (event, .error .write) :: after →
      (∀ call ∈ after, Refused maxEventBytes call) ∧
      ∀ t c', Step (logArena ι) c t c' → c'.shared.content = c.shared.content) ∧
    (∀ event bytes max, (event, .error (.eventTooLarge bytes max)) ∈ c.shared.returned →
      (∃ error, serializeEvent event maxEventBytes = .error error) ∧
        ∀ tr q, (writeEvent maxEventBytes event).Runs tr q → ∀ e ∈ tr, ∀ s s',
          LogFile.Exec s e s' → s'.content = s.content ∧ s'.poisoned = s.poisoned) ∧
    ∀ event : AuditEvent, event.line = serializeJsonEvent event ++ [newline] ∧
      newline ∉ serializeJsonEvent event := by
  refine ⟨h.inv.holds, ?_, ?_, ?_⟩
  · intro before event after hreturned
    have hmem : (event, .error .write) ∈ c.shared.returned := by
      rw [hreturned]
      exact List.mem_append_right _ List.mem_cons_self
    have hbroken := h.inv.broken hmem
    obtain ⟨tail, -, hafter, -⟩ := hbroken.split hreturned
    exact ⟨hafter, fun t c' hstep => h.content_of_broken hbroken hstep⟩
  · intro event bytes max hmem
    obtain ⟨error, hsize, -⟩ := h.inv.tooLarge hmem rfl
    exact ⟨⟨error, hsize⟩, fun tr q hruns => writeEvent_tooLarge hsize hruns⟩
  · intro event
    exact ⟨rfl, newline_notMem_serializeJsonEvent event⟩

/-- A call whose write fails after one byte. -/
def failedWrite (event : AuditEvent) : List (Found.Event WriterCall.Answer) :=
  [⟨.lock event.line, ()⟩, ⟨.loadPoisoned, false⟩, ⟨.writeAll event.line, .error .other⟩,
    ⟨.storePoisoned, ()⟩, ⟨.returns event (.error .write), ()⟩]

/-- `audit_log_over_runs` for one call whose write fails after one byte. -/
theorem audit_log_over_runs_failedWrite :
    ∃ turns c, LogReach Reference.event.line.length [] (fun _ : Unit => [Reference.event]) turns c ∧
      c.shared.returned = [(Reference.event, .error .write)] ∧
      c.shared.content = Reference.event.line.take 1 ∧ ∃ tail, LogHolds [] c.shared tail := by
  generalize Reference.event = event
  have hsize : serializeEvent event event.line.length = .ok event.line :=
    if_neg (lt_irrefl _)
  have hruns : (writeEvents event.line.length [event]).Runs (failedWrite event) (.ret ()) := by
    unfold writeEvents writeEvent
    rw [hsize]
    exact .step (.step (.step (.step (.step (.refl _)))))
  have hexecs : Arena.Execs (logArena Unit) () (.opened []) (failedWrite event)
      ⟨event.line.take 1, [], true, none, [(event, .error .write)]⟩ :=
    .cons ⟨rfl, rfl⟩ (.cons ⟨rfl, rfl⟩ (.cons ⟨_, List.take_prefix 1 _, rfl⟩ (.cons rfl
      (.cons rfl (.nil _)))))
  have hstart : LogReach event.line.length [] (fun _ : Unit => [event]) [] (.start _ _) := .start
  obtain ⟨c, hreach, hshared, -, -, -⟩ :=
    Reach.call_run (i := ()) hstart rfl hruns hexecs
  refine ⟨_, c, hreach, by rw [hshared], by rw [hshared], ?_⟩
  exact (audit_log_over_runs event.line.length [] (fun _ => [event]) hreach).1

end Custode
