import Custode.Audit.Log

/-!
# The audit file under dropped writers

`audit_log_over_runs` is about tasks that run to their return. A handler of the gateway can be
dropped while it writes: it gives the writer's mutex back, and what the writer took of its event
stays with the writer. The file takes a line in one poll, or has not taken any of it when the writer
is dropped.

`AuditDisk` is a `LogFile` with the task that has the mutex, and with how much of the file is on
stable storage. After a stop of the machine, or of the process alone, the file is any of `Survives`.

`Journal` says what is in the file, for a list `took` of the events whose lines the writer took:

* the file and the writer hold the initial content and the lines of `took`, all of it as long as no
  call failed, and a cut of it afterwards;
* the line of an event whose `write_event` returned `Ok` is on stable storage.

`Journal.call` and `Journal.drop` keep it.
-/

namespace Custode

open Found Program

/-! ## The file and its writers -/

/-- The audit file, and who is writing. -/
structure AuditDisk (ι : Type) where
  log : LogFile
  /-- The task that has the mutex. -/
  owner : Option ι
  /-- The bytes of the file that are on stable storage. -/
  synced : Nat

namespace AuditDisk

variable {ι : Type}

/-- A writer that was just opened. -/
def opened (initial : List UInt8) (synced : Nat) : AuditDisk ι := ⟨.opened initial, none, synced⟩

/-- Who has the mutex after a call. -/
def ownerAfter (i : ι) (owner : Option ι) : WriterCall → Option ι
  | .lock _ => some i
  | .returns _ (.error (.eventTooLarge _ _)) => owner
  | .returns _ _ => none
  | _ => owner

/-- What is on stable storage after a call: the whole file, if it was a commit. -/
def syncedAfter (s : AuditDisk ι) : Event WriterCall.Answer → Nat
  | ⟨.commit, .ok _⟩ => s.log.content.length
  | _ => s.synced

/-- What a call with its answer does. -/
def Exec (i : ι) (s : AuditDisk ι) (e : Event WriterCall.Answer) (s' : AuditDisk ι) : Prop :=
  ∃ log, LogFile.Exec s.log e log ∧ s' = ⟨log, ownerAfter i s.owner e.1, syncedAfter s e⟩

variable [DecidableEq ι]

/-- A dropped task gives the mutex back. -/
def release (i : ι) (s : AuditDisk ι) : AuditDisk ι :=
  if s.owner = some i then { s with log := { s.log with holder := none }, owner := none } else s

end AuditDisk

/-- What a call says that `write_event` returns. -/
def WriterCall.outcomes : WriterCall → List (AuditEvent × Except AuditError Unit)
  | returns event result => [(event, result)]
  | _ => []

namespace AuditDisk

variable {ι : Type} {s s' : AuditDisk ι} {i : ι} {op : WriterCall} {r : op.Answer}

/-- The part of the file that is on stable storage. -/
def stored (s : AuditDisk ι) : List UInt8 := s.log.content.take s.synced

/-- A drop returns nothing. -/
lemma returned_release [DecidableEq ι] (s : AuditDisk ι) (i : ι) :
    (s.release i).log.returned = s.log.returned := by
  rw [release]
  split
  · rfl
  · rfl

/-- A drop takes nothing from stable storage. -/
lemma stored_release [DecidableEq ι] (s : AuditDisk ι) (i : ι) :
    (s.release i).stored = s.stored := by
  rw [release]
  split
  · rfl
  · rfl

/-- What a stop leaves of the file: at least what is on stable storage, and maybe more of what the
writer took. -/
structure Survives (s : AuditDisk ι) (left : List UInt8) : Prop where
  stored : s.stored <+: left
  taken : left <+: s.log.content ++ s.log.buffered

/-- Nothing is taken from the file. -/
lemma Exec.content (h : Exec i s ⟨op, r⟩ s') : s.log.content <+: s'.log.content := by
  obtain ⟨log, hlog, rfl⟩ := h
  cases op with
  | lock line => obtain ⟨-, rfl⟩ := hlog; exact List.prefix_rfl
  | loadPoisoned => obtain ⟨-, rfl⟩ := hlog; exact List.prefix_rfl
  | writeAll line =>
      rcases r with error | _
      · obtain ⟨passed, -, rfl⟩ := hlog
        exact List.prefix_append _ _
      · obtain ⟨passed, rest, -, rfl⟩ := hlog
        exact List.prefix_append _ _
  | flush =>
      rcases r with error | _
      · obtain ⟨passed, -, rfl⟩ := hlog
        exact List.prefix_append _ _
      · obtain rfl := hlog
        exact List.prefix_append _ _
  | commit => obtain rfl := hlog; exact List.prefix_rfl
  | storePoisoned => obtain rfl := hlog; exact List.prefix_rfl
  | returns event result => obtain rfl := hlog; exact List.prefix_rfl

/-- A call returns what it says it returns, and nothing else. -/
lemma Exec.returned (h : Exec i s ⟨op, r⟩ s') :
    s'.log.returned = s.log.returned ++ op.outcomes := by
  obtain ⟨log, hlog, rfl⟩ := h
  cases op with
  | lock line => obtain ⟨-, rfl⟩ := hlog; exact (List.append_nil _).symm
  | loadPoisoned => obtain ⟨-, rfl⟩ := hlog; exact (List.append_nil _).symm
  | writeAll line =>
      rcases r with error | _
      · obtain ⟨passed, -, rfl⟩ := hlog
        exact (List.append_nil _).symm
      · obtain ⟨passed, rest, -, rfl⟩ := hlog
        exact (List.append_nil _).symm
  | flush =>
      rcases r with error | _
      · obtain ⟨passed, -, rfl⟩ := hlog
        exact (List.append_nil _).symm
      · obtain rfl := hlog
        exact (List.append_nil _).symm
  | commit => obtain rfl := hlog; exact (List.append_nil _).symm
  | storePoisoned => obtain rfl := hlog; exact (List.append_nil _).symm
  | returns event result => obtain rfl := hlog; rfl

/-- What is on stable storage stays there. -/
lemma Exec.stored (h : Exec i s ⟨op, r⟩ s') : s.stored <+: s'.stored := by
  have hcontent := h.content
  obtain ⟨log, hlog, rfl⟩ := h
  have hsame : s.stored <+: log.content.take s.synced := hcontent.take s.synced
  cases op with
  | commit =>
      obtain rfl := hlog
      rcases r with error | _
      · exact hsame
      · exact (List.take_prefix _ _).trans (by rw [AuditDisk.stored, syncedAfter, List.take_length])
  | _ => exact hsame

end AuditDisk

/-- The calls of a writer that are awaited. -/
def WriterCall.Awaited : WriterCall → Prop
  | lock _ | writeAll _ | flush | commit => True
  | _ => False

/-- The calls that write this event. -/
def WriterCall.Writes (maxEventBytes : Nat) (event : AuditEvent) : WriterCall → Prop
  | lock line | writeAll line => serializeEvent event maxEventBytes = .ok line
  | returns event' _ => event' = event
  | _ => True

/-- The writer has taken the line of the event. -/
def Phase.Took : Phase → Prop
  | written _ | flushed _ | committed _ | failed _ | poisonStored _ => True
  | _ => False

/-- A line that was taken stays taken until its call returns. -/
lemma Phase.Took.observe {maxEventBytes : Nat} {phase : Phase} {op : WriterCall} {r : op.Answer}
    (h : phase.Took) (hready : phase.Ready maxEventBytes op)
    (hop : ∀ event result, op ≠ .returns event result) : (phase.observe ⟨op, r⟩).Took := by
  cases hready with
  | flush line => rcases r with _ | _ <;> trivial
  | commit line => rcases r with _ | _ <;> trivial
  | storePoisoned line => trivial
  | tooLarge size => exact h.elim
  | lock line => exact h.elim
  | loadPoisoned line => exact h.elim
  | writeAll line => exact h.elim
  | poisoned size => exact h.elim
  | ok size => exact absurd rfl (hop _ _)
  | write size => exact absurd rfl (hop _ _)

/-! ## The journal -/

section Journal

variable {ι : Type} (initial : List UInt8)

/-- The lines of the events, one after another. -/
def journalLines (took : List (ι × AuditEvent)) : List UInt8 := took.flatMap fun x => x.2.line

/-- The lines of two lists of events. -/
lemma journalLines_append (took later : List (ι × AuditEvent)) :
    journalLines (took ++ later) = journalLines took ++ journalLines later :=
  List.flatMap_append

/-- The file and the writer hold everything that was taken. -/
structure Whole (s : AuditDisk ι) (took : List (ι × AuditEvent)) : Prop where
  poisoned : s.log.poisoned = false
  content : s.log.content ++ s.log.buffered = initial ++ journalLines took

/-- A call failed, and the file holds a cut of what was taken. -/
structure CutOff (s : AuditDisk ι) (took : List (ι × AuditEvent)) : Prop where
  buffered : s.log.buffered = []
  content : s.log.content <+: initial ++ journalLines took

/-- The last line that was taken is this task's. -/
def TookLast (took : List (ι × AuditEvent)) (i : ι) (line : List UInt8) : Prop :=
  ∃ before event, took = before ++ [(i, event)] ∧ event.line = line

/-- What holds while the mutex is free. -/
inductive AtRest (s : AuditDisk ι) (took : List (ι × AuditEvent)) : Prop
  | whole (whole : Whole initial s took)
  | cut (poisoned : s.log.poisoned = true) (cut : CutOff initial s took)

/-- What holds while the task with the mutex is in a phase. -/
inductive Held (s : AuditDisk ι) (took : List (ι × AuditEvent)) (i : ι) (line : List UInt8) :
    Phase → Prop
  | locked (settled : AtRest initial s took) : Held s took i line (.locked line)
  | clean (whole : Whole initial s took) : Held s took i line (.clean line)
  | written (whole : Whole initial s took) (last : TookLast took i line) :
      Held s took i line (.written line)
  | flushed (whole : Whole initial s took) (buffered : s.log.buffered = [])
      (last : TookLast took i line) : Held s took i line (.flushed line)
  | committed (whole : Whole initial s took) (buffered : s.log.buffered = [])
      (synced : s.synced = s.log.content.length) (last : TookLast took i line) :
      Held s took i line (.committed line)
  | failed (cut : CutOff initial s took) : Held s took i line (.failed line)
  | poisonStored (poisoned : s.log.poisoned = true) (cut : CutOff initial s took) :
      Held s took i line (.poisonStored line)
  | refused (poisoned : s.log.poisoned = true) (cut : CutOff initial s took) :
      Held s took i line (.refused line)

/-- The line of the event is on stable storage, behind the lines that were taken before it. -/
def Durable (s : AuditDisk ι) (took : List (ι × AuditEvent)) (event : AuditEvent) : Prop :=
  ∃ before taken after, took = before ++ taken :: after ∧ taken.2.line = event.line ∧
    (initial ++ journalLines before ++ event.line).length ≤ s.synced

/-- What the tasks have made of the file. -/
structure Journal (s : AuditDisk ι) (took : List (ι × AuditEvent)) (phases : ι → Phase) : Prop where
  free : s.owner = none → s.log.holder = none ∧ (∀ i, phases i = .idle) ∧ AtRest initial s took
  held : ∀ i, s.owner = some i → ∃ line, s.log.holder = some line ∧
    (∀ j, j ≠ i → phases j = .idle) ∧ Held initial s took i line (phases i)
  synced : s.synced ≤ s.log.content.length
  /-- What was acknowledged is durable. -/
  acknowledged : ∀ event, (event, .ok ()) ∈ s.log.returned → Durable initial s took event

variable {initial} {s s' : AuditDisk ι} {took : List (ι × AuditEvent)} {phases : ι → Phase} {i : ι}
  {line : List UInt8}

/-- A file that was just opened. -/
lemma Journal.opened {synced : Nat} (h : synced ≤ initial.length) :
    Journal initial (.opened initial synced : AuditDisk ι) [] fun _ => .idle where
  free _ := ⟨rfl, fun _ => rfl, .whole ⟨rfl, by simp [AuditDisk.opened, LogFile.opened,
    journalLines]⟩⟩
  held _ := nofun
  synced := h
  acknowledged _ := nofun

/-! ### What the file holds -/

/-- A whole file holds nothing but what was taken. -/
lemma Whole.part (h : Whole initial s took) :
    s.log.content ++ s.log.buffered <+: initial ++ journalLines took := by
  rw [h.content]

/-- Neither does a cut one. -/
lemma CutOff.part (h : CutOff initial s took) :
    s.log.content ++ s.log.buffered <+: initial ++ journalLines took := by
  rw [h.buffered, List.append_nil]
  exact h.content

/-- A whole file loses nothing but its end when a call fails. -/
lemma Whole.cutOff (h : Whole initial s took) {passed : List UInt8}
    (hpassed : passed <+: s.log.buffered) :
    s.log.content ++ passed <+: initial ++ journalLines took := by
  rw [← h.content]
  exact (List.prefix_append_right_inj _).mpr hpassed

/-- The file and the writer never hold anything but what was taken. -/
lemma Journal.part (h : Journal initial s took phases) :
    s.log.content ++ s.log.buffered <+: initial ++ journalLines took := by
  have hrest : AtRest initial s took →
      s.log.content ++ s.log.buffered <+: initial ++ journalLines took := by
    rintro (hwhole | ⟨-, hcut⟩)
    · exact hwhole.part
    · exact hcut.part
  rcases howner : s.owner with _ | i
  · exact hrest (h.free howner).2.2
  · obtain ⟨line, -, -, hheld⟩ := h.held i howner
    generalize phases i = phase at hheld
    cases hheld with
    | locked settled => exact hrest settled
    | clean whole => exact whole.part
    | written whole last => exact whole.part
    | flushed whole buffered last => exact whole.part
    | committed whole buffered synced last => exact whole.part
    | failed cut => exact cut.part
    | poisonStored poisoned cut => exact cut.part
    | refused poisoned cut => exact cut.part

/-- A task that is not idle has the mutex. -/
lemma Journal.owns (h : Journal initial s took phases) (hi : phases i ≠ .idle) :
    s.owner = some i ∧ ∃ line, s.log.holder = some line ∧ (∀ j, j ≠ i → phases j = .idle) ∧
      Held initial s took i line (phases i) := by
  rcases howner : s.owner with _ | j
  · exact absurd ((h.free howner).2.1 i) hi
  · obtain ⟨line, hholder, hothers, hheld⟩ := h.held j howner
    have hij : i = j := by
      by_contra hne
      exact hi (hothers i hne)
    subst hij
    exact ⟨rfl, line, hholder, hothers, hheld⟩

/-- A task that is idle has not got it. -/
lemma Journal.not_owner (h : Journal initial s took phases) (hi : phases i = .idle) :
    s.owner ≠ some i := by
  intro howner
  obtain ⟨_, -, -, hheld⟩ := h.held i howner
  rw [hi] at hheld
  cases hheld

/-- What is durable stays durable. -/
lemma Durable.mono {event : AuditEvent} (h : Durable initial s took event)
    (hsynced : s.synced ≤ s'.synced) (later : List (ι × AuditEvent)) :
    Durable initial s' (took ++ later) event := by
  obtain ⟨before, taken, after, rfl, hline, hlength⟩ := h
  exact ⟨before, taken, after ++ later, by simp, hline, hlength.trans hsynced⟩

/-- The line of an event whose call returned `Ok` is on stable storage, behind other lines. -/
lemma Journal.stored {event : AuditEvent} (h : Journal initial s took phases)
    (hevent : (event, .ok ()) ∈ s.log.returned) :
    ∃ before : List (ι × AuditEvent),
      initial ++ journalLines before ++ event.line <+: s.stored := by
  obtain ⟨before, taken, after, rfl, hline, hlength⟩ := h.acknowledged event hevent
  refine ⟨before, ?_⟩
  have hstored : s.stored <+: initial ++ journalLines (before ++ taken :: after) :=
    ((List.take_prefix _ _).trans (List.prefix_append _ _)).trans h.part
  have hfront : initial ++ journalLines before ++ event.line <+:
      initial ++ journalLines (before ++ taken :: after) := by
    rw [← hline]
    exact ⟨journalLines after, by simp [journalLines]⟩
  refine List.prefix_of_prefix_length_le hfront hstored ?_
  rw [AuditDisk.stored, List.length_take, Nat.min_eq_left h.synced]
  exact hlength

/-- Nothing that the journal is about is different. -/
structure SameFile (s s' : AuditDisk ι) : Prop where
  content : s'.log.content = s.log.content
  buffered : s'.log.buffered = s.log.buffered
  poisoned : s'.log.poisoned = s.log.poisoned
  synced : s'.synced = s.synced

/-- A whole file stays whole when nothing of it changes. -/
lemma Whole.congr (h : Whole initial s took) (hsame : SameFile s s') : Whole initial s' took := by
  refine ⟨hsame.poisoned.trans h.poisoned, ?_⟩
  rw [hsame.content, hsame.buffered]
  exact h.content

/-- A cut file stays cut when nothing of it changes. -/
lemma CutOff.congr (h : CutOff initial s took) (hsame : SameFile s s') :
    CutOff initial s' took := by
  refine ⟨hsame.buffered.trans h.buffered, ?_⟩
  rw [hsame.content]
  exact h.content

/-- A file at rest stays so when nothing of it changes. -/
lemma AtRest.congr (h : AtRest initial s took) (hsame : SameFile s s') :
    AtRest initial s' took := by
  rcases h with hwhole | ⟨hpoisoned, hcut⟩
  · exact .whole (hwhole.congr hsame)
  · exact .cut (hsame.poisoned.trans hpoisoned) (hcut.congr hsame)

/-- What holds under the mutex holds on when nothing of the file changes. -/
lemma Held.congr {phase : Phase} (h : Held initial s took i line phase) (hsame : SameFile s s') :
    Held initial s' took i line phase := by
  cases h with
  | locked settled => exact .locked (settled.congr hsame)
  | clean whole => exact .clean (whole.congr hsame)
  | written whole last => exact .written (whole.congr hsame) last
  | flushed whole buffered last =>
      exact .flushed (whole.congr hsame) (hsame.buffered.trans buffered) last
  | committed whole buffered synced last =>
      refine .committed (whole.congr hsame) (hsame.buffered.trans buffered) ?_ last
      rw [hsame.synced, hsame.content]
      exact synced
  | failed cut => exact .failed (cut.congr hsame)
  | poisonStored poisoned cut =>
      exact .poisonStored (hsame.poisoned.trans poisoned) (cut.congr hsame)
  | refused poisoned cut => exact .refused (hsame.poisoned.trans poisoned) (cut.congr hsame)

/-! ### One call -/

section Call

variable [DecidableEq ι] {maxEventBytes : Nat} {event : AuditEvent}

/-- The task with the mutex goes on. -/
lemma Journal.advance (h : Journal initial s took phases) {later : List (ι × AuditEvent)}
    {phase : Phase} (howner : s'.owner = some i) (hholder : s'.log.holder = some line)
    (hothers : ∀ j, j ≠ i → phases j = .idle)
    (hheld : Held initial s' (took ++ later) i line phase)
    (hsynced : s.synced ≤ s'.synced ∧ s'.synced ≤ s'.log.content.length)
    (hreturned : s'.log.returned = s.log.returned) :
    Journal initial s' (took ++ later) (Function.update phases i phase) := by
  refine ⟨?_, ?_, hsynced.2, ?_⟩
  · intro hfree
    rw [howner] at hfree
    cases hfree
  · intro j hj
    rw [howner] at hj
    cases hj
    refine ⟨line, hholder, ?_, ?_⟩
    · intro j hj
      rw [Function.update_of_ne hj]
      exact hothers j hj
    · rw [Function.update_self]
      exact hheld
  · intro event hevent
    rw [hreturned] at hevent
    exact (h.acknowledged event hevent).mono hsynced.1 later

/-- The task with the mutex gives it back. -/
lemma Journal.settle (h : Journal initial s took phases) (howner : s'.owner = none)
    (hholder : s'.log.holder = none) (hothers : ∀ j, j ≠ i → phases j = .idle)
    (hrest : AtRest initial s' took) (hsynced : s'.synced = s.synced)
    (hcontent : s'.log.content = s.log.content)
    (hreturned : ∀ event, (event, .ok ()) ∈ s'.log.returned →
      (event, .ok ()) ∈ s.log.returned ∨ Durable initial s took event) :
    Journal initial s' took (Function.update phases i .idle) := by
  refine ⟨fun _ => ⟨hholder, ?_, hrest⟩, ?_, ?_, ?_⟩
  · intro j
    by_cases hj : j = i
    · subst hj
      exact Function.update_self _ _ _
    · rw [Function.update_of_ne hj]
      exact hothers j hj
  · intro j hj
    rw [howner] at hj
    cases hj
  · rw [hsynced, hcontent]
    exact h.synced
  · intro event hevent
    have hdurable : Durable initial s took event :=
      (hreturned event hevent).elim (h.acknowledged event) id
    simpa using hdurable.mono hsynced.ge []

omit [DecidableEq ι] in
/-- The task with the mutex stands where its phase says. -/
lemma Journal.at {phase : Phase} (h : Journal initial s took phases) (hphase : phases i = phase)
    (hbusy : phase ≠ .idle) :
    s.owner = some i ∧ ∃ line, s.log.holder = some line ∧ (∀ j, j ≠ i → phases j = .idle) ∧
      Held initial s took i line phase := by
  subst hphase
  exact h.owns hbusy

/-- A call that is refused for its size leaves the journal alone. -/
lemma Journal.tooLarge (h : Journal initial s took phases) (hphase : phases i = .idle)
    {bytes max : Nat} (hexec : AuditDisk.Exec i s
      ⟨.returns event (.error (.eventTooLarge bytes max)), ()⟩ s') :
    Journal initial s' took (Function.update phases i .idle) := by
  obtain ⟨log, hlog, rfl⟩ := hexec
  obtain rfl := hlog
  rw [← hphase, Function.update_eq_self]
  refine ⟨?_, ?_, h.synced, ?_⟩
  · intro hfree
    obtain ⟨hholder, hidle, hrest⟩ := h.free hfree
    exact ⟨hholder, hidle, hrest.congr ⟨rfl, rfl, rfl, rfl⟩⟩
  · intro j hj
    obtain ⟨line, hholder, hothers, hheld⟩ := h.held j hj
    exact ⟨line, hholder, hothers, hheld.congr ⟨rfl, rfl, rfl, rfl⟩⟩
  · intro event' hevent
    rcases List.mem_append.mp hevent with hbefore | hnow
    · exact h.acknowledged event' hbefore
    · cases List.mem_singleton.mp hnow

/-- The task with the mutex goes on without having taken a line. -/
lemma Journal.goOn (h : Journal initial s took phases) {phase : Phase} (howner : s'.owner = some i)
    (hholder : s'.log.holder = some line) (hothers : ∀ j, j ≠ i → phases j = .idle)
    (hheld : Held initial s' took i line phase)
    (hsynced : s.synced ≤ s'.synced ∧ s'.synced ≤ s'.log.content.length)
    (hreturned : s'.log.returned = s.log.returned) :
    Journal initial s' took (Function.update phases i phase) := by
  have hadvance : Journal initial s' (took ++ []) (Function.update phases i phase) :=
    h.advance howner hholder hothers (by rwa [List.append_nil]) hsynced hreturned
  rwa [List.append_nil] at hadvance

/-- The mutex goes to a task when nobody has it. -/
lemma Journal.lock {r : (WriterCall.lock line).Answer} (h : Journal initial s took phases)
    (hexec : AuditDisk.Exec i s ⟨.lock line, r⟩ s') :
    Journal initial s' took (Function.update phases i (.locked line)) := by
  obtain ⟨log, ⟨hholder, rfl⟩, rfl⟩ := hexec
  have howner : s.owner = none := by
    by_contra hne
    obtain ⟨j, hj⟩ := Option.ne_none_iff_exists'.mp hne
    obtain ⟨_, hsome, -⟩ := h.held j hj
    rw [hholder] at hsome
    cases hsome
  obtain ⟨-, hidle, hrest⟩ := h.free howner
  exact h.goOn rfl rfl (fun j _ => hidle j) (.locked (hrest.congr ⟨rfl, rfl, rfl, rfl⟩))
    ⟨le_rfl, h.synced⟩ rfl

/-- The flag says whether the file holds all that was taken. -/
lemma Journal.loadPoisoned {poisoned : Bool} (h : Journal initial s took phases)
    (hphase : phases i = .locked line)
    (hexec : AuditDisk.Exec i s ⟨.loadPoisoned, poisoned⟩ s') :
    Journal initial s' took
      (Function.update phases i ((Phase.locked line).observe ⟨.loadPoisoned, poisoned⟩)) := by
  obtain ⟨howner, line', hholder, hothers, hheld⟩ := h.at hphase (by rintro ⟨⟩)
  obtain ⟨log, ⟨rfl, rfl⟩, rfl⟩ := hexec
  cases hheld with
  | locked settled =>
      refine h.goOn howner hholder hothers ?_ ⟨le_rfl, h.synced⟩ rfl
      rcases settled with hwhole | ⟨hpoisoned, hcut⟩
      · rw [hwhole.poisoned]
        exact .clean (hwhole.congr ⟨rfl, rfl, rfl, rfl⟩)
      · rw [hpoisoned]
        exact .refused hpoisoned (hcut.congr ⟨rfl, rfl, rfl, rfl⟩)

/-- The writer takes a line, of which a failed write leaves a cut in the file. -/
lemma Journal.writeAll {r : (WriterCall.writeAll line).Answer} (h : Journal initial s took phases)
    (hphase : phases i = .clean line) (hline : event.line = line)
    (hexec : AuditDisk.Exec i s ⟨.writeAll line, r⟩ s') :
    Journal initial s' (took ++ [(i, event)])
      (Function.update phases i ((Phase.clean line).observe ⟨.writeAll line, r⟩)) := by
  obtain ⟨howner, line', hholder, hothers, hheld⟩ := h.at hphase (by rintro ⟨⟩)
  have hlines : journalLines (took ++ [(i, event)]) = journalLines took ++ line := by
    rw [journalLines_append, ← hline]
    simp [journalLines]
  obtain ⟨log, hlog, rfl⟩ := hexec
  cases hheld with
  | clean whole =>
      have hwhole : s.log.content ++ (s.log.buffered ++ line) =
          initial ++ journalLines (took ++ [(i, event)]) := by
        rw [hlines, ← List.append_assoc, whole.content, List.append_assoc]
      rcases r with error | _
      · obtain ⟨passed, hpassed, rfl⟩ := hlog
        refine h.advance howner hholder hothers (.failed ⟨rfl, ?_⟩) ⟨le_rfl, ?_⟩ rfl
        · rw [← hwhole]
          exact (List.prefix_append_right_inj _).mpr hpassed
        · exact h.synced.trans (List.prefix_append _ _).length_le
      · obtain ⟨passed, rest, hsplit, rfl⟩ := hlog
        refine h.advance howner hholder hothers
          (.written ⟨whole.poisoned, ?_⟩ ⟨took, event, rfl, hline⟩) ⟨le_rfl, ?_⟩ rfl
        · rw [← hwhole, hsplit, List.append_assoc]
        · exact h.synced.trans (List.prefix_append _ _).length_le

/-- What the writer held goes to the file, or a part of it when the flush fails. -/
lemma Journal.flush {r : WriterCall.flush.Answer} (h : Journal initial s took phases)
    (hphase : phases i = .written line) (hexec : AuditDisk.Exec i s ⟨.flush, r⟩ s') :
    Journal initial s' took
      (Function.update phases i ((Phase.written line).observe ⟨.flush, r⟩)) := by
  obtain ⟨howner, line', hholder, hothers, hheld⟩ := h.at hphase (by rintro ⟨⟩)
  obtain ⟨log, hlog, rfl⟩ := hexec
  cases hheld with
  | written whole last =>
      rcases r with error | _
      · obtain ⟨passed, hpassed, rfl⟩ := hlog
        exact h.goOn howner hholder hothers (.failed ⟨rfl, whole.cutOff hpassed⟩)
          ⟨le_rfl, h.synced.trans (List.prefix_append _ _).length_le⟩ rfl
      · obtain rfl := hlog
        refine h.goOn howner hholder hothers (.flushed ⟨whole.poisoned, ?_⟩ rfl last)
          ⟨le_rfl, h.synced.trans (List.prefix_append _ _).length_le⟩ rfl
        exact (List.append_nil _).trans whole.content

/-- The file goes to stable storage, or the commit fails. -/
lemma Journal.commit {r : WriterCall.commit.Answer} (h : Journal initial s took phases)
    (hphase : phases i = .flushed line) (hexec : AuditDisk.Exec i s ⟨.commit, r⟩ s') :
    Journal initial s' took
      (Function.update phases i ((Phase.flushed line).observe ⟨.commit, r⟩)) := by
  obtain ⟨howner, line', hholder, hothers, hheld⟩ := h.at hphase (by rintro ⟨⟩)
  obtain ⟨log, rfl, rfl⟩ := hexec
  cases hheld with
  | flushed whole buffered last =>
      rcases r with error | _
      · refine h.goOn howner hholder hothers (.failed ⟨buffered, ?_⟩) ⟨le_rfl, h.synced⟩ rfl
        exact (List.prefix_append _ _).trans whole.part
      · exact h.goOn howner hholder hothers
          (.committed ⟨whole.poisoned, whole.content⟩ buffered rfl last) ⟨h.synced, le_rfl⟩ rfl

/-- A failed call sets the flag. -/
lemma Journal.storePoisoned {r : WriterCall.storePoisoned.Answer}
    (h : Journal initial s took phases) (hphase : phases i = .failed line)
    (hexec : AuditDisk.Exec i s ⟨.storePoisoned, r⟩ s') :
    Journal initial s' took (Function.update phases i (.poisonStored line)) := by
  obtain ⟨howner, line', hholder, hothers, hheld⟩ := h.at hphase (by rintro ⟨⟩)
  obtain ⟨log, rfl, rfl⟩ := hexec
  cases hheld with
  | failed cut =>
      exact h.goOn howner hholder hothers (.poisonStored rfl ⟨cut.buffered, cut.content⟩)
        ⟨le_rfl, h.synced⟩ rfl

/-- A call returns `Ok` with its line on stable storage. -/
lemma Journal.returnsOk (h : Journal initial s took phases) (hphase : phases i = .committed line)
    (hline : event.line = line)
    (hexec : AuditDisk.Exec i s ⟨.returns event (.ok ()), ()⟩ s') :
    Journal initial s' took (Function.update phases i .idle) := by
  obtain ⟨howner, line', hholder, hothers, hheld⟩ := h.at hphase (by rintro ⟨⟩)
  obtain ⟨log, rfl, rfl⟩ := hexec
  cases hheld with
  | committed whole buffered synced last =>
      refine h.settle rfl rfl hothers (.whole ⟨whole.poisoned, whole.content⟩) rfl rfl ?_
      intro acknowledged hmem
      rcases List.mem_append.mp hmem with hbefore | hnow
      · exact .inl hbefore
      · cases List.mem_singleton.mp hnow
        obtain ⟨before, taken, rfl, hlast⟩ := last
        refine .inr ⟨before, (i, taken), [], rfl, hlast.trans hline.symm, ?_⟩
        have hcontent := whole.content
        rw [buffered, List.append_nil, journalLines_append] at hcontent
        rw [synced, hcontent, hline, ← hlast]
        simp [journalLines]

/-- A call of a poisoned writer gives the mutex back with its error. -/
lemma Journal.returnsError {error : AuditError} {phase : Phase}
    (h : Journal initial s took phases) (hphase : phases i = phase)
    (hpoisoned : phase = .poisonStored line ∨ phase = .refused line)
    (herror : error = .write ∨ error = .poisoned)
    (hexec : AuditDisk.Exec i s ⟨.returns event (.error error), ()⟩ s') :
    Journal initial s' took (Function.update phases i .idle) := by
  have hbusy : phase ≠ .idle := by
    rcases hpoisoned with rfl | rfl
    · rintro ⟨⟩
    · rintro ⟨⟩
  obtain ⟨howner, line', hholder, hothers, hheld⟩ := h.at hphase hbusy
  have hcut : s.log.poisoned = true ∧ CutOff initial s took := by
    rcases hpoisoned with rfl | rfl
    · cases hheld with
      | poisonStored poisoned cut => exact ⟨poisoned, cut⟩
    · cases hheld with
      | refused poisoned cut => exact ⟨poisoned, cut⟩
  obtain ⟨log, hlog, rfl⟩ := hexec
  have hreturned : ∀ acknowledged, (acknowledged, .ok ()) ∈
      s.log.returned ++ [(event, .error error)] → (acknowledged, .ok ()) ∈ s.log.returned := by
    intro acknowledged hmem
    simpa using hmem
  rcases herror with rfl | rfl
  · obtain rfl := hlog
    exact h.settle rfl rfl hothers (.cut hcut.1 ⟨hcut.2.buffered, hcut.2.content⟩) rfl rfl
      fun acknowledged hmem => .inl (hreturned acknowledged hmem)
  · obtain rfl := hlog
    exact h.settle rfl rfl hothers (.cut hcut.1 ⟨hcut.2.buffered, hcut.2.content⟩) rfl rfl
      fun acknowledged hmem => .inl (hreturned acknowledged hmem)

/-- **Every call** keeps the journal; a line is taken by `writer.write_all`. -/
theorem Journal.call {op : WriterCall} {r : op.Answer} (h : Journal initial s took phases)
    (hready : (phases i).Ready maxEventBytes op) (hwrites : op.Writes maxEventBytes event)
    (hexec : AuditDisk.Exec i s ⟨op, r⟩ s') :
    ∃ later, Journal initial s' (took ++ later)
        (Function.update phases i ((phases i).observe ⟨op, r⟩)) ∧
      (later = [] ∨ later = [(i, event)] ∧ (∃ line, phases i = .clean line) ∧
        ((phases i).observe ⟨op, r⟩).Took) := by
  have hkeeps : ∀ {phase}, Journal initial s' took (Function.update phases i phase) →
      ∃ later, Journal initial s' (took ++ later) (Function.update phases i phase) ∧
        (later = [] ∨ later = [(i, event)] ∧ (∃ line, phases i = .clean line) ∧ phase.Took) :=
    fun h => ⟨[], by rwa [List.append_nil], .inl rfl⟩
  generalize hphase : phases i = phase at hready hkeeps ⊢
  cases hready with
  | tooLarge size =>
      obtain ⟨rfl, -⟩ := serializeEvent_eq_error size
      exact hkeeps (h.tooLarge hphase hexec)
  | lock line => exact hkeeps (h.lock hexec)
  | loadPoisoned line => exact hkeeps (h.loadPoisoned hphase hexec)
  | writeAll line =>
      have hline : event.line = line := (serializeEvent_eq_ok hwrites).symm
      refine ⟨[(i, event)], h.writeAll hphase hline hexec, .inr ⟨rfl, ⟨line, rfl⟩, ?_⟩⟩
      rcases r with error | _
      · trivial
      · trivial
  | flush line => exact hkeeps (h.flush hphase hexec)
  | commit line => exact hkeeps (h.commit hphase hexec)
  | storePoisoned line => exact hkeeps (h.storePoisoned hphase hexec)
  | ok size => exact hkeeps (h.returnsOk hphase (serializeEvent_eq_ok size).symm hexec)
  | write size => exact hkeeps (h.returnsError hphase (.inl rfl) (.inl rfl) hexec)
  | poisoned size => exact hkeeps (h.returnsError hphase (.inr rfl) (.inr rfl) hexec)

/-- A task that is idle gives nothing back. -/
lemma Journal.release_idle (h : Journal initial s took phases) (hi : phases i = .idle) :
    s.release i = s :=
  if_neg (h.not_owner hi)

/-- **A task that is dropped** in an awaited call keeps the journal. -/
theorem Journal.drop {op : WriterCall} (h : Journal initial s took phases)
    (hready : (phases i).Ready maxEventBytes op) (hop : op.Awaited) :
    Journal initial (s.release i) took (Function.update phases i .idle) := by
  have hgives : s.owner = some i → AtRest initial s took → (∀ j, j ≠ i → phases j = .idle) →
      Journal initial (s.release i) took (Function.update phases i .idle) := by
    intro howner hrest hothers
    have hrelease : s.release i = { s with
        log := { s.log with holder := none }
        owner := none } := if_pos howner
    rw [hrelease]
    exact h.settle rfl rfl hothers (hrest.congr ⟨rfl, rfl, rfl, rfl⟩) rfl rfl fun _ => .inl
  generalize hphase : phases i = phase at hready
  cases hready with
  | lock line =>
      rw [h.release_idle hphase, ← hphase, Function.update_eq_self]
      exact h
  | writeAll line =>
      obtain ⟨howner, line', -, hothers, hheld⟩ := h.at hphase nofun
      cases hheld with
      | clean whole => exact hgives howner (.whole whole) hothers
  | flush line =>
      obtain ⟨howner, line', -, hothers, hheld⟩ := h.at hphase nofun
      cases hheld with
      | written whole last => exact hgives howner (.whole whole) hothers
  | commit line =>
      obtain ⟨howner, line', -, hothers, hheld⟩ := h.at hphase nofun
      cases hheld with
      | flushed whole buffered last => exact hgives howner (.whole whole) hothers
  | tooLarge size => exact hop.elim
  | loadPoisoned line => exact hop.elim
  | storePoisoned line => exact hop.elim
  | ok size => exact hop.elim
  | write size => exact hop.elim
  | poisoned size => exact hop.elim

end Call

end Journal

end Custode
