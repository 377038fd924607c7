import Custode.Http.Alarms
import Custode.System.Sizes

/-!
# The gateway stops only for a fault

A failed append closes the gateway for good: the flag stays up, the writer refuses every further
event, response streams are cut, and the serving task ends with the first fatal error. All of this
starts with something that failed outside the gateway.

* `runUntilServerStops` — the serving task.
* `fatal_errors_have_causes` — a party reports a fatal error only for an answer of its own, and what
  is raised by any party was raised first for a fault.
* `only_faults_stop` — when no event can be too large for the log, only the disk and the counter of
  identities can stop the gateway: no request, no answer of the upstream and no lost handler can.
-/

namespace Custode

open Found Found.Text Found.Json Program

/-! ## The serving task -/

/-- The errors that end the serving, once the gateway serves.
Source: `http.rs` `ServeError` -/
inductive ServeError where
  | gateway (error : GatewayError)
  | server (error : IoErrorKind)
  deriving DecidableEq

/-- Runs a server until it stops or a fatal error arrives. This is one look at the two futures, the
server's first. The channel stays open for as long as the server runs, which holds a sender.
Source: `http.rs` `run_until_server_stops` -/
def runUntilServerStops (server : Option (Except IoErrorKind Unit)) (fatal : List GatewayError) :
    Option (Except ServeError Unit) :=
  match server with
  | some (.error error) => some (.error (.server error))
  | some (.ok ()) => some (.ok ())
  | none => fatal.head?.map fun error => .error (.gateway error)

/-- The fatal errors that were sent, in their order. -/
def fatalErrors {ι : Type} (turns : List (Turn (Party ι) LowCall.Answer)) : List GatewayError :=
  turns.filterMap fun
    | .call _ ⟨.port (.sendFatal error), _⟩ => some error
    | _ => none

/-! ## What failed, and what was raised -/

/-- A call of the writer that the file did not carry out. -/
inductive WriterFailed : Event LowCall.Answer → Prop
  | writeAll (serialized : List UInt8) (kind : IoErrorKind) :
      WriterFailed ⟨.writer (.writeAll serialized), .error kind⟩
  | flush (kind : IoErrorKind) : WriterFailed ⟨.writer .flush, .error kind⟩
  | commit (kind : IoErrorKind) : WriterFailed ⟨.writer .commit, .error kind⟩

/-- What a party saw when it failed to append the event. -/
def AuditCause (maxEventBytes : Nat) (history : List (Event LowCall.Answer)) (event : AuditEvent) :
    AuditError → Prop
  | .write => ∃ e ∈ history, WriterFailed e
  | .poisoned => ⟨.writer .loadPoisoned, true⟩ ∈ history
  | .eventTooLarge bytes max =>
      serializeEvent event maxEventBytes = .error (.eventTooLarge bytes max)

/-- An append of the party's own that failed: it returned the error, for a cause that the party
saw. -/
structure AppendFailed (maxEventBytes : Nat) (history : List (Event LowCall.Answer))
    (event : AuditEvent) (error : AuditError) : Prop where
  returned : ⟨.writer (.returns event (.error error)), ()⟩ ∈ history
  cause : AuditCause maxEventBytes history event error

/-- What a party saw when it reported a fatal error. -/
def FatalCause (maxEventBytes : Nat) (history : List (Event LowCall.Answer)) :
    GatewayError → Prop
  | .audit error => ∃ event, AppendFailed maxEventBytes history event error
  | .auditUnavailable => ⟨.port .loadAuditFailed, true⟩ ∈ history
  | .requestId error => ⟨.port .nextRequestId, .error error⟩ ∈ history
  | .header _ | .responseBuild => False

section Alarms

variable {ι : Type}

/-- Something failed in the life: the disk, the counter of identities, or the limit on events. -/
inductive Faulted (life : Life ι) (f : DeploymentState ι) : Prop
  | disk {p : Party ι} {e : Event LowCall.Answer} (mem : e ∈ f.history p) (failed : WriterFailed e)
  | exhausted (last : u64Max ≤ f.shared.lastAllocated)
  | tooLarge {event : AuditEvent} {bytes max : Nat}
      (returned : (event, .error (.eventTooLarge bytes max)) ∈ f.shared.disk.log.returned)
      (large : serializeEvent event life.maxEventBytes.get = .error (.eventTooLarge bytes max))

/-- The ways in which the gateway refuses to go on. -/
inductive Alarm (turns : List (Turn (Party ι) LowCall.Answer)) (f : DeploymentState ι) : Prop
  /-- Every later request is refused, and so is every send. -/
  | flag (raised : f.shared.gateway.auditFailed = true)
  /-- Every later append is refused. -/
  | poisoned (stored : f.shared.disk.log.poisoned = true)
  /-- An append was refused. -/
  | refused {event : AuditEvent} {error : AuditError}
      (returned : (event, .error error) ∈ f.shared.disk.log.returned)
  /-- A response stream was cut. -/
  | cut {p : Party ι} {op : Call} {r : op.Answer} (mem : ⟨.port op, r⟩ ∈ f.history p)
      (interrupt : interruptOf ⟨op, r⟩ = some .auditUnavailable)
  /-- The serving ends, though the server does not. -/
  | stops {error : GatewayError}
      (result : runUntilServerStops none (fatalErrors turns) = some (.error (.gateway error)))

end Alarms

/-! ## One append -/

/-- Remembers what a party was answered below the ports. The writer is poisoned for a failed call.
-/
def poisonMonitor : Monitor LowCall.Answer (List (Event LowCall.Answer)) :=
  Monitor.recorder fun tr op => op = .writer .storePoisoned → ∃ e ∈ tr, WriterFailed e

/-- The writer is not poisoned by any other call. -/
lemma poisonMonitor_free {op : LowCall} (hop : op ≠ .writer .storePoisoned)
    (tr : List (Event LowCall.Answer)) : poisonMonitor.Ready tr op :=
  fun heq => (hop heq).elim

/-- An append fails for what it was answered. -/
lemma safe_poison_append (maxEventBytes : AuditEventBytes) (event : AuditEvent)
    (tr : List (Event LowCall.Answer)) :
    poisonMonitor.Safe (adapter maxEventBytes (.appendEvent event))
      (fun result tr' => ∀ error, result = .error error →
        AppendFailed maxEventBytes.get tr' event error) tr := by
  have hnow : ∀ (tr : List (Event LowCall.Answer)) (e : Event LowCall.Answer), e ∈ tr ++ [e] :=
    fun tr e => List.mem_append_right _ (List.mem_singleton_self _)
  show poisonMonitor.Safe ((writeEvent maxEventBytes.get event).implement _) _ tr
  rw [writeEvent]
  cases hsize : serializeEvent event maxEventBytes.get with
  | error error =>
      obtain ⟨rfl, -⟩ := serializeEvent_eq_error hsize
      refine ⟨poisonMonitor_free (by simp) _, fun _ => ?_⟩
      rintro _ ⟨⟩
      exact ⟨hnow _ _, hsize⟩
  | ok line =>
      have hfails : ∀ tr, (∃ e ∈ tr, WriterFailed e) →
          poisonMonitor.Safe (Program.implement (fun op => perform (LowCall.writer op)) (do
            perform WriterCall.storePoisoned
            perform (WriterCall.returns event (.error .write))
            return (.error .write : Except AuditError Unit)))
          (fun result tr' => ∀ error, result = .error error →
            AppendFailed maxEventBytes.get tr' event error) tr := by
        rintro tr ⟨e, hmem, hfailed⟩
        refine ⟨fun _ => ⟨e, hmem, hfailed⟩, fun _ => ⟨poisonMonitor_free (by simp) _, fun _ => ?_⟩⟩
        rintro _ ⟨⟩
        exact ⟨hnow _ _, e, List.mem_append_left _ (List.mem_append_left _ hmem), hfailed⟩
      have hlast : ∀ (tr : List (Event LowCall.Answer)) e, WriterFailed e →
          ∃ e' ∈ tr ++ [e], WriterFailed e' := fun tr e hfailed => ⟨e, hnow tr e, hfailed⟩
      refine ⟨poisonMonitor_free (by simp) _, fun _ => ⟨poisonMonitor_free (by simp) _, ?_⟩⟩
      rintro (_ | _)
      · refine ⟨poisonMonitor_free (by simp) _, ?_⟩
        rintro (kind | _)
        · exact hfails _ (hlast _ _ (.writeAll line kind))
        · refine ⟨poisonMonitor_free (by simp) _, ?_⟩
          rintro (kind | _)
          · exact hfails _ (hlast _ _ (.flush kind))
          · refine ⟨poisonMonitor_free (by simp) _, ?_⟩
            rintro (kind | _)
            · exact hfails _ (hlast _ _ (.commit kind))
            · refine ⟨poisonMonitor_free (by simp) _, fun _ => ?_⟩
              rintro _ ⟨⟩
      · refine ⟨poisonMonitor_free (by simp) _, fun _ => ?_⟩
        rintro _ ⟨⟩
        exact ⟨hnow _ _, List.mem_append_left _ (hnow _ _)⟩

/-! ## What was carried out -/

section Carried

variable {maxEventBytes : AuditEventBytes} {tr : List (Event Call.Answer)}
  {low low' : List (Event LowCall.Answer)}

/-- A failed append stays one as the history grows. -/
lemma AppendFailed.mono {maxEventBytes : Nat} {event : AuditEvent} {error : AuditError}
    (h : AppendFailed maxEventBytes low event error) (hsub : low ⊆ low') :
    AppendFailed maxEventBytes low' event error := by
  refine ⟨hsub h.returned, ?_⟩
  have hcause := h.cause
  cases error with
  | write =>
      obtain ⟨e, hmem, hfailed⟩ := hcause
      exact ⟨e, hsub hmem, hfailed⟩
  | poisoned => exact hsub hcause
  | eventTooLarge bytes max => exact hcause

/-- An append that failed was carried out, and failed for what it was answered. -/
lemma cause_of_failed (h : Carried (adapter maxEventBytes) tr low) {event : AuditEvent}
    {error : AuditError} (hmem : ⟨.appendEvent event, .error error⟩ ∈ tr) :
    AppendFailed maxEventBytes.get low event error := by
  induction h with
  | nil => cases hmem
  | @cons op r done tr low call rest ih =>
      rcases List.mem_cons.mp hmem with hnow | hmem
      · cases hnow
        have hcause := (safe_poison_append maxEventBytes event []).returned call error rfl
        rw [poisonMonitor, Monitor.after_recorder, List.nil_append] at hcause
        exact hcause.mono (List.subset_append_left done low)
      · exact (ih hmem).mono (List.subset_append_right done low)

/-- What an error was reported for was carried out. -/
lemma fatalCause_of_reported (h : Carried (adapter maxEventBytes) tr low) {error : GatewayError}
    (hreported : Reported tr error) : FatalCause maxEventBytes.get low error := by
  cases error with
  | audit error =>
      obtain ⟨event, hmem⟩ := hreported
      exact ⟨event, cause_of_failed h hmem⟩
  | auditUnavailable => exact mem_port_of_carried h trivial hreported
  | requestId error => exact mem_port_of_carried h trivial hreported
  | header error => exact hreported.elim
  | responseBuild => exact hreported.elim

/-- What a party saw it has seen ever after. -/
lemma FatalCause.mono {maxEventBytes : Nat} {error : GatewayError}
    (h : FatalCause maxEventBytes low error) (hsub : low ⊆ low') :
    FatalCause maxEventBytes low' error := by
  cases error with
  | audit error =>
      obtain ⟨event, hfailed⟩ := h
      exact ⟨event, hfailed.mono hsub⟩
  | auditUnavailable => exact hsub h
  | requestId error => exact hsub h
  | header error => exact h.elim
  | responseBuild => exact h.elim

end Carried

/-! ## Who raises what -/

/-- Only one call poisons the writer. -/
lemma LogFile.Exec.poisoned {s s' : LogFile} {op : WriterCall} {r : op.Answer}
    (h : LogFile.Exec s ⟨op, r⟩ s') : s'.poisoned = s.poisoned ∨ op = .storePoisoned := by
  cases op with
  | storePoisoned => exact .inr rfl
  | writeAll serialized =>
      rcases r with kind | _
      · obtain ⟨passed, -, rfl⟩ := h
        exact .inl rfl
      · obtain ⟨passed, rest, -, rfl⟩ := h
        exact .inl rfl
  | flush =>
      rcases r with kind | _
      · obtain ⟨passed, -, rfl⟩ := h
        exact .inl rfl
      · obtain rfl := h
        exact .inl rfl
  | lock serialized =>
      obtain ⟨-, rfl⟩ := h
      exact .inl rfl
  | loadPoisoned =>
      obtain ⟨-, rfl⟩ := h
      exact .inl rfl
  | commit | returns event result =>
      obtain rfl := h
      exact .inl rfl

section Deployment

variable {ι : Type} [DecidableEq ι] {X : Crates} {time : Humantime} {life : Life ι}
  {turns : List (Turn (Party ι) LowCall.Answer)} {f : DeploymentState ι}

omit [DecidableEq ι] in
/-- Every party of the deployment poisons the writer for a failed call only. -/
lemma safe_deployment_poison (p : Party ι) :
    poisonMonitor.Safe ((gatewayPrograms X life.config life.requests p).implement
      (adapter life.maxEventBytes)) (fun _ _ => True) [] := by
  refine Monitor.safe_implement (fun op tr => ?_) _ _
  rcases op.appends_or with ⟨event, rfl⟩ | hop
  · exact (safe_poison_append _ event tr).mono fun _ _ _ => trivial
  · rw [adapter_port hop]
    exact ⟨nofun, fun _ => trivial⟩

/-- The writer is poisoned, or was seen to be, only after a call failed. -/
lemma failed_of_poisoned (hreach : DeploymentReach X time life turns f)
    (h : f.shared.disk.log.poisoned = true ∨
      ∃ p, ∃ e ∈ f.history p, e = ⟨.writer .loadPoisoned, true⟩) :
    ∃ p, ∃ e ∈ f.history p, WriterFailed e := by
  refine Reach.raised (U := fun s : Site ι => s.disk.log.poisoned = true)
    safe_deployment_poison Bool.noConfusion ?_ ?_ ?_ hreach h
  · intro p s op r s' hexec hup
    cases op with
    | port op =>
        rw [hexec.port.2] at hup
        exact .inl hup
    | writer op =>
        obtain ⟨disk, ⟨log, hlog, rfl⟩, rfl⟩ := hexec
        rcases hlog.poisoned with hsame | rfl
        · exact .inl (hsame.symm.trans hup)
        · exact .inr fun tr hready => hready rfl
  · rintro p s e s' hexec rfl
    obtain ⟨disk, ⟨log, hlog, -⟩, -⟩ := hexec
    exact hlog.1.symm
  · intro p s hup
    rw [← hup]
    show s.disk.log.poisoned = (s.disk.release p).log.poisoned
    rw [AuditDisk.release]
    split
    · rfl
    · rfl

omit [DecidableEq ι] in
/-- A party reports what it was answered, and raises the flag for an append of its own. -/
lemma safe_alarm_gatewayPrograms (p : Party ι) :
    alarmMonitor.Safe (gatewayPrograms X life.config life.requests p) (fun _ _ => True) [] := by
  cases p with
  | handler i => exact safe_alarm_proxy _
  | task i => exact ⟨trivial, fun task => safe_alarm_responseTask task.1 task.2⟩

variable {turns' : List (Turn (Party ι) Call.Answer)} {c : GatewayState ι}
  {doing : Party ι → List (Event LowCall.Answer)}

/-- The flag is up, or a party saw that it is, only after an append failed. -/
lemma failed_of_flag (hgateway : GatewayReach X life.config life.requests turns' c)
    (h : c.shared.auditFailed = true ∨ ∃ p, ∃ e ∈ c.history p,
      e = ⟨.loadAuditFailed, true⟩ ∨ interruptOf e = some .auditUnavailable) :
    ∃ p event error, ⟨.appendEvent event, .error error⟩ ∈ c.history p := by
  obtain ⟨p, _, hmem, event, error, rfl⟩ : ∃ p, ∃ e ∈ c.history p, ∃ event error,
      e = ⟨.appendEvent event, .error error⟩ := by
    refine Reach.raised (U := fun s : Shared ι => s.auditFailed = true)
      safe_alarm_gatewayPrograms Bool.noConfusion ?_ ?_ (fun _ _ hup => hup) hgateway h
    · intro p s op r s' hexec hup
      rcases hexec.effect.flag with hsame | ⟨rfl, -⟩
      · exact .inl (hsame.symm.trans hup)
      · refine .inr ?_
        rintro tr ⟨error, event, hmem⟩
        exact ⟨_, hmem, event, error, rfl⟩
    · rintro p s e s' hexec (rfl | hinterrupt)
      · exact hexec.1.symm
      · exact hexec.interrupted hinterrupt
  exact ⟨p, event, error, hmem⟩

/-- The counter never goes back. -/
lemma Site.Exec.lastAllocated_le {runToken : RunToken} {p : Party ι}
    {s s' : Site ι} {e : Event LowCall.Answer} (h : Site.Exec runToken time p s e s') :
    s.lastAllocated ≤ s'.lastAllocated := by
  obtain ⟨op | op, r⟩ := e
  · cases op with
    | nextRequestId =>
        rcases hincrement : SequentialRequestIds.increment s.lastAllocated with _ | next
        · simp only [Site.Exec, hincrement] at h
          exact le_of_eq (congrArg Site.lastAllocated h.2.symm)
        · simp only [Site.Exec, hincrement] at h
          obtain ⟨id, -, -, rfl⟩ := h
          obtain ⟨rfl, -⟩ := SequentialRequestIds.increment_eq_some_iff.mp hincrement
          exact Nat.le_succ _
    | now =>
        obtain ⟨-, rfl⟩ := h
        exact le_rfl
    | _ =>
        obtain ⟨gateway, -, rfl⟩ := h
        exact le_rfl
  · obtain ⟨disk, -, rfl⟩ := h
    exact le_rfl

/-- An identity is refused when none is left. -/
lemma Site.Exec.exhausted {runToken : RunToken} {p : Party ι} {s s' : Site ι}
    {error : RequestIdError}
    (h : Site.Exec runToken time p s ⟨.port .nextRequestId, .error error⟩ s') :
    u64Max ≤ s.lastAllocated := by
  rcases hincrement : SequentialRequestIds.increment s.lastAllocated with _ | next
  · exact SequentialRequestIds.increment_eq_none_iff.mp hincrement
  · simp only [Site.Exec, hincrement] at h
    obtain ⟨id, -, hok, -⟩ := h
    cases hok

/-- So it was in every history. -/
lemma exhausted_of_refused (hreach : DeploymentReach X time life turns f) {p : Party ι}
    {error : RequestIdError} (hmem : ⟨.port .nextRequestId, .error error⟩ ∈ f.history p) :
    u64Max ≤ f.shared.lastAllocated := by
  refine Reach.history_invariant (I := fun (s : Site ι) hist =>
    (∃ p error, ⟨.port .nextRequestId, .error error⟩ ∈ hist p) → u64Max ≤ s.lastAllocated)
    ?_ ?_ (fun _ _ _ hinv => hinv) hreach ⟨p, error, hmem⟩
  · rintro ⟨p, error, hmem⟩
    cases hmem
  · rintro s hist p e s' hinv hexec ⟨q, error, hmem⟩
    refine le_trans ?_ hexec.lastAllocated_le
    by_cases hqp : q = p
    · subst hqp
      rw [Function.update_self, List.mem_append, List.mem_singleton] at hmem
      rcases hmem with hmem | rfl
      · exact hinv ⟨q, error, hmem⟩
      · have hnow : Site.Exec life.runToken time q s ⟨.port .nextRequestId, .error error⟩ s' :=
          hexec
        exact hnow.exhausted
    · rw [Function.update_of_ne hqp] at hmem
      exact hinv ⟨q, error, hmem⟩

/-- The first fatal error that was sent is in the history of who sent it. -/
lemma sent_of_stops (hreach : DeploymentReach X time life turns f) {error : GatewayError}
    (h : runUntilServerStops none (fatalErrors turns) = some (.error (.gateway error))) :
    ∃ p, ⟨.port (.sendFatal error), ()⟩ ∈ f.history p := by
  simp only [runUntilServerStops, Option.map_eq_some_iff, Except.error.injEq,
    ServeError.gateway.injEq, exists_eq_right] at h
  obtain ⟨turn, hturn, hsent⟩ := List.mem_filterMap.mp (List.mem_of_head? h)
  split at hsent
  · cases hsent
    exact ⟨_, Reach.mem_history_of_turn hreach hturn⟩
  · cases hsent

/-- What a party reports was answered to it. -/
lemma reported_of_sent (hgateway : GatewayReach X life.config life.requests turns' c)
    (hmatches : Matches (adapter life.maxEventBytes) f c doing) {p : Party ι}
    {error : GatewayError} (hmem : ⟨.port (.sendFatal error), ()⟩ ∈ f.history p) :
    Reported (c.history p) error := by
  obtain ⟨low, part, hcarries, -⟩ := hmatches.party p
  obtain ⟨pre, post, hhistory, hready⟩ := (safe_alarm_gatewayPrograms p).ready_of_mem
    (Reach.runs hgateway p) (port_mem_of_carries hcarries hmem)
  rw [hhistory]
  exact Reported.mono hready (List.subset_append_left pre _)

omit [DecidableEq ι] in
/-- What was reported was carried out. -/
lemma cause_of_reported (hmatches : Matches (adapter life.maxEventBytes) f c doing) {p : Party ι}
    {error : GatewayError} (h : Reported (c.history p) error) :
    FatalCause life.maxEventBytes.get (f.history p) error := by
  obtain ⟨low, part, hcarries, -⟩ := hmatches.party p
  rw [hcarries.history]
  exact (fatalCause_of_reported hcarries.carried h).mono (List.subset_append_left low part)

/-- An append that failed comes from a failed call of the writer, unless its event was too large. -/
lemma failed_of_append (hreach : DeploymentReach X time life turns f)
    (hmatches : Matches (adapter life.maxEventBytes) f c doing) {p : Party ι} {event : AuditEvent}
    {error : AuditError} (hmem : ⟨.appendEvent event, .error error⟩ ∈ c.history p) :
    (∃ q, ∃ e ∈ f.history q, WriterFailed e) ∨ ∃ bytes max, error = .eventTooLarge bytes max := by
  obtain ⟨event', -, hcause⟩ : ∃ event', AppendFailed life.maxEventBytes.get (f.history p) event'
      error := cause_of_reported hmatches (show Reported (c.history p) (.audit error) from
        ⟨event, hmem⟩)
  cases error with
  | write =>
      obtain ⟨e, he, hfailed⟩ := hcause
      exact .inl ⟨p, e, he, hfailed⟩
  | poisoned => exact .inl (failed_of_poisoned hreach (.inr ⟨p, _, hcause, rfl⟩))
  | eventTooLarge bytes max => exact .inr ⟨bytes, max, rfl⟩

/-- An alarm comes from a failed call of the writer, a failed append or the last identity. -/
lemma failed_of_alarm (hreach : DeploymentReach X time life turns f)
    (hgateway : GatewayReach X life.config life.requests turns' c)
    (hmatches : Matches (adapter life.maxEventBytes) f c doing)
    (hcoupled : Coupled time life f.shared c doing) (h : Alarm turns f) :
    (∃ q, ∃ e ∈ f.history q, WriterFailed e) ∨ u64Max ≤ f.shared.lastAllocated ∨
      ∃ q event error, ⟨.appendEvent event, .error error⟩ ∈ c.history q := by
  cases h with
  | flag raised =>
      rw [hcoupled.gateway] at raised
      exact .inr (.inr (failed_of_flag hgateway (.inl raised)))
  | poisoned stored => exact .inl (failed_of_poisoned hreach (.inl stored))
  | @refused event error returned =>
      obtain ⟨q, hmem⟩ := (hcoupled.returned event (.error error)).mp returned
      exact .inr (.inr ⟨q, event, error, hmem⟩)
  | @cut p op r mem interrupt =>
      obtain ⟨low, part, hcarries, -⟩ := hmatches.party p
      have hmem := port_mem_of_carries hcarries mem
      exact .inr (.inr (failed_of_flag hgateway (.inr ⟨p, _, hmem, .inr interrupt⟩)))
  | @stops error result =>
      obtain ⟨p, hsent⟩ := sent_of_stops hreach result
      have hreported := reported_of_sent hgateway hmatches hsent
      cases error with
      | audit error =>
          obtain ⟨event, hmem⟩ := hreported
          exact .inr (.inr ⟨p, event, error, hmem⟩)
      | auditUnavailable =>
          exact .inr (.inr (failed_of_flag hgateway (.inr ⟨p, _, hreported, .inl rfl⟩)))
      | requestId error =>
          exact .inr (.inl (exhausted_of_refused hreach (cause_of_reported hmatches hreported)))
      | header error => exact hreported.elim
      | responseBuild => exact hreported.elim

end Deployment

/-! ## A write that fails -/

/-- The calls of an append whose write fails. -/
def failedAppendCalls (event : AuditEvent) (kind : IoErrorKind) : List (Event LowCall.Answer) :=
  [⟨.writer (.lock event.line), ()⟩, ⟨.writer .loadPoisoned, false⟩,
    ⟨.writer (.writeAll event.line), .error kind⟩, ⟨.writer .storePoisoned, ()⟩,
    ⟨.writer (.returns event (.error .write)), ()⟩]

section FailedWrite

variable {ι : Type} [DecidableEq ι] {X : Crates} {time : Humantime} {denial : AuditDenial}
  {requestId : RequestId} {timestamp : AuditTimestamp} {event : AuditEvent}

omit [DecidableEq ι] in
/-- An append whose write fails returns the failure. -/
lemma runs_failedAppend {maxEventBytes : AuditEventBytes} (kind : IoErrorKind)
    (hsize : serializeEvent event maxEventBytes.get = .ok event.line) :
    (adapter maxEventBytes (.appendEvent event)).Runs (failedAppendCalls event kind)
      (.ret (.error .write)) := by
  show ((writeEvent maxEventBytes.get event).implement _).Runs _ _
  rw [writeEvent, hsize]
  exact .step (.step (.step (.step (.step (.refl _)))))

/-- The write of the first line can fail, at any number of bytes: here, before the first. -/
lemma execs_failedAppend {s : Site ι} {runToken : RunToken} (p : Party ι) {initial : List UInt8}
    {synced : Nat} (hdisk : s.disk = .opened initial synced) (event : AuditEvent)
    (kind : IoErrorKind) :
    ∃ s', Arena.Execs (siteArena runToken time) p s (failedAppendCalls event kind) s' := by
  obtain ⟨gateway, lastAllocated, disk⟩ := s
  obtain rfl : disk = .opened initial synced := hdisk
  refine ⟨⟨gateway, lastAllocated, ⟨⟨initial ++ [], [], true, none, [(event, .error .write)]⟩, none,
    synced⟩⟩, ?_⟩
  refine .cons ⟨_, ⟨_, ⟨rfl, rfl⟩, rfl⟩, rfl⟩ ?_
  refine .cons ⟨_, ⟨_, ⟨rfl, rfl⟩, rfl⟩, rfl⟩ ?_
  refine .cons ⟨_, ⟨_, ⟨[], List.nil_prefix, rfl⟩, rfl⟩, rfl⟩ ?_
  refine .cons ⟨_, ⟨_, rfl, rfl⟩, rfl⟩ ?_
  exact .cons ⟨_, ⟨_, rfl, rfl⟩, rfl⟩ (.nil _)

/-- The handler of a denied request can fail to record it, and raises the flag. -/
lemma Life.reach_failedDenial (life : Life ι) (i : ι) (kind : IoErrorKind)
    (hdecided : targetDecision life.config (life.requests i).method (life.requests i).uri =
      some (.error denial))
    (hid : SequentialRequestIds.allocate life.runToken 0 = some requestId)
    (htime : time.Shows timestamp)
    (hevent : AuditEvent.forDenial X denial requestId none life.config.upstreamOrigin timestamp =
      some event) (hsize : serializeEvent event life.maxEventBytes.get = .ok event.line) :
    ∃ turns f, DeploymentReach X time life turns f ∧ f.shared.gateway.auditFailed = true := by
  obtain ⟨q, hfailed⟩ := runs_failedDenial hdecided hevent .write
  -- the run up to the flag
  have hsplit : (proxy X life.config (life.requests i)).Runs
      ((failedDenial requestId timestamp event .write).take 6 ++
        ⟨.notifyWaiters, ()⟩ :: [⟨.writeGate, ()⟩, ⟨.releaseWriteGate, ()⟩]) q := hfailed
  obtain ⟨k, hruns, -⟩ := hsplit.split
  have hfails : Carried (adapter life.maxEventBytes)
      [⟨.appendEvent event, .error .write⟩, ⟨.storeAuditFailed, ()⟩]
      (failedAppendCalls event kind ++ [⟨.port .storeAuditFailed, ()⟩]) :=
    .cons (runs_failedAppend kind hsize) (carried_port .storeAuditFailed trivial () .nil)
  have hcarried : Carried (adapter life.maxEventBytes)
      ((failedDenial requestId timestamp event .write).take 6)
      (deniedCalls requestId timestamp ++ (failedAppendCalls event kind ++
        [⟨.port .storeAuditFailed, ()⟩])) :=
    carried_port .loadAuditFailed trivial false <| carried_port .tryAcquireOwned trivial true <|
      carried_port .nextRequestId trivial (.ok requestId) <|
        carried_port .now trivial timestamp hfails
  obtain ⟨s, hdenied, hdisk, -⟩ := execs_denied life i hid htime
  obtain ⟨s', happend⟩ := execs_failedAppend (Party.handler i) hdisk event kind
  have hstore : Arena.Execs (siteArena life.runToken time) (Party.handler i) s'
      [⟨.port .storeAuditFailed, ()⟩]
      { s' with gateway := { s'.gateway with auditFailed := true } } :=
    .cons ⟨_, rfl, rfl⟩ (.nil _)
  have hstart : DeploymentReach X time life [] (.start _ _) := .start
  obtain ⟨f, hreach, hshared, -⟩ := Reach.call_run (i := Party.handler i) hstart rfl
    (hruns.implement hcarried) (hdenied.append (happend.append hstore))
  refine ⟨_, f, hreach, ?_⟩
  rw [hshared]

end FailedWrite

/-- The denial of a `CONNECT` request cannot be recorded. -/
lemma reach_failedConnect : ∃ turns f,
    DeploymentReach Reference.crates Reference.humantime connectLife turns f ∧
      f.shared.gateway.auditFailed = true := by
  obtain ⟨denial, event, hdecided, -, hevent, hline⟩ := connectLife_denial
  exact connectLife.reach_failedDenial () .other hdecided rfl Reference.shows_timestamp hevent
    (if_neg (not_lt.mpr hline))

/-! ## The gateway stops only for a fault -/

/-- **Fatal errors have causes.** In every interleaving of a gateway with its adapters: a party
reports a fatal error only for what it was answered itself: an append of its own that returned this
error, a look at the flag, or an identity that it was refused; and the flag is raised, the writer is
poisoned, an append is refused, a response stream is cut or the serving ends with an error of the
gateway only when something failed. -/
theorem fatal_errors_have_causes {ι : Type} [DecidableEq ι] (X : Crates) (time : Humantime)
    (life : Life ι) (hsynced : life.synced ≤ life.initial.length)
    (turns : List (Turn (Party ι) LowCall.Answer)) (f : DeploymentState ι)
    (hreach : DeploymentReach X time life turns f) :
    (∀ p error, ⟨.port (.sendFatal error), ()⟩ ∈ f.history p →
      FatalCause life.maxEventBytes.get (f.history p) error) ∧
    (Alarm turns f → Faulted life f) := by
  obtain ⟨turns', c, doing, hgateway, hmatches, hcoupled⟩ :=
    (deployment_simulation X time life).reach (.start hsynced) hreach
  refine ⟨fun p error hmem => cause_of_reported hmatches (reported_of_sent hgateway hmatches hmem),
    fun halarm => ?_⟩
  rcases failed_of_alarm hreach hgateway hmatches hcoupled halarm with
    ⟨q, e, hmem, hfailed⟩ | hlast | ⟨q, event, error, hmem⟩
  · exact .disk hmem hfailed
  · exact .exhausted hlast
  · rcases failed_of_append hreach hmatches hmem with ⟨q, e, hmem, hfailed⟩ | ⟨bytes, max, rfl⟩
    · exact .disk hmem hfailed
    · have hreturned := (hcoupled.returned event _).mpr ⟨q, hmem⟩
      exact .tooLarge hreturned (hcoupled.refused event bytes max hreturned)

/-- The flag is raised as the denial of a `CONNECT` request cannot be recorded. -/
theorem fatal_errors_have_causes_connect : ∃ turns f,
    DeploymentReach Reference.crates Reference.humantime connectLife turns f ∧ Alarm turns f ∧
      Faulted connectLife f := by
  obtain ⟨turns, f, hreach, hflag⟩ := reach_failedConnect
  have halarm : Alarm turns f := .flag hflag
  exact ⟨turns, f, hreach, halarm, (fatal_errors_have_causes Reference.crates Reference.humantime
    connectLife le_rfl turns f hreach).2 halarm⟩

/-- **Only faults stop it.** When no text of a request or of the origin makes an event too large, an
alarm of any kind comes from a write, a flush or a sync of the log that failed, or from the last
identity: no request, no answer of the upstream and no lost handler can raise it. -/
theorem only_faults_stop {ι : Type} [DecidableEq ι] (X : Crates) (time : Humantime)
    (life : Life ι) (hX : X.url.PrintsNoControl) (raw : Text)
    (horigin : UpstreamOrigin.parse X raw = .ok life.config.upstreamOrigin)
    (hlength : byteLen (life.config.upstreamOrigin.asStr X) ≤ 4096)
    (hchars : ∀ i, ∀ c ∈ (life.requests i).uri.text, ¬ IsControl c)
    (hsynced : life.synced ≤ life.initial.length) (turns : List (Turn (Party ι) LowCall.Answer))
    (f : DeploymentState ι) (hreach : DeploymentReach X time life turns f)
    (halarm : Alarm turns f) :
    (∃ p, ∃ e ∈ f.history p, WriterFailed e) ∨ u64Max ≤ f.shared.lastAllocated := by
  obtain ⟨turns', c, doing, hgateway, hmatches, hcoupled⟩ :=
    (deployment_simulation X time life).reach (.start hsynced) hreach
  rcases failed_of_alarm hreach hgateway hmatches hcoupled halarm with
    hfailed | hlast | ⟨q, event, error, hmem⟩
  · exact .inl hfailed
  · exact .inr hlast
  · rcases failed_of_append hreach hmatches hmem with hfailed | ⟨bytes, max, rfl⟩
    · exact .inl hfailed
    · have hline := hcoupled.length_line_le hX horigin hlength hchars hgateway (.inl ⟨_, hmem⟩)
      exact absurd ((hcoupled.returned event _).mpr ⟨q, hmem⟩)
        (hcoupled.not_tooLarge hline bytes max)

/-- So it is with the denial of a `CONNECT` request. -/
theorem only_faults_stop_connect : ∃ turns f,
    DeploymentReach Reference.crates Reference.humantime connectLife turns f ∧ Alarm turns f ∧
      ((∃ p, ∃ e ∈ f.history p, WriterFailed e) ∨ u64Max ≤ f.shared.lastAllocated) := by
  obtain ⟨turns, f, hreach, hflag⟩ := reach_failedConnect
  have halarm : Alarm turns f := .flag hflag
  have hlength : byteLen (Reference.origin.asStr Reference.crates) ≤ 4096 := by decide
  have hchars : ∀ c ∈ connectRequest.uri.text, ¬ IsControl c := forall_mem_of_all (by decide)
  exact ⟨turns, f, hreach, halarm, only_faults_stop Reference.crates Reference.humantime connectLife
    Reference.printsNoControl _ Reference.parse_origin hlength (fun _ => hchars) le_rfl turns f
    hreach halarm⟩

end Custode
