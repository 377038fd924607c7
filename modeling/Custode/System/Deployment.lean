import Custode.Audit.RequestIds
import Custode.Audit.Wire
import Custode.Found.Implement
import Custode.Http.Timestamps
import Custode.System.Appends
import Custode.System.Journal
import Custode.System.RequestIds

/-!
# The gateway with its adapters

The gateway over the audit port, the clock and the source of request identities, with what the
program really puts behind them (`adapters.rs`): an append is `AuditWriter::write_event`, whose
steps interleave with everything else and at whose awaits a handler can be dropped; the clock shows
an instant that `humantime` prints; identities are allocated from one counter.

* `DeploymentReach` — what the gateway reaches with its adapters, in one life.
* `append_call`, `append_last`, `append_next` — where an append stands it calls the writer for its
  own event, and it returns what its last call says.
-/

namespace Custode

open Found Program

/-! ## The adapters -/

/-- What a party does below the ports. -/
inductive LowCall where
  | port (op : Call)
  | writer (op : WriterCall)

/-- The answer of a call. -/
abbrev LowCall.Answer : LowCall → Type
  | port op => op.Answer
  | writer op => op.Answer

/-- The audit sink is the audit writer. Every other call stays one.
Source: `adapters.rs` `impl AuditSink for AuditWriter` -/
def adapter (maxEventBytes : AuditEventBytes) : (op : Call) → Program LowCall.Answer op.Answer
  | .appendEvent event =>
      (writeEvent maxEventBytes.get event).implement fun op => perform (LowCall.writer op)
  | op => perform (LowCall.port op)

/-- A timestamp of the system clock: an instant as it is printed, from which it can be parsed.
Source: `audit.rs` `AuditTimestamp::now` -/
def Humantime.Shows (time : Humantime) (timestamp : AuditTimestamp) : Prop :=
  ∃ instant, timestamp.text = time.formatRfc3339Nanos instant ∧
    time.parseRfc3339 timestamp.text = some instant

/-- A timestamp that the clock shows has the shape of one. -/
lemma Humantime.Shows.fits {time : Humantime} {timestamp : AuditTimestamp}
    (h : time.Shows timestamp) : Text.fits nanosTimestamp timestamp.text = true := by
  obtain ⟨instant, htext, hparse⟩ := h
  rw [htext] at hparse ⊢
  exact time.format_shape _ _ hparse

/-- What the parties share, below the ports. -/
structure Site (ι : Type) where
  gateway : Shared ι
  /-- `SequentialRequestIds::last_allocated` -/
  lastAllocated : Nat
  disk : AuditDisk (Party ι)

namespace Site

variable {ι : Type}

/-- A gateway that was just started.
Source: `http.rs` `serve_with_adapter_result`, `adapters.rs` `SequentialRequestIds::new` -/
def start (config : GatewayConfig) (initial : List UInt8) (synced : Nat) : Site ι :=
  ⟨.start config, 0, .opened initial synced⟩

variable [DecidableEq ι] (runToken : RunToken) (time : Humantime)

/-- What a call with its answer does. The counter is updated in one step.
Source: `adapters.rs` `SequentialRequestIds::next_request_id`, `SystemClock::now` -/
def Exec (p : Party ι) (s : Site ι) : Event LowCall.Answer → Site ι → Prop
  | ⟨.port .nextRequestId, result⟩, s' =>
      match SequentialRequestIds.increment s.lastAllocated with
      | none => result = .error .sequenceExhausted ∧ s' = s
      | some next => ∃ id, SequentialRequestIds.allocate runToken s.lastAllocated = some id ∧
          result = .ok id ∧ s' = { s with lastAllocated := next }
  | ⟨.port .now, timestamp⟩, s' => time.Shows timestamp ∧ s' = s
  | ⟨.port op, r⟩, s' =>
      ∃ gateway, Shared.Exec p s.gateway ⟨op, r⟩ gateway ∧ s' = { s with gateway := gateway }
  | ⟨.writer op, r⟩, s' =>
      ∃ disk, AuditDisk.Exec p s.disk ⟨op, r⟩ disk ∧ s' = { s with disk := disk }

/-- A call at a port leaves the file alone, and does to the gateway what it does there. -/
lemma Exec.port {runToken : RunToken} {time : Humantime} {p : Party ι} {s s' : Site ι} {op : Call}
    {r : op.Answer} (h : Exec runToken time p s ⟨.port op, r⟩ s') :
    Shared.Exec p s.gateway ⟨op, r⟩ s'.gateway ∧ s'.disk = s.disk := by
  cases op with
  | nextRequestId =>
      rcases hincrement : SequentialRequestIds.increment s.lastAllocated with _ | next
      · simp only [Exec, hincrement] at h
        obtain ⟨-, rfl⟩ := h
        exact ⟨rfl, rfl⟩
      · simp only [Exec, hincrement] at h
        obtain ⟨id, -, -, rfl⟩ := h
        exact ⟨rfl, rfl⟩
  | now =>
      obtain ⟨-, rfl⟩ := h
      exact ⟨rfl, rfl⟩
  | _ =>
      obtain ⟨gateway, hgateway, rfl⟩ := h
      exact ⟨hgateway, rfl⟩

/-- What is given back when a party is dropped. -/
def release (p : Party ι) (s : Site ι) : Site ι :=
  { s with gateway := s.gateway.release p, disk := s.disk.release p }

end Site

/-- The awaits at which a party can be dropped: those of the gateway, with those of the writer in
place of the append. -/
def LowCall.Cancellable {ι : Type} (p : Party ι) : LowCall → Prop
  | port op => Custode.Cancellable p op
  | writer op => (∃ i, p = .handler i) ∧ op.Awaited

section Deployment

variable {ι : Type} [DecidableEq ι]

/-- What the parties do to what they share. -/
def siteArena (runToken : RunToken) (time : Humantime) :
    Arena (Party ι) LowCall.Answer (Site ι) where
  exec := Site.Exec runToken time
  Cancellable := LowCall.Cancellable
  release := Site.release

/-- A configuration of the gateway with its adapters. -/
abbrev DeploymentState (ι : Type) := Config (fun p : Party ι => p.Result) LowCall.Answer (Site ι)

/-- One life of the gateway: what it reaches from its start with these requests, on a log with this
content. -/
structure Life (ι : Type) where
  config : GatewayConfig
  maxEventBytes : AuditEventBytes
  runToken : RunToken
  requests : ι → HttpRequest
  initial : List UInt8
  synced : Nat

/-- The configurations that are reached in a life. -/
def DeploymentReach (X : Crates) (time : Humantime) (life : Life ι)
    (turns : List (Turn (Party ι) LowCall.Answer)) (f : DeploymentState ι) : Prop :=
  Reach (siteArena life.runToken time)
    (fun p =>
      (gatewayPrograms X life.config life.requests p).implement (adapter life.maxEventBytes))
    (.start life.config life.initial life.synced) turns f

end Deployment

/-! ## What an append does below its port -/

section Adapter

variable {maxEventBytes : AuditEventBytes} {event : AuditEvent}

/-- How far an append is, and what it returned. -/
structure Progress where
  phase : Phase
  result : Option (Except AuditError Unit)

/-- The progress after one more call. -/
def Progress.observe (progress : Progress) : Event WriterCall.Answer → Progress
  | ⟨.returns event result, r⟩ => ⟨progress.phase.observe ⟨.returns event result, r⟩, some result⟩
  | e => ⟨progress.phase.observe e, progress.result⟩

/-- The phase goes with the call, whatever its result. -/
@[simp] lemma Progress.observe_phase (progress : Progress) (e : Event WriterCall.Answer) :
    (progress.observe e).phase = progress.phase.observe e := by
  obtain ⟨op, r⟩ := e
  cases op <;> rfl

/-- Follows an append of the event. -/
def writeMonitor (maxEventBytes : Nat) (event : AuditEvent) :
    Monitor WriterCall.Answer Progress where
  observe := Progress.observe
  Ready progress op :=
    progress.result = none ∧ progress.phase.Ready maxEventBytes op ∧ op.Writes maxEventBytes event

/-- An append writes its own event, and returns what it says it does. -/
lemma safe_writeEvent_progress (maxEventBytes : Nat) (event : AuditEvent) :
    (writeMonitor maxEventBytes event).Safe (writeEvent maxEventBytes event)
      (fun result progress => progress.result = some result) ⟨.idle, none⟩ := by
  unfold writeEvent
  cases hsize : serializeEvent event maxEventBytes with
  | error error => exact ⟨⟨rfl, .tooLarge hsize, rfl⟩, fun _ => rfl⟩
  | ok line =>
      have hfails : (writeMonitor maxEventBytes event).Safe (do
            perform (WriterCall.storePoisoned)
            perform (WriterCall.returns event (.error .write))
            return .error .write)
          (fun result progress => progress.result = some result) ⟨.failed line, none⟩ :=
        ⟨⟨rfl, .storePoisoned line, trivial⟩, fun _ => ⟨⟨rfl, .write hsize, rfl⟩, fun _ => rfl⟩⟩
      refine ⟨⟨rfl, .lock line, hsize⟩, fun _ => ⟨⟨rfl, .loadPoisoned line, trivial⟩, ?_⟩⟩
      rintro (_ | _)
      · refine ⟨⟨rfl, .writeAll line, hsize⟩, ?_⟩
        rintro (_ | _)
        · exact hfails
        · refine ⟨⟨rfl, .flush line, trivial⟩, ?_⟩
          rintro (_ | _)
          · exact hfails
          · refine ⟨⟨rfl, .commit line, trivial⟩, ?_⟩
            rintro (_ | _)
            · exact hfails
            · exact ⟨⟨rfl, .ok hsize, rfl⟩, fun _ => rfl⟩
      · exact ⟨⟨rfl, .poisoned hsize, rfl⟩, fun _ => rfl⟩

/-- The same below the ports. -/
def lowMonitor (maxEventBytes : Nat) (event : AuditEvent) : Monitor LowCall.Answer Progress where
  observe
    | progress, ⟨.writer op, r⟩ => progress.observe ⟨op, r⟩
    | progress, ⟨.port _, _⟩ => progress
  Ready
    | progress, .writer op => (writeMonitor maxEventBytes event).Ready progress op
    | _, .port _ => False

/-- The adapter writes one event and returns what the writer returned. -/
lemma safe_adapter (maxEventBytes : AuditEventBytes) (event : AuditEvent) :
    (lowMonitor maxEventBytes.get event).Safe (adapter maxEventBytes (.appendEvent event))
      (fun result progress => progress.result = some result) ⟨.idle, none⟩ := by
  apply Monitor.Safe.implement ?_ (safe_writeEvent_progress maxEventBytes.get event)
  intro progress op hready
  exact ⟨hready, fun _ => rfl⟩

/-- The phase of what a party does of an append. -/
def appendPhase (doing : List (Event LowCall.Answer)) : Phase :=
  doing.foldl (fun phase e => match e with
    | ⟨.writer op, r⟩ => phase.observe ⟨op, r⟩
    | ⟨.port _, _⟩ => phase) .idle

/-- The phase after one more call of the writer. -/
lemma appendPhase_snoc (doing : List (Event LowCall.Answer)) (op : WriterCall) (r : op.Answer) :
    appendPhase (doing ++ [⟨.writer op, r⟩]) = (appendPhase doing).observe ⟨op, r⟩ := by
  rw [appendPhase, List.foldl_append]
  rfl

/-- The monitor of the adapter is in the phase of the writer. -/
lemma phase_after (doing : List (Event LowCall.Answer)) :
    ((lowMonitor maxEventBytes.get event).after ⟨.idle, none⟩ doing).phase = appendPhase doing := by
  induction doing using List.reverseRecOn with
  | nil => rfl
  | append_singleton doing e ih =>
      rw [Monitor.after_append, appendPhase, List.foldl_append]
      obtain ⟨op | op, r⟩ := e
      · exact ih
      · exact (Progress.observe_phase _ _).trans (by rw [ih]; rfl)

/-- Where an append stands it calls the writer, for its own event. -/
lemma append_call {doing : List (Event LowCall.Answer)} {op' : LowCall}
    {k' : op'.Answer → Program LowCall.Answer (Except AuditError Unit)}
    (hruns : (adapter maxEventBytes (.appendEvent event)).Runs doing (.call op' k')) :
    ∃ op, op' = .writer op ∧ (appendPhase doing).Ready maxEventBytes.get op ∧
      op.Writes maxEventBytes.get event := by
  have hready := (safe_adapter maxEventBytes event).ready hruns
  cases op' with
  | port op => exact hready.elim
  | writer op =>
      obtain ⟨-, hphase, hwrites⟩ := hready
      rw [phase_after] at hphase
      exact ⟨op, rfl, hphase, hwrites⟩

/-- The last call of an append says what it returns. -/
lemma append_last {doing : List (Event LowCall.Answer)} {op : WriterCall} {r' : op.Answer}
    {k' : op.Answer → Program LowCall.Answer (Except AuditError Unit)}
    {result : Except AuditError Unit}
    (hruns : (adapter maxEventBytes (.appendEvent event)).Runs doing (.call (.writer op) k'))
    (hlast : k' r' = .ret result) : op = .returns event result := by
  have hsafe := safe_adapter maxEventBytes event
  obtain ⟨hnone, -, hwrites⟩ := hsafe.ready hruns
  have hafter := hruns.snoc r'
  rw [hlast] at hafter
  have hresult := hsafe.returned hafter
  rw [Monitor.after_append] at hresult
  generalize (lowMonitor maxEventBytes.get event).after ⟨.idle, none⟩ doing = progress
    at hnone hresult
  cases op with
  | returns event' result' =>
      obtain rfl : event' = event := hwrites
      obtain rfl : result' = result := Option.some.inj hresult
      rfl
  | _ => cases hnone.symm.trans hresult

/-- An append that goes on has not returned. -/
lemma append_next {doing : List (Event LowCall.Answer)} {op : WriterCall} {r' : op.Answer}
    {k' : op.Answer → Program LowCall.Answer (Except AuditError Unit)}
    (hruns : (adapter maxEventBytes (.appendEvent event)).Runs doing (.call (.writer op) k'))
    (hnext : (k' r').next ≠ none) (event' : AuditEvent) (result : Except AuditError Unit) :
    op ≠ .returns event' result := by
  rintro rfl
  have hsafe := safe_adapter maxEventBytes event
  have hafter := hruns.snoc r'
  rcases hlast : k' r' with result' | ⟨op'', k''⟩
  · rw [hlast] at hnext
    exact hnext rfl
  · rw [hlast] at hafter
    have hready := hsafe.ready hafter
    rw [Monitor.after_append] at hready
    cases op'' with
    | port op => exact hready.elim
    | writer op => cases hready.1

/-- Any other call stays one. -/
lemma adapter_port {op : Call} (h : op.AppendsNothing) :
    adapter maxEventBytes op = perform (LowCall.port op) := by
  cases op with
  | appendEvent event => exact h.elim
  | _ => rfl

/-- Where such a call stands, nothing was done of it. -/
lemma port_call {op : Call} (h : op.AppendsNothing) {doing : List (Event LowCall.Answer)}
    {op' : LowCall} {k' : op'.Answer → Program LowCall.Answer op.Answer}
    (hruns : (adapter maxEventBytes op).Runs doing (.call op' k')) :
    doing = [] ∧ (Program.call op' k' : Program LowCall.Answer op.Answer) =
      .call (.port op) .ret := by
  rw [adapter_port h] at hruns
  rcases Runs.of_call hruns with ⟨rfl, hcall⟩ | ⟨r, tr, -, hruns⟩
  · exact ⟨rfl, hcall⟩
  · obtain ⟨-, hret⟩ := hruns.of_ret
    cases hret

/-- Every call does something. -/
lemma adapter_ne_ret (maxEventBytes : AuditEventBytes) (op : Call) (r : op.Answer) :
    adapter maxEventBytes op ≠ .ret r := by
  cases op with
  | appendEvent event =>
      intro h
      have hreturned := safe_adapter maxEventBytes event
      rw [h] at hreturned
      cases hreturned
  | _ => exact nofun

end Adapter

end Custode
