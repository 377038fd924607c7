import Custode.Gateway

/-!
# The ledger of a run

`Ledger` collects what a run of the handler or of the response task has done that the results about
them speak of: upstream sends, audit appends, spawned tasks, failures and their reports, delivered
chunks. `Ledger.of` reads it off the events of a run.

`Rules` are conditions for the calls whose order matters: an append, the reading of the request
body, the two sides of the forwarding gate, an upstream send, the spawning of a task, and the two
sends of a chunk. They make the ledger a monitor. Each function of the gateway has one rule here
that says what a caller may rely on after it, so that callers do not unfold it.
-/

namespace Custode

open Found

/-- What a run has done. -/
structure Ledger where
  /-- The audit was found unavailable. -/
  unavailable : Bool
  /-- The audit was marked as failed. -/
  closed : Bool
  /-- Request bodies that were read. -/
  bodies : List AccountedBody
  /-- Upstream sends. -/
  sends : List UpstreamRequest
  /-- Audit appends that were carried out, with their results. -/
  appends : List (AuditEvent × Except AuditError Unit)
  /-- Response tasks. -/
  tasks : List (ResponseAuditContext × UpstreamResponse)
  /-- Failed appends and failed allocations of a request identity. -/
  failures : List GatewayError
  /-- Messages on the fatal error channel. -/
  reports : List GatewayError
  /-- Upstream items that arrived, the end of the body included. -/
  pulled : Nat
  /-- Why the response stream ended early. -/
  interrupt : Option Interrupt
  /-- Chunks that were put into the response channel. -/
  delivered : List Bytes
  /-- Attempts to deliver the generic stream error. -/
  errorSends : Nat

namespace Ledger

/-- Nothing was done. -/
def empty : Ledger where
  unavailable := false
  closed := false
  bodies := []
  sends := []
  appends := []
  tasks := []
  failures := []
  reports := []
  pulled := 0
  interrupt := none
  delivered := []
  errorSends := 0

/-- Nothing was audited, and nothing has failed. -/
def Quiet (l : Ledger) : Prop := l.appends = [] ∧ l.failures = [] ∧ l.reports = []

/-- An append was carried out. -/
def appended (l : Ledger) (event : AuditEvent) : Except AuditError Unit → Ledger
  | .ok () => { l with appends := l.appends ++ [(event, .ok ())] }
  | .error error =>
      { l with
        appends := l.appends ++ [(event, .error error)]
        failures := l.failures ++ [.audit error] }

/-- Notes one event of a run. -/
def observe (l : Ledger) : Event Call.Answer → Ledger
  | ⟨.loadAuditFailed, true⟩ => { l with unavailable := true }
  | ⟨.storeAuditFailed, _⟩ => { l with closed := true }
  | ⟨.nextRequestId, .error error⟩ => { l with failures := l.failures ++ [.requestId error] }
  | ⟨.appendEvent event, result⟩ => l.appended event result
  | ⟨.readRequest _, some (.ok body)⟩ => { l with bodies := l.bodies ++ [body] }
  | ⟨.startSend request, _⟩ => { l with sends := l.sends ++ [request] }
  | ⟨.spawn context response, _⟩ => { l with tasks := l.tasks ++ [(context, response)] }
  | ⟨.sendFatal error, _⟩ => { l with reports := l.reports ++ [error] }
  | ⟨.nextItem, .ok ()⟩ => { l with pulled := l.pulled + 1 }
  | ⟨.nextItem, .error interrupt⟩ => { l with interrupt := some interrupt }
  | ⟨.sendChunk chunk, .ok true⟩ => { l with delivered := l.delivered ++ [chunk] }
  | ⟨.sendChunk _, .error interrupt⟩ => { l with interrupt := some interrupt }
  | ⟨.reserve, .error interrupt⟩ => { l with interrupt := some interrupt }
  | ⟨.sendReserved chunk, _⟩ => { l with delivered := l.delivered ++ [chunk] }
  | ⟨.sendError _, _⟩ => { l with errorSends := l.errorSends + 1 }
  | _ => l

/-- What one answered call can add to the ledger. -/
structure Noted (l : Ledger) (op : Call) (r : op.Answer) : Prop where
  closed : (l.observe ⟨op, r⟩).closed = l.closed ∨ op = .storeAuditFailed
  bodies : (l.observe ⟨op, r⟩).bodies = l.bodies ∨ ∃ limit, op = .readRequest limit
  sends : (l.observe ⟨op, r⟩).sends = l.sends ∨ ∃ request, op = .startSend request
  appends : (l.observe ⟨op, r⟩).appends = l.appends ∨ ∃ event, op = .appendEvent event
  tasks : (l.observe ⟨op, r⟩).tasks = l.tasks ∨ ∃ context response, op = .spawn context response
  interrupt : (l.observe ⟨op, r⟩).interrupt = l.interrupt ∨
    (l.observe ⟨op, r⟩).interrupt = interruptOf ⟨op, r⟩
  delivered : (l.observe ⟨op, r⟩).delivered = l.delivered ∨ op.SendsChunk

/-- Every answered call adds no more than that. -/
lemma noted (l : Ledger) (op : Call) (r : op.Answer) : l.Noted op r := by
  cases op with
  | storeAuditFailed =>
      exact ⟨.inr rfl, .inl rfl, .inl rfl, .inl rfl, .inl rfl, .inl rfl, .inl rfl⟩
  | appendEvent event =>
      cases r <;>
        exact ⟨.inl rfl, .inl rfl, .inl rfl, .inr ⟨event, rfl⟩, .inl rfl, .inl rfl, .inl rfl⟩
  | readRequest limit =>
      rcases r with _ | _ | _ <;>
        exact ⟨.inl rfl, .inr ⟨limit, rfl⟩, .inl rfl, .inl rfl, .inl rfl, .inl rfl, .inl rfl⟩
  | startSend request =>
      exact ⟨.inl rfl, .inl rfl, .inr ⟨request, rfl⟩, .inl rfl, .inl rfl, .inl rfl, .inl rfl⟩
  | spawn context response =>
      exact ⟨.inl rfl, .inl rfl, .inl rfl, .inl rfl, .inr ⟨context, response, rfl⟩, .inl rfl,
        .inl rfl⟩
  | sendReserved chunk =>
      exact ⟨.inl rfl, .inl rfl, .inl rfl, .inl rfl, .inl rfl, .inl rfl, .inr trivial⟩
  | sendChunk chunk =>
      rcases r with _ | _ | _
      · exact ⟨.inl rfl, .inl rfl, .inl rfl, .inl rfl, .inl rfl, .inr rfl, .inl rfl⟩
      · exact ⟨.inl rfl, .inl rfl, .inl rfl, .inl rfl, .inl rfl, .inl rfl, .inl rfl⟩
      · exact ⟨.inl rfl, .inl rfl, .inl rfl, .inl rfl, .inl rfl, .inl rfl, .inr trivial⟩
  | nextItem =>
      cases r with
      | error interrupt =>
          exact ⟨.inl rfl, .inl rfl, .inl rfl, .inl rfl, .inl rfl, .inr rfl, .inl rfl⟩
      | ok _ => exact ⟨.inl rfl, .inl rfl, .inl rfl, .inl rfl, .inl rfl, .inl rfl, .inl rfl⟩
  | reserve =>
      cases r with
      | error interrupt =>
          exact ⟨.inl rfl, .inl rfl, .inl rfl, .inl rfl, .inl rfl, .inr rfl, .inl rfl⟩
      | ok _ => exact ⟨.inl rfl, .inl rfl, .inl rfl, .inl rfl, .inl rfl, .inl rfl, .inl rfl⟩
  | loadAuditFailed =>
      cases r <;> exact ⟨.inl rfl, .inl rfl, .inl rfl, .inl rfl, .inl rfl, .inl rfl, .inl rfl⟩
  | nextRequestId =>
      cases r <;> exact ⟨.inl rfl, .inl rfl, .inl rfl, .inl rfl, .inl rfl, .inl rfl, .inl rfl⟩
  | _ => exact ⟨.inl rfl, .inl rfl, .inl rfl, .inl rfl, .inl rfl, .inl rfl, .inl rfl⟩

/-- The ledger of a list of events. -/
def of (tr : List (Event Call.Answer)) : Ledger := tr.foldl observe empty

/-- The ledger after one more event. -/
lemma of_snoc (tr : List (Event Call.Answer)) (e : Event Call.Answer) :
    of (tr ++ [e]) = (of tr).observe e := by
  rw [of, List.foldl_append]
  rfl

end Ledger

/-- An append delivers nothing. -/
@[simp] lemma Ledger.appended_delivered (l : Ledger) (event : AuditEvent)
    (result : Except AuditError Unit) : (l.appended event result).delivered = l.delivered := by
  cases result <;> rfl

/-- An append is noted. -/
@[simp] lemma Ledger.appended_appends (l : Ledger) (event : AuditEvent)
    (result : Except AuditError Unit) :
    (l.appended event result).appends = l.appends ++ [(event, result)] := by
  cases result <;> rfl

/-- Conditions for the calls whose order matters. -/
structure Rules where
  append : Ledger → AuditEvent → Prop
  readRequest : Ledger → Prop
  readGate : Ledger → Prop
  startSend : Ledger → UpstreamRequest → Prop
  spawn : Ledger → ResponseAuditContext → UpstreamResponse → Prop
  sendChunk : Ledger → Bytes → Prop
  sendReserved : Ledger → Bytes → Prop
  panic : Ledger → Prop

namespace Rules

/-- The condition for a call. -/
def Ready (rules : Rules) (l : Ledger) : Call → Prop
  | .appendEvent event => rules.append l event
  | .readRequest _ => rules.readRequest l
  | .readGate => rules.readGate l
  | .writeGate => l.closed = true
  | .startSend request => rules.startSend l request
  | .spawn context response => rules.spawn l context response
  | .sendChunk chunk => rules.sendChunk l chunk
  | .sendReserved chunk => rules.sendReserved l chunk
  | .panic => rules.panic l
  | _ => True

/-- The ledger as a monitor. -/
def monitor (rules : Rules) : Monitor Call.Answer Ledger := ⟨Ledger.observe, rules.Ready⟩

variable {rules : Rules} {α : Type}

/-- The monitor's state after a run is its ledger. -/
lemma after_empty (tr : List (Event Call.Answer)) :
    rules.monitor.after Ledger.empty tr = Ledger.of tr := rfl

/-- The monitor's step is the ledger's. -/
@[simp] lemma monitor_observe (l : Ledger) (e : Event Call.Answer) :
    rules.monitor.observe l e = l.observe e := rfl

/-- The monitor's condition is the rules'. -/
@[simp] lemma monitor_ready (l : Ledger) (c : Call) : rules.monitor.Ready l c = rules.Ready l c :=
  rfl

end Rules

/-! ## Rules of the gateway's functions -/

section Gateway

variable {rules : Rules} {X : Crates} {l : Ledger}

/-- Expecting a value is safe when the panic is, should there be none. -/
lemma safe_expect {α : Type} {value : Option α} {Q : α → Ledger → Prop} :
    rules.monitor.Safe (expect value) Q l ↔
      (value = none → rules.panic l) ∧ ∀ a, value = some a → Q a l := by
  cases value with
  | none =>
      rw [expect, Monitor.safe_call]
      simp [Rules.Ready]
  | some a => simp [expect]

/-- Closing the gate marks the audit as failed. -/
lemma safe_closeForwarding {Q : Unit → Ledger → Prop} (h : Q () { l with closed := true }) :
    rules.monitor.Safe Gateway.closeForwarding Q l := by
  simp only [Gateway.closeForwarding, Monitor.safe_bind, Monitor.safe_perform]
  exact ⟨trivial, fun _ => ⟨trivial, fun _ => ⟨rfl, fun _ => ⟨trivial, fun _ => h⟩⟩⟩⟩

/-- A required append marks the audit as failed when it fails, and passes the error on. -/
lemma safe_appendRequiredAuditEvent {event : AuditEvent}
    {Q : Except GatewayError Unit → Ledger → Prop} (hready : rules.append l event)
    (hok : Q (.ok ()) (l.appended event (.ok ())))
    (herror : ∀ error, Q (.error (.audit error))
      { l.appended event (.error error) with closed := true }) :
    rules.monitor.Safe (Gateway.appendRequiredAuditEvent event) Q l := by
  rw [Gateway.appendRequiredAuditEvent, Monitor.safe_bind, Monitor.safe_perform]
  refine ⟨hready, ?_⟩
  rintro (error | _)
  · rw [Monitor.safe_bind]
    exact safe_closeForwarding (herror error)
  · exact hok

/-- The audit of a denial appends its event. -/
lemma safe_auditDenial {config : GatewayConfig} {requestId : RequestId} {denial : AuditDenial}
    {requestBody : Option AccountedBody} {Q : Except GatewayError Unit → Ledger → Prop}
    (h : ∀ timestamp event, AuditEvent.forDenial X denial requestId requestBody
        config.upstreamOrigin timestamp = some event →
      rules.append l event ∧ Q (.ok ()) (l.appended event (.ok ())) ∧
        ∀ error, Q (.error (.audit error))
          { l.appended event (.error error) with closed := true }) :
    rules.monitor.Safe (Gateway.auditDenial X config requestId denial requestBody) Q l := by
  rw [Gateway.auditDenial, Monitor.safe_bind, Monitor.safe_perform]
  refine ⟨trivial, ?_⟩
  intro timestamp
  rw [Monitor.safe_bind, safe_expect]
  refine ⟨fun hnone => (AuditEvent.forDenial_ne_none _ _ _ _ _ _ hnone).elim,
    fun event hevent => ?_⟩
  obtain ⟨hready, hok, herror⟩ := h timestamp event hevent
  exact safe_appendRequiredAuditEvent hready hok herror

/-- The audit of a response appends its event. -/
lemma safe_auditResponse {input : ResponseAuditInput} {Q : Except GatewayError Unit → Ledger → Prop}
    (hpanic : ∀ timestamp, AuditEvent.forResponse X input timestamp = none → rules.panic l)
    (h : ∀ timestamp event, AuditEvent.forResponse X input timestamp = some event →
      rules.append l event ∧ Q (.ok ()) (l.appended event (.ok ())) ∧
        ∀ error, Q (.error (.audit error))
          { l.appended event (.error error) with closed := true }) :
    rules.monitor.Safe (Gateway.auditResponse X input) Q l := by
  rw [Gateway.auditResponse, Monitor.safe_bind, safe_expect]
  refine ⟨fun hnone => hpanic ⟨[]⟩ (by rw [AuditEvent.forResponse, hnone]; rfl), ?_⟩
  intro observed hobserved
  have hresponse : ∀ timestamp, AuditEvent.forResponse X input timestamp =
      AuditEvent.newAt X (input.outcome.eventInput observed) timestamp := by
    intro timestamp
    rw [AuditEvent.forResponse, hobserved]
    rfl
  rw [Monitor.safe_bind, Monitor.safe_perform]
  refine ⟨trivial, ?_⟩
  intro timestamp
  rw [Monitor.safe_bind, safe_expect, ← hresponse]
  refine ⟨hpanic timestamp, ?_⟩
  intro event hevent
  obtain ⟨hready, hok, herror⟩ := h timestamp event hevent
  exact safe_appendRequiredAuditEvent hready hok herror

/-- The gate is entered, or the audit is found unavailable. -/
lemma safe_beginForwarding {Q : Except GatewayError Unit → Ledger → Prop}
    (hready : rules.readGate l) (hok : Q (.ok ()) l)
    (herror : Q (.error .auditUnavailable) { l with unavailable := true }) :
    rules.monitor.Safe Gateway.beginForwarding Q l := by
  simp only [Gateway.beginForwarding, Gateway.requireAuditAvailable, Monitor.safe_bind,
    Monitor.safe_perform]
  refine ⟨hready, fun _ => ⟨trivial, ?_⟩⟩
  rintro (_ | _)
  · exact hok
  · exact ⟨trivial, fun _ => herror⟩

end Gateway

end Custode
