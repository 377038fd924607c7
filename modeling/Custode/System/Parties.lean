import Custode.Found.Interleaving
import Custode.Http.Handler

/-!
# The gateway under load

Any number of requests at once: each has a handler, `proxy`, and a response task that starts when
the handler spawns it. They share what the gateway shares: the `audit_failed` flag, the forwarding
gate (a read/write lock), the semaphore, and the spawned tasks.

`gatewayArena` says what each call does to the shared state:

* the server can drop a handler at any of its awaits; a panic unwinds, which drops what its party
  holds, like a drop;
* a lock guard or a semaphore permit that a dropped party holds is given back;
* a spawned task takes the permit of its handler along;
* a wait of a response stream is interrupted for an audit failure only after the flag was set.

Everything else is up to the environment: results of appends and of upstream I/O, timeouts, request
bodies, closed channels.
-/

namespace Custode

open Found

/-- The handler and the response task of a request. -/
inductive Party (ι : Type) where
  | handler (request : ι)
  | task (request : ι)
  deriving DecidableEq

namespace Party

variable {ι : Type}

/-- The request of a party. -/
def request : Party ι → ι
  | handler i | task i => i

/-- What a party returns. -/
abbrev Result : Party ι → Type
  | handler _ => Response
  | task _ => Unit

end Party

/-- What the parties share. -/
structure Shared (ι : Type) where
  /-- `Gateway::audit_failed` -/
  auditFailed : Bool
  /-- The parties with a read guard of `Gateway::forwarding_gate`. -/
  readers : Party ι → Bool
  /-- The party with the write guard of `Gateway::forwarding_gate`. -/
  writer : Option (Party ι)
  /-- The free permits of `AppState::concurrency`. -/
  available : Nat
  /-- The parties that own a permit. -/
  permits : Party ι → Bool
  /-- The response tasks that were spawned. -/
  spawned : ι → Option (ResponseAuditContext × UpstreamResponse)

namespace Shared

variable {ι : Type}

/-- The shared state of a new gateway.
Source: `gateway.rs` `Gateway::from_ports`, `http.rs` `serve_with_adapter_result` -/
def start (config : GatewayConfig) : Shared ι where
  auditFailed := false
  readers := fun _ => false
  writer := none
  available := config.maxConcurrentRequests.get
  permits := fun _ => false
  spawned := fun _ => none

variable [DecidableEq ι]

/-- What a call with its answer does to the shared state. -/
def Exec (p : Party ι) (s : Shared ι) : Event Call.Answer → Shared ι → Prop
  | ⟨.loadAuditFailed, failed⟩, s' => failed = s.auditFailed ∧ s' = s
  | ⟨.storeAuditFailed, _⟩, s' => s' = { s with auditFailed := true }
  | ⟨.readGate, _⟩, s' =>
      s.writer = none ∧ s' = { s with readers := Function.update s.readers p true }
  | ⟨.releaseReadGate, _⟩, s' => s' = { s with readers := Function.update s.readers p false }
  | ⟨.writeGate, _⟩, s' =>
      s.writer = none ∧ (∀ q, s.readers q = false) ∧ s' = { s with writer := some p }
  | ⟨.releaseWriteGate, _⟩, s' => s' = { s with writer := none }
  | ⟨.tryAcquireOwned, true⟩, s' =>
      0 < s.available ∧ s' = { s with
        available := s.available - 1
        permits := Function.update s.permits p true }
  | ⟨.tryAcquireOwned, false⟩, s' => s.available = 0 ∧ s' = s
  | ⟨.releasePermit, _⟩, s' =>
      s' = { s with
        available := s.available + 1
        permits := Function.update s.permits p false }
  | ⟨.spawn context response, _⟩, s' =>
      p = .handler p.request ∧ s' = { s with
        permits := Function.update (Function.update s.permits p false) (.task p.request)
          (s.permits p)
        spawned := Function.update s.spawned p.request (some (context, response)) }
  | ⟨.started, task⟩, s' => s.spawned p.request = some task ∧ s' = s
  | ⟨.nextItem, .error .auditUnavailable⟩, s' => s.auditFailed = true ∧ s' = s
  | ⟨.sendChunk _, .error .auditUnavailable⟩, s' => s.auditFailed = true ∧ s' = s
  | ⟨.reserve, .error .auditUnavailable⟩, s' => s.auditFailed = true ∧ s' = s
  | _, s' => s' = s

/-- The calls that take or give back a guard of the forwarding gate. -/
def MovesGuard : Call → Prop
  | .readGate | .releaseReadGate | .writeGate | .releaseWriteGate => True
  | _ => False

/-- What a call can do to the flag, to the guards and to the spawned tasks. -/
structure Effect (p : Party ι) (s : Shared ι) (op : Call) (s' : Shared ι) : Prop where
  flag : s'.auditFailed = s.auditFailed ∨ (op = .storeAuditFailed ∧ s'.auditFailed = true)
  guards : (s'.readers = s.readers ∧ s'.writer = s.writer) ∨ MovesGuard op
  tasks : s'.spawned = s.spawned ∨ ∃ context response, op = .spawn context response ∧
    p = .handler p.request ∧
      s'.spawned = Function.update s.spawned p.request (some (context, response))

/-- The calls that can change the shared state. -/
def Changes : Call → Prop
  | .storeAuditFailed | .readGate | .releaseReadGate | .writeGate | .releaseWriteGate
  | .tryAcquireOwned | .releasePermit | .spawn _ _ => True
  | _ => False

/-- Any other call leaves it as it is. -/
lemma Exec.unchanged {p : Party ι} {s s' : Shared ι} {op : Call} {r : op.Answer}
    (h : Exec p s ⟨op, r⟩ s') (hop : ¬ Changes op) : s' = s := by
  cases op with
  | loadAuditFailed => exact h.2
  | started => exact h.2
  | nextItem =>
      rcases r with (_ | _) | _
      · exact h.2
      · exact h
      · exact h
  | sendChunk chunk =>
      rcases r with (_ | _) | _
      · exact h.2
      · exact h
      · exact h
  | reserve =>
      rcases r with (_ | _) | _
      · exact h.2
      · exact h
      · exact h
  | panic => exact r.elim
  | storeAuditFailed => exact (hop trivial).elim
  | readGate => exact (hop trivial).elim
  | releaseReadGate => exact (hop trivial).elim
  | writeGate => exact (hop trivial).elim
  | releaseWriteGate => exact (hop trivial).elim
  | tryAcquireOwned => exact (hop trivial).elim
  | releasePermit => exact (hop trivial).elim
  | spawn context response => exact (hop trivial).elim
  | _ => exact h

/-- Every call does no more than that. -/
lemma Exec.effect {p : Party ι} {s s' : Shared ι} {op : Call} {r : op.Answer}
    (h : Exec p s ⟨op, r⟩ s') : Effect p s op s' := by
  cases op with
  | storeAuditFailed => obtain rfl := h; exact ⟨.inr ⟨rfl, rfl⟩, .inl ⟨rfl, rfl⟩, .inl rfl⟩
  | readGate => obtain ⟨-, rfl⟩ := h; exact ⟨.inl rfl, .inr trivial, .inl rfl⟩
  | releaseReadGate => obtain rfl := h; exact ⟨.inl rfl, .inr trivial, .inl rfl⟩
  | writeGate => obtain ⟨-, -, rfl⟩ := h; exact ⟨.inl rfl, .inr trivial, .inl rfl⟩
  | releaseWriteGate => obtain rfl := h; exact ⟨.inl rfl, .inr trivial, .inl rfl⟩
  | releasePermit => obtain rfl := h; exact ⟨.inl rfl, .inl ⟨rfl, rfl⟩, .inl rfl⟩
  | spawn context response =>
      obtain ⟨hhandler, rfl⟩ := h
      exact ⟨.inl rfl, .inl ⟨rfl, rfl⟩, .inr ⟨context, response, rfl, hhandler, rfl⟩⟩
  | tryAcquireOwned =>
      cases r with
      | true => obtain ⟨-, rfl⟩ := h; exact ⟨.inl rfl, .inl ⟨rfl, rfl⟩, .inl rfl⟩
      | false => obtain ⟨-, rfl⟩ := h; exact ⟨.inl rfl, .inl ⟨rfl, rfl⟩, .inl rfl⟩
  | _ => obtain rfl := h.unchanged id; exact ⟨.inl rfl, .inl ⟨rfl, rfl⟩, .inl rfl⟩

/-- A wait is interrupted for an audit failure only when there was one. -/
lemma Exec.interrupted {p : Party ι} {s s' : Shared ι} {e : Event Call.Answer}
    (h : Exec p s e s') (hinterrupt : interruptOf e = some .auditUnavailable) :
    s.auditFailed = true := by
  obtain rfl | ⟨chunk, rfl⟩ | rfl := eq_of_interruptOf hinterrupt
  · exact h.1
  · exact h.1
  · exact h.1

/-- What is given back when a party is dropped. -/
def release (p : Party ι) (s : Shared ι) : Shared ι where
  auditFailed := s.auditFailed
  readers := Function.update s.readers p false
  writer := if s.writer = some p then none else s.writer
  available := if s.permits p then s.available + 1 else s.available
  permits := Function.update s.permits p false
  spawned := s.spawned

end Shared

/-- The awaits at which a handler can be dropped; a panic unwinds every party. -/
def Cancellable {ι : Type} : Party ι → Call → Prop
  | _, .panic => True
  | .handler _, .readGate => True
  | .handler _, .writeGate => True
  | .handler _, .readRequest _ => True
  | .handler _, .awaitSend => True
  | .handler _, .appendEvent _ => True
  | _, _ => False

/-- A configuration of the gateway. -/
abbrev GatewayState (ι : Type) := Config (fun p : Party ι => p.Result) Call.Answer (Shared ι)

section Gateway

variable {ι : Type} [DecidableEq ι]

/-- What the parties of a gateway do to what they share. -/
def gatewayArena : Arena (Party ι) Call.Answer (Shared ι) where
  exec := Shared.Exec
  Cancellable := Custode.Cancellable
  release := Shared.release

variable (X : Crates) (config : GatewayConfig) (requests : ι → HttpRequest)

/-- The programs of the parties. -/
def gatewayPrograms : (p : Party ι) → Async p.Result
  | .handler i => proxy X config (requests i)
  | .task _ => do
      let (context, response) ← call .started
      responseTask X context response

/-- The configurations that the gateway reaches with these requests. -/
def GatewayReach (turns : List (Turn (Party ι) Call.Answer)) (c : GatewayState ι) : Prop :=
  Reach gatewayArena (gatewayPrograms X config requests) (Shared.start config) turns c

end Gateway

/-- The party has ended: it returned, or it was dropped. -/
def Gone {ι : Type} (c : GatewayState ι) (p : Party ι) : Prop :=
  c.dropped p = true ∨ ∃ a, c.rest p = .ret a

/-! ## Appends in a run -/

/-- The event of an append. -/
def Call.audited : Call → Option AuditEvent
  | appendEvent event => some event
  | _ => none

/-- The events that were appended, whatever the result. -/
def audited (tr : List (Event Call.Answer)) : List AuditEvent := tr.filterMap (·.1.audited)

/-- No event, no append. -/
@[simp] lemma audited_nil : audited [] = [] := rfl

/-- The appends are counted one event at a time. -/
@[simp] lemma audited_cons (tr : List (Event Call.Answer)) (e : Event Call.Answer) :
    audited (e :: tr) = e.1.audited.toList ++ audited tr := by
  cases h : e.1.audited <;> simp [audited, h]

/-- The appends of two parts of a run add up. -/
@[simp] lemma audited_append (tr tr' : List (Event Call.Answer)) :
    audited (tr ++ tr') = audited tr ++ audited tr' :=
  List.filterMap_append

/-- The audits that a party has attempted, with the one that it waits for. -/
def auditAttempts {ι : Type} (c : GatewayState ι) (p : Party ι) : List AuditEvent :=
  audited (c.history p) ++ ((c.rest p).next.bind Call.audited).toList

end Custode
