import Custode.Http.Composed

/-!
# The guards that handlers and response tasks hold

A party takes the forwarding gate to send a request, or to close the gate behind a failed append. It
holds the read guard over the send alone and the write guard not at all, and makes every other call
with no guard: `guarded_proxy`, `guarded_responseTask`.
-/

namespace Custode

open Found

/-- What a party holds: nothing, a guard of the forwarding gate, or the mutex of the audit writer.
-/
inductive Holding where
  | nothing
  | reading
  | writing
  | mutex
  deriving DecidableEq

namespace Holding

/-- What it holds after one more event. -/
def observe : Holding → Event Call.Answer → Holding
  | _, ⟨.readGate, _⟩ => reading
  | _, ⟨.writeGate, _⟩ => writing
  | _, ⟨.releaseReadGate, _⟩ => nothing
  | _, ⟨.releaseWriteGate, _⟩ => nothing
  | held, _ => held

/-- What it holds when it makes a call. -/
def Ready (held : Holding) : Call → Prop
  | .loadAuditFailed => held = nothing ∨ held = reading
  | .startSend _ | .awaitSend | .releaseReadGate => held = reading
  | .releaseWriteGate => held = writing
  | _ => held = nothing

end Holding

/-- Follows what a party holds. -/
def guardMonitor : Monitor Call.Answer Holding := ⟨Holding.observe, Holding.Ready⟩

/-- It starts and ends with nothing, and holds a guard only where it may. -/
def Guarded {α : Type} (p : Async α) : Prop :=
  guardMonitor.Safe p (fun _ held => held = .nothing) .nothing

/-! ## The parts -/

/-- A sequence of guarded parts is guarded. -/
lemma Guarded.bind {α β : Type} {p : Async α} {f : α → Async β} (h : Guarded p)
    (hf : ∀ a, Guarded (f a)) : Guarded (p >>= f) := by
  rw [Guarded, Monitor.safe_bind]
  apply h.mono
  rintro a _ rfl
  exact hf a

/-- A plain call takes no guard. -/
lemma guarded_call (op : Call) (h : op.Plain) : Guarded (call op) := by
  cases op with
  | loadAuditFailed => exact ⟨.inl rfl, fun _ => rfl⟩
  | now => exact h.elim
  | appendEvent event => exact h.elim
  | storeAuditFailed => exact h.elim
  | notifyWaiters => exact h.elim
  | writeGate => exact h.elim
  | releaseWriteGate => exact h.elim
  | readGate => exact h.elim
  | releaseReadGate => exact h.elim
  | startSend request => exact h.elim
  | awaitSend => exact h.elim
  | _ => exact ⟨rfl, fun _ => rfl⟩

/-- Closing the gate gives its guard back. -/
lemma guarded_closeForwarding : Guarded Gateway.closeForwarding :=
  ⟨rfl, fun _ => ⟨rfl, fun _ => ⟨rfl, fun _ => ⟨rfl, fun _ => rfl⟩⟩⟩⟩

/-- So does the required append. -/
lemma guarded_appendRequiredAuditEvent (event : AuditEvent) :
    Guarded (Gateway.appendRequiredAuditEvent event) := by
  refine ⟨rfl, ?_⟩
  rintro (error | _)
  · exact guarded_closeForwarding.bind fun _ => rfl
  · rfl

/-- Expecting a value takes no guard. -/
lemma guarded_expect {α : Type} (value : Option α) : Guarded (expect value) := by
  cases value with
  | none => exact ⟨rfl, fun r => r.elim⟩
  | some a => rfl

/-- The read guard is held over the send, and dropped. -/
lemma guarded_guardedSend (request : UpstreamRequest) : Guarded (guardedSend request) := by
  refine ⟨rfl, fun _ => ⟨.inr rfl, ?_⟩⟩
  rintro (_ | _)
  · exact ⟨rfl, fun _ => ⟨rfl, fun _ => ⟨rfl, fun _ => rfl⟩⟩⟩
  · exact ⟨rfl, fun _ => rfl⟩

/-- The property is kept by sequencing. -/
lemma composes_guarded (X : Crates) (config : GatewayConfig) :
    Composes X config fun _ p => Guarded p where
  ret _ := rfl
  bind := .bind
  call := guarded_call
  append _ := .bind ⟨rfl, fun _ => rfl⟩ fun _ =>
    (guarded_expect _).bind guarded_appendRequiredAuditEvent
  read := ⟨rfl, fun _ => rfl⟩
  send request _ := guarded_guardedSend request

/-! ## Handlers and response tasks -/

variable {X : Crates} {config : GatewayConfig}

/-- **Response tasks** hold a guard only where they may. -/
theorem guarded_responseTask (context : ResponseAuditContext) (response : UpstreamResponse) :
    Guarded (responseTask X context response) :=
  (composes_guarded X context.config).responseTask context response

/-- **Handlers** hold a guard only where they may. -/
theorem guarded_proxy (request : HttpRequest) : Guarded (proxy X config request) :=
  (composes_guarded X config).proxy request

end Custode
