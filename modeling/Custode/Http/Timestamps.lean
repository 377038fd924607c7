import Custode.Http.Composed
import Custode.Http.Duty

/-!
# The timestamps of appended events

A handler and a response task read the clock right before they append, and the event has the
timestamp that was read: `timed_proxy`, `timed_responseTask`.
-/

namespace Custode

open Found

variable {X : Crates} {config : GatewayConfig} {α β : Type}

/-- Remembers what the clock was last read to show; an event may be appended with that timestamp. -/
def clockMonitor : Monitor Call.Answer (Option AuditTimestamp) where
  observe
    | _, ⟨.now, timestamp⟩ => some timestamp
    | last, _ => last
  Ready last op := ∀ event, op = .appendEvent event → last = some event.timestamp

/-- Every event is appended with the timestamp that was read last. -/
def Timed (p : Async α) : Prop := ∀ last, clockMonitor.Safe p (fun _ _ => True) last

/-- The calls that append nothing. -/
def Call.AppendsNothing : Call → Prop
  | appendEvent _ => False
  | _ => True

/-- A call that leaves every duty alone appends nothing. -/
lemma Call.KeepsDuty.appendsNothing {op : Call} (h : op.KeepsDuty) : op.AppendsNothing := by
  cases op with
  | appendEvent event => exact h
  | _ => trivial

/-- A call that appends nothing is always ready. -/
lemma clock_ready (op : Call) (h : op.AppendsNothing) (last : Option AuditTimestamp) :
    clockMonitor.Ready last op := by
  rintro event rfl
  exact h.elim

/-! ## Composing -/

namespace Timed

/-- A sequence of timed parts is timed. -/
lemma bind {p : Async α} {f : α → Async β} (h : Timed p) (hf : ∀ a, Timed (f a)) :
    Timed (p >>= f) := by
  intro last
  rw [Monitor.safe_bind]
  apply (h last).mono
  intro a last' _
  exact hf a last'

/-- A program that appends nothing is timed. -/
lemma of_makes {p : Async α} (h : p.Makes Call.AppendsNothing) : Timed p := by
  induction p with
  | ret a => exact fun _ => trivial
  | call op k ih => exact fun last => ⟨clock_ready op h.1 last, fun r => ih r (h.2 r) _⟩

/-- So is one that leaves every duty alone. -/
lemma of_keeps {p : Async α} (h : p.Makes Call.KeepsDuty) : Timed p :=
  of_makes (h.mono fun _ hop => hop.appendsNothing)

/-- So is one call that appends nothing. -/
lemma call {op : Call} (h : op.AppendsNothing) : Timed (Custode.call op) :=
  of_makes (Program.makes_perform.mpr h)

end Timed

/-- An event is appended with the timestamp it has. -/
lemma clock_appendRequiredAuditEvent (event : AuditEvent) :
    clockMonitor.Safe (Gateway.appendRequiredAuditEvent event) (fun _ _ => True)
      (some event.timestamp) := by
  refine ⟨?_, ?_⟩
  · rintro _ ⟨⟩
    rfl
  · rintro (error | _)
    · exact Timed.of_keeps (keeps_closeForwarding.bind fun _ => Program.makes_ret) _
    · trivial

/-- An event has the timestamp it was built with. -/
lemma timestamp_newAt {input : AuditEventInput} {timestamp : AuditTimestamp} {event : AuditEvent}
    (h : AuditEvent.newAt X input timestamp = some event) : event.timestamp = timestamp := by
  obtain ⟨method, -, rfl⟩ := Option.map_eq_some_iff.mp h
  rfl

/-- The clock is read, an event is built with what it shows, and appended. -/
lemma timed_append (input : AuditEventInput) :
    Timed (do
      let timestamp ← call .now
      let event ← expect (AuditEvent.newAt X input timestamp)
      Gateway.appendRequiredAuditEvent event) := by
  intro last
  refine ⟨clock_ready .now trivial last, fun timestamp => ?_⟩
  change clockMonitor.Safe (expect (AuditEvent.newAt X input timestamp) >>= _) _ (some timestamp)
  rcases hevent : AuditEvent.newAt X input timestamp with _ | event
  · exact ⟨clock_ready .panic trivial _, fun r => r.elim⟩
  · rw [← timestamp_newAt hevent]
    exact clock_appendRequiredAuditEvent event

/-- Nothing is appended in a send. -/
lemma keeps_guardedSend (request : UpstreamRequest) :
    (guardedSend request).Makes Call.KeepsDuty := by
  refine .bind keeps_beginForwarding ?_
  rintro (error | _)
  · trivial
  · exact .bind (makes_keeps trivial) fun _ => .bind (makes_keeps trivial) fun _ =>
      .bind (makes_keeps trivial) fun _ => trivial

/-- A plain call appends nothing. -/
lemma Call.Plain.appendsNothing {op : Call} (h : op.Plain) : op.AppendsNothing := by
  cases op with
  | appendEvent event => exact h
  | _ => trivial

/-- The property is kept by sequencing. -/
lemma composes_timed (X : Crates) (config : GatewayConfig) :
    Composes X config fun _ p => Timed p where
  ret _ _ := trivial
  bind := .bind
  call _ h := .call h.appendsNothing
  append := timed_append
  read := .call trivial
  send request _ := .of_keeps (keeps_guardedSend request)

/-- **Response tasks** append with the timestamp they read. -/
theorem timed_responseTask (context : ResponseAuditContext) (response : UpstreamResponse) :
    Timed (responseTask X context response) :=
  (composes_timed X context.config).responseTask context response

/-- **Handlers** append with the timestamp they read. -/
theorem timed_proxy (request : HttpRequest) : Timed (proxy X config request) :=
  (composes_timed X config).proxy request

/-! ## Runs -/

/-- What the clock was last read to show, it was read to show. -/
lemma now_of_after {tr : List (Event Call.Answer)} {timestamp : AuditTimestamp}
    (h : clockMonitor.after none tr = some timestamp) : ⟨.now, timestamp⟩ ∈ tr := by
  induction tr using List.reverseRecOn with
  | nil => cases h
  | append_singleton tr e ih =>
      rw [Monitor.after_append, Monitor.after_cons, Monitor.after_nil] at h
      obtain ⟨op, r⟩ := e
      cases op with
      | now =>
          obtain rfl : r = timestamp := Option.some.inj h
          exact List.mem_append_right _ (List.mem_singleton_self _)
      | _ => exact List.mem_append_left _ (ih h)

/-- A timed run that has come to an append has read the timestamp of the event. -/
lemma Timed.read {p : Async α} (h : Timed p) {tr : List (Event Call.Answer)} {event : AuditEvent}
    {k : Except AuditError Unit → Async α} (hruns : p.Runs tr (.call (.appendEvent event) k)) :
    ⟨.now, event.timestamp⟩ ∈ tr :=
  now_of_after ((h none).ready hruns event rfl)

end Custode
