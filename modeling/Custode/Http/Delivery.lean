import Custode.Found.Channel
import Custode.Found.Trace
import Custode.Http.AuditCalls
import Custode.Http.StreamLaw

/-!
# Delivery to a harness that stalls

A response task and the channel to the harness: the task's calls put items into the channel or
reserve a slot of it, the harness takes items out of it or closes it, when it likes and as long as
it likes.

* `Call.deadline` — which waits are under a timeout. The streaming phase and the stream error of an
  abort are; the stream error after an audit failure is not.
* `SendPhase` — what a task has done to the channel, as a monitor. `safe_responseTask_send` follows
  it through the task, and `Fits` relates it to the channel.
* `delivery_bounded_iff` — a run comes to a wait without a deadline on a full channel exactly when
  an audit failure ends its streaming phase while the channel is full.
-/

namespace Custode

open Found ResponseAccount

/-! ## The channel -/

/-- Bounded queue between upstream response reads and downstream response writes.
Source: `http.rs` `RESPONSE_STREAM_CHANNEL_CAPACITY` -/
def responseStreamChannelCapacity : Nat := 8

/-- The channel of a response stream. -/
abbrev ResponseChannel := Channel responseStreamChannelCapacity

/-- A timeout that is armed while the task waits. -/
inductive Deadline where
  /-- `timeout(response_timeout, ..)` -/
  | stream
  /-- `timeout(TERMINAL_STREAM_ERROR_GRACE, ..)` -/
  | grace
  deriving DecidableEq

namespace Call

/-- The timeout around a call.
Source: `http.rs` `response_stream`, `send_stream_error`, `send_terminal_stream_error` -/
def deadline : Call → Option Deadline
  | nextItem | sendChunk _ | reserve => some .stream
  | sendError true => some .grace
  | _ => none

/-- The call waits for a free slot of the channel. -/
def AwaitsSlot : Call → Prop
  | sendChunk _ | reserve | sendError _ => True
  | _ => False

/-- The call is about the upstream body or the channel. -/
def Streams : Call → Prop
  | nextItem | sendChunk _ | reserve | sendReserved _ | dropReserved | sendError _ => True
  | _ => False

/-- An audit call is none of the stream. -/
lemma Audits.not_streams {op : Call} (h : op.Audits) : ¬ op.Streams := by
  cases op <;> first | exact h.elim | exact id

end Call

/-- What an answered call does to the channel. A send under a timeout can end without having sent
anything; any other needs a free slot, or learns that the receiver is gone. -/
def Answered (ch : ResponseChannel) : Event Call.Answer → ResponseChannel → Prop
  | ⟨.sendChunk _, .ok true⟩, ch' => ch.closed = false ∧ ∃ room, ch' = ch.push room
  | ⟨.sendChunk _, .ok false⟩, ch' => ch.closed = true ∧ ch' = ch
  | ⟨.reserve, .ok true⟩, ch' => ch.closed = false ∧ ∃ room, ch' = ch.reserve room
  | ⟨.reserve, .ok false⟩, ch' => ch.closed = true ∧ ch' = ch
  | ⟨.sendReserved _, _⟩, ch' => ∃ held, ch' = ch.fill held
  | ⟨.dropReserved, _⟩, ch' => ch' = ch.unreserve
  | ⟨.sendError _, true⟩, ch' => ch.closed = false ∧ ∃ room, ch' = ch.push room
  | ⟨.sendError false, false⟩, ch' => ch.closed = true ∧ ch' = ch
  | _, ch' => ch' = ch

/-! ## The task and the harness -/

/-- A response task that delivers to a harness. -/
structure Delivery where
  channel : ResponseChannel
  /-- What the task has still to do. -/
  rest : Async Unit

namespace Delivery

/-- One thing that happens. -/
inductive Turn where
  /-- A call of the task is answered. -/
  | call (e : Event Call.Answer)
  /-- The harness receives an item. -/
  | take
  /-- The harness drops the response. -/
  | close

/-- The steps of the task and of the harness. -/
inductive Step : Delivery → Turn → Delivery → Prop
  | call {d : Delivery} {op : Call} {k : op.Answer → Async Unit} {r : op.Answer}
      {ch : ResponseChannel} (head : d.rest = .call op k) (answer : Answered d.channel ⟨op, r⟩ ch) :
      Step d (.call ⟨op, r⟩) ⟨ch, k r⟩
  | take {d : Delivery} (arrived : 0 < d.channel.queued) (opened : d.channel.closed = false) :
      Step d .take ⟨d.channel.take, d.rest⟩
  | close {d : Delivery} : Step d .close ⟨d.channel.close, d.rest⟩

/-- A new response stream.
Source: `http.rs` `response_stream` -/
def start (X : Crates) (context : ResponseAuditContext) (response : UpstreamResponse) : Delivery :=
  ⟨.empty _, responseTask X context response⟩

/-- The task waits for a slot of the full channel, and no deadline is armed. -/
def Stalled (d : Delivery) : Prop :=
  d.channel.Blocks ∧ ∃ op k, d.rest = .call op k ∧ op.AwaitsSlot ∧ op.deadline = none

/-- An audit failure ends the streaming phase while the channel is full. -/
def CutOff (d : Delivery) : Turn → Prop
  | .call e => interruptOf e = some .auditUnavailable ∧ d.channel.Blocks
  | _ => False

end Delivery

/-! ## What a task has done to the channel -/

/-- What a task has done to the channel. -/
inductive SendPhase where
  /-- Nothing. -/
  | clear
  /-- There may be items of it in the channel. -/
  | used
  /-- It has reserved a slot. -/
  | reserved
  /-- It has given its reserved slot back. -/
  | vacant
  /-- It was interrupted by an audit failure. -/
  | interrupted
  deriving DecidableEq

namespace SendPhase

/-- The phase after one more event. -/
def observe (phase : SendPhase) : Event Call.Answer → SendPhase
  | ⟨.nextItem, .error .auditUnavailable⟩ => interrupted
  | ⟨.sendChunk _, .error .auditUnavailable⟩ => interrupted
  | ⟨.reserve, .error .auditUnavailable⟩ => interrupted
  | ⟨.sendChunk _, .ok true⟩ => used
  | ⟨.reserve, .ok true⟩ => reserved
  | ⟨.sendReserved _, _⟩ => used
  | ⟨.dropReserved, _⟩ => vacant
  | ⟨.sendError _, _⟩ => used
  | _ => phase

/-- The phase in which a call is made. -/
def Ready (phase : SendPhase) : Call → Prop
  | .nextItem | .sendChunk _ | .reserve | .sendError true => phase = clear ∨ phase = used
  | .sendReserved _ | .dropReserved => phase = reserved
  | .sendError false => phase = clear ∨ phase = vacant ∨ phase = interrupted
  | _ => phase ≠ interrupted

/-- What the phase says about the channel: in the phases in which the task sends without a deadline,
it does not have to wait. -/
def Fits (ch : ResponseChannel) : SendPhase → Prop
  | clear => ch.queued = 0 ∧ ch.reserved = 0
  | reserved => 0 < ch.reserved
  | vacant | interrupted => ¬ ch.Blocks
  | used => True

end SendPhase

/-- The phase as a monitor. -/
def sendMonitor : Monitor Call.Answer SendPhase := ⟨SendPhase.observe, SendPhase.Ready⟩

/-- The monitor's step is the phase's. -/
@[simp] lemma sendMonitor_observe (phase : SendPhase) (e : Event Call.Answer) :
    sendMonitor.observe phase e = phase.observe e := rfl

/-- The monitor's condition is the phase's. -/
@[simp] lemma sendMonitor_ready (phase : SendPhase) (op : Call) :
    sendMonitor.Ready phase op = phase.Ready op := rfl

section Phases

variable {phase : SendPhase} {α β : Type}

/-- A task that used the channel was not interrupted. -/
lemma SendPhase.used_ne_interrupted : SendPhase.used ≠ .interrupted := by decide

/-- Neither was one that may still stream. -/
lemma SendPhase.ne_interrupted (h : phase = .clear ∨ phase = .used) : phase ≠ .interrupted := by
  rcases h with rfl | rfl
  · decide
  · decide

/-- After an audit failure the task is in the phase for it. -/
lemma SendPhase.observe_interrupted {e : Event Call.Answer}
    (hinterrupt : interruptOf e = some .auditUnavailable) : phase.observe e = interrupted := by
  obtain rfl | ⟨chunk, rfl⟩ | rfl := eq_of_interruptOf hinterrupt
  · rfl
  · rfl
  · rfl

/-- After a timeout it is in the phase that it was in. -/
lemma SendPhase.observe_elapsed {e : Event Call.Answer}
    (hinterrupt : interruptOf e = some .elapsed) : phase.observe e = phase := by
  obtain rfl | ⟨chunk, rfl⟩ | rfl := eq_of_interruptOf hinterrupt
  · rfl
  · rfl
  · rfl

/-- A call that is none of the stream keeps the phase. -/
lemma SendPhase.observe_of_not_streams {op : Call} (h : ¬ op.Streams) (r : op.Answer) :
    phase.observe ⟨op, r⟩ = phase := by
  cases op <;> first | exact (h trivial).elim | rfl

/-- A call that is none of the stream may be made in every phase but the interrupted one. -/
lemma SendPhase.ready_of_not_streams {op : Call} (h : ¬ op.Streams) :
    phase.Ready op ↔ phase ≠ interrupted := by
  cases op <;> first | exact (h trivial).elim | exact Iff.rfl

/-- Auditing leaves the channel alone. -/
lemma safe_send_of_audits {p : Async α} (h : p.Makes Call.Audits) (hphase : phase ≠ .interrupted) :
    sendMonitor.Safe p (fun _ phase' => phase' = phase) phase :=
  Monitor.safe_of_makes h
    (fun _ hop => (SendPhase.ready_of_not_streams hop.not_streams).mpr hphase)
    (fun _ r hop => SendPhase.observe_of_not_streams hop.not_streams r)

/-- After auditing, the task goes on in the same phase. -/
lemma safe_send_bind {p : Async α} {f : α → Async β} {Q : β → SendPhase → Prop}
    (h : p.Makes Call.Audits) (hphase : phase ≠ .interrupted)
    (hf : ∀ a, sendMonitor.Safe (f a) Q phase) : sendMonitor.Safe (p >>= f) Q phase := by
  rw [Monitor.safe_bind]
  apply (safe_send_of_audits h hphase).mono
  rintro a _ rfl
  exact hf a

end Phases

/-! ### The task -/

section Task

variable {X : Crates} {phase : SendPhase}

/-- The phase in which a stream ends. -/
def EndsIn : Except Interrupt ResponseStreamCompletion → SendPhase → Prop
  | .error .auditUnavailable, phase => phase = .interrupted
  | .error .elapsed, phase => phase = .clear ∨ phase = .used
  | .ok (.abort _), phase => phase = .clear ∨ phase = .used
  | .ok .emptyAllowed, phase => phase = .clear
  | .ok (.finalAllowed _), phase => phase = .reserved

/-- A wait of the streaming phase that is interrupted ends the stream. -/
lemma endsIn_of_interrupt (hphase : phase = .clear ∨ phase = .used) {e : Event Call.Answer}
    {interrupt : Interrupt} (hinterrupt : interruptOf e = some interrupt) :
    EndsIn (.error interrupt) (phase.observe e) := by
  cases interrupt with
  | auditUnavailable => exact SendPhase.observe_interrupted hinterrupt
  | elapsed =>
      rw [SendPhase.observe_elapsed hinterrupt]
      exact hphase

/-- The end of the upstream body reserves a slot for the withheld chunk. -/
lemma safe_finishStream_send (account : ResponseAccount) (pending : Option Bytes)
    (hphase : phase = .clear ∨ phase = .used) (hnone : pending = none → phase = .clear) :
    sendMonitor.Safe (finishStream account pending) (fun result => EndsIn result.2) phase := by
  rcases pending with _ | finalChunk
  · exact hnone rfl
  · rw [finishStream, Monitor.safe_bind, Monitor.safe_perform]
    refine ⟨hphase, ?_⟩
    rintro (interrupt | _ | _)
    · exact endsIn_of_interrupt hphase rfl
    · exact hphase
    · rfl

/-- Sending the pending chunk goes on as what follows does. -/
lemma safe_sendPending_send (account : ResponseAccount) (pending : Option Bytes)
    (closed : ResponseStreamAbort) {next : Async StreamResult}
    (hphase : phase = .clear ∨ phase = .used)
    (hnext : ∀ phase', phase' = .clear ∨ phase' = .used →
      sendMonitor.Safe next (fun result => EndsIn result.2) phase') :
    sendMonitor.Safe (sendPending account pending closed next) (fun result => EndsIn result.2)
      phase := by
  rcases pending with _ | chunk
  · exact hnext phase hphase
  · rw [sendPending, Monitor.safe_bind, Monitor.safe_perform]
    refine ⟨hphase, ?_⟩
    rintro (interrupt | _ | _)
    · exact endsIn_of_interrupt hphase rfl
    · exact hphase
    · exact hnext .used (.inr rfl)

/-- **The streaming loop**, by induction on the items: as long as it withholds no chunk, it has done
nothing to the channel. -/
lemma safe_streamUpstreamResponse_send (items : List UpstreamItem) (account : ResponseAccount)
    (pending : Option Bytes) (hphase : phase = .clear ∨ phase = .used)
    (hnone : pending = none → phase = .clear) :
    sendMonitor.Safe (streamUpstreamResponse X account pending items)
      (fun result => EndsIn result.2) phase := by
  induction items generalizing account pending phase with
  | nil =>
      simp only [streamUpstreamResponse, Monitor.safe_bind, Monitor.safe_perform]
      refine ⟨hphase, ?_⟩
      rintro (interrupt | _)
      · exact endsIn_of_interrupt hphase rfl
      · exact safe_finishStream_send account pending hphase hnone
  | cons item items ih =>
      simp only [streamUpstreamResponse, Monitor.safe_bind, Monitor.safe_perform]
      refine ⟨hphase, ?_⟩
      rintro (interrupt | _)
      · exact endsIn_of_interrupt hphase rfl
      · rcases item with kind | chunk
        · exact safe_sendPending_send account pending _ hphase fun _ hphase' => hphase'
        · refine safe_sendPending_send account pending _ hphase fun phase' hphase' => ?_
          apply safe_send_bind (makes_expect trivial _) (SendPhase.ne_interrupted hphase')
          rintro (responseBody | account)
          · exact hphase'
          · exact ih account (some chunk) hphase' (by simp)

/-- The stream error without a deadline is offered in these three phases. -/
lemma safe_sendTerminalStreamError_send
    (hphase : phase = .clear ∨ phase = .vacant ∨ phase = .interrupted) :
    sendMonitor.Safe sendTerminalStreamError (fun _ phase' => phase' ≠ .interrupted) phase := by
  rw [sendTerminalStreamError, Monitor.safe_bind, Monitor.safe_perform]
  exact ⟨hphase, fun _ => SendPhase.used_ne_interrupted⟩

/-- The end of an aborted stream offers its error within a deadline. -/
lemma safe_handleResponseStreamAbort_send (context : ResponseAuditContext)
    (abort : ResponseStreamAbort) (hphase : phase = .clear ∨ phase = .used) :
    sendMonitor.Safe (handleResponseStreamAbort X context abort)
      (fun _ phase' => phase' ≠ .interrupted) phase := by
  have hlive := SendPhase.ne_interrupted hphase
  rw [handleResponseStreamAbort]
  refine safe_send_bind (makes_auditAfterResponseStarted _ _) hlive fun _ => ?_
  split
  · rw [sendStreamError, Monitor.safe_bind, Monitor.safe_perform]
    exact ⟨hphase, fun _ => SendPhase.used_ne_interrupted⟩
  · exact hlive

/-- The stream error without a deadline is sent when nothing was sent before, when the reserved slot
was given back, or after an audit failure. -/
lemma safe_concludeStream_send (context : ResponseAuditContext)
    (result : Except Interrupt ResponseStreamCompletion) (hends : EndsIn result phase) :
    sendMonitor.Safe (concludeStream X context result) (fun _ phase' => phase' ≠ .interrupted)
      phase := by
  rcases result with (_ | _) | (abort | _ | finalChunk)
  · exact safe_sendTerminalStreamError_send (.inr (.inr hends))
  · exact safe_handleResponseStreamAbort_send context _ hends
  · exact safe_handleResponseStreamAbort_send context abort hends
  · obtain rfl : phase = .clear := hends
    apply safe_send_bind (makes_auditAfterResponseStarted _ _) (by decide)
    rintro ⟨_ | _, _⟩
    · exact safe_sendTerminalStreamError_send (.inl rfl)
    · rw [Monitor.safe_pure]
      decide
  · obtain rfl : phase = .reserved := hends
    apply safe_send_bind (makes_auditAfterResponseStarted _ _) (by decide)
    rintro ⟨_ | _, _⟩
    · rw [Monitor.safe_bind, Monitor.safe_perform]
      exact ⟨rfl, fun _ => safe_sendTerminalStreamError_send (.inr (.inl rfl))⟩
    · rw [Monitor.safe_perform]
      exact ⟨rfl, fun _ => SendPhase.used_ne_interrupted⟩

/-- **A response task** makes its sends in their phases, and ends in none that owes a send. -/
theorem safe_responseTask_send (X : Crates) (context : ResponseAuditContext)
    (response : UpstreamResponse) :
    sendMonitor.Safe (responseTask X context response) (fun _ phase => phase ≠ .interrupted)
      .clear := by
  rw [responseTask, Monitor.safe_bind]
  refine (safe_streamUpstreamResponse_send response.body context.responseAccount none (.inl rfl)
    fun _ => rfl).mono ?_
  rintro ⟨account, result⟩ phase hends
  rw [Monitor.safe_bind]
  apply (safe_concludeStream_send _ result hends).mono
  intro _ phase' hlive
  rw [Monitor.safe_perform]
  exact ⟨hlive, fun _ => hlive⟩

end Task

/-! ## Runs of the task and the harness -/

section Runs

variable {ch ch' : ResponseChannel} {phase : SendPhase} {X : Crates}
  {context : ResponseAuditContext} {response : UpstreamResponse} {d d' : Delivery}
  {turn : Delivery.Turn} {steps : List (Delivery × Delivery.Turn)}

/-- An interrupted wait leaves the channel as it was. -/
lemma Answered.interrupted {e : Event Call.Answer} (h : Answered ch e ch')
    {interrupt : Interrupt} (hinterrupt : interruptOf e = some interrupt) : ch' = ch := by
  obtain rfl | ⟨chunk, rfl⟩ | rfl := eq_of_interruptOf hinterrupt
  · exact h
  · exact h
  · exact h

/-- In an interrupted task, the stream error without a deadline is next. -/
lemma SendPhase.eq_sendError {op : Call} (h : SendPhase.interrupted.Ready op) :
    op = .sendError false := by
  cases op with
  | sendError graced =>
      cases graced with
      | false => rfl
      | true => rcases h with h | h <;> cases h
  | nextItem => rcases h with h | h <;> cases h
  | sendChunk chunk => rcases h with h | h <;> cases h
  | reserve => rcases h with h | h <;> cases h
  | sendReserved chunk => cases h
  | dropReserved => cases h
  | _ => exact absurd rfl h

/-- One answered call keeps what the phase says about the channel, unless it is cut off. -/
lemma SendPhase.Fits.answered (h : phase.Fits ch) {op : Call} {r : op.Answer}
    (hready : phase.Ready op) (hanswer : Answered ch ⟨op, r⟩ ch')
    (hgood : ¬ (interruptOf ⟨op, r⟩ = some .auditUnavailable ∧ ch.Blocks)) :
    (phase.observe ⟨op, r⟩).Fits ch' := by
  by_cases hinterrupt : interruptOf ⟨op, r⟩ = some .auditUnavailable
  · rw [observe_interrupted hinterrupt, hanswer.interrupted hinterrupt]
    exact fun hblocks => hgood ⟨hinterrupt, hblocks⟩
  · cases op with
    | nextItem =>
        rcases r with (_ | _) | _
        · exact (hinterrupt rfl).elim
        · obtain rfl := hanswer
          exact h
        · obtain rfl := hanswer
          exact h
    | sendChunk chunk =>
        rcases r with (_ | _) | _ | _
        · exact (hinterrupt rfl).elim
        · obtain rfl := hanswer
          exact h
        · obtain ⟨-, rfl⟩ := hanswer
          exact h
        · trivial
    | reserve =>
        rcases r with (_ | _) | _ | _
        · exact (hinterrupt rfl).elim
        · obtain rfl := hanswer
          exact h
        · obtain ⟨-, rfl⟩ := hanswer
          exact h
        · obtain ⟨-, room, rfl⟩ := hanswer
          exact Nat.succ_pos _
    | sendReserved chunk => trivial
    | dropReserved =>
        obtain rfl := hanswer
        obtain rfl : phase = .reserved := hready
        exact fun hblocks => hblocks.1 (Channel.hasRoom_unreserve h)
    | sendError graced => trivial
    | _ =>
        obtain rfl := hanswer
        exact h

/-- So does the harness, when it receives an item. -/
lemma SendPhase.Fits.take (h : phase.Fits ch) : phase.Fits ch.take := by
  cases phase with
  | clear => exact ⟨by simp [Channel.take, h.1], h.2⟩
  | used => trivial
  | reserved => exact h
  | vacant => exact Channel.not_blocks_take h
  | interrupted => exact Channel.not_blocks_take h

/-- So does the harness, when it drops the response. -/
lemma SendPhase.Fits.close (h : phase.Fits ch) : phase.Fits ch.close := by
  cases phase with
  | clear => exact h
  | used => trivial
  | reserved => exact h
  | vacant => exact Channel.not_blocks_close ch
  | interrupted => exact Channel.not_blocks_close ch

/-- The task stands where its sends are made in their phases. -/
def Delivery.InPhase (d : Delivery) (phase : SendPhase) : Prop :=
  sendMonitor.Safe d.rest (fun _ phase' => phase' ≠ .interrupted) phase

/-- A step keeps the task in a phase. -/
lemma Delivery.Step.inPhase (h : Delivery.Step d turn d') (hphase : d.InPhase phase) :
    ∃ phase', d'.InPhase phase' := by
  cases h with
  | call head answer =>
      rw [Delivery.InPhase, head] at hphase
      exact ⟨_, hphase.2 _⟩
  | take arrived opened => exact ⟨phase, hphase⟩
  | close => exact ⟨phase, hphase⟩

/-- A step that is not cut off keeps the phase and the channel together. -/
lemma Delivery.Step.fits (h : Delivery.Step d turn d') (hgood : ¬ d.CutOff turn)
    (hphase : d.InPhase phase) (hfits : phase.Fits d.channel) :
    ∃ phase', d'.InPhase phase' ∧ phase'.Fits d'.channel := by
  cases h with
  | call head answer =>
      rw [Delivery.InPhase, head] at hphase
      exact ⟨_, hphase.2 _, hfits.answered hphase.1 answer hgood⟩
  | take arrived opened => exact ⟨phase, hphase, hfits.take⟩
  | close => exact ⟨phase, hphase, hfits.close⟩

/-- A task whose channel fits its phase is not stalled. -/
lemma Delivery.not_stalled (hphase : d.InPhase phase) (hfits : phase.Fits d.channel) :
    ¬ d.Stalled := by
  rintro ⟨hblocks, op, k, hrest, hawaits, hdeadline⟩
  rw [Delivery.InPhase, hrest] at hphase
  have hready : phase.Ready op := hphase.1
  cases op with
  | sendError graced =>
      cases graced with
      | true => cases hdeadline
      | false =>
          rcases hready with rfl | rfl | rfl
          · apply hblocks.1
            rw [Channel.HasRoom, hfits.1, hfits.2]
            decide
          · exact hfits hblocks
          · exact hfits hblocks
  | sendChunk chunk => cases hdeadline
  | reserve => cases hdeadline
  | _ => exact hawaits.elim

/-- A task that is cut off is stalled. -/
lemma Delivery.Step.stalled (h : Delivery.Step d turn d') (hcut : d.CutOff turn)
    (hphase : d.InPhase phase) : d'.Stalled := by
  cases h with
  | @call op k r ch head answer =>
      obtain ⟨hinterrupt, hblocks⟩ := hcut
      rw [Delivery.InPhase, head] at hphase
      have hnext := hphase.2 r
      rw [sendMonitor_observe, SendPhase.observe_interrupted hinterrupt] at hnext
      rw [← answer.interrupted hinterrupt] at hblocks
      cases hrest : k r with
      | ret a =>
          rw [hrest] at hnext
          exact (hnext rfl).elim
      | call op' k' =>
          rw [hrest] at hnext
          obtain rfl := SendPhase.eq_sendError hnext.1
          exact ⟨hblocks, .sendError false, k', rfl, trivial, rfl⟩
  | take arrived opened => exact hcut.elim
  | close => exact hcut.elim

end Runs

/-- **Bounded delivery.** A run of a response task, with any upstream items, any answers and any
harness, never waits without a deadline for a slot of the full channel, if and only if no audit
failure ends its streaming phase while the channel is full. -/
theorem delivery_bounded_iff (X : Crates) (context : ResponseAuditContext)
    (response : UpstreamResponse) (steps : List (Delivery × Delivery.Turn)) (d : Delivery)
    (hrun : Trace Delivery.Step (.start X context response) steps d) :
    (∀ u ∈ visited steps d, ¬ u.Stalled) ↔ ∀ step ∈ steps, ¬ step.1.CutOff step.2 := by
  have hstart : (Delivery.start X context response).InPhase .clear :=
    safe_responseTask_send X context response
  constructor
  · intro hbounded step hmem hcut
    have hphases : ∀ u ∈ visited steps d, ∃ phase, u.InPhase phase :=
      hrun.guarded (fun u => ∃ phase, u.InPhase phase) (fun _ _ => False) ⟨_, hstart⟩
        (fun _ _ _ ⟨_, hphase⟩ hstep _ => hstep.inPhase hphase) fun _ _ => id
    obtain ⟨phase, hphase⟩ := hphases step.1
      (List.mem_append_left _ (List.mem_map_of_mem hmem))
    obtain ⟨u, hu, hstep⟩ := hrun.successor step hmem
    exact hbounded u hu (hstep.stalled hcut hphase)
  · intro hgood u hu
    have hfits := hrun.guarded (fun u => ∃ phase, u.InPhase phase ∧ phase.Fits u.channel)
      Delivery.CutOff ⟨_, hstart, rfl, rfl⟩
      (fun _ _ _ ⟨_, hphase, hfits⟩ hstep hgood => hstep.fits hgood hphase hfits) hgood u hu
    obtain ⟨phase, hphase, hfits⟩ := hfits
    exact Delivery.not_stalled hphase hfits

/-! ## A harness that stalls -/

section Stalls

/-- Calls that are answered one after the other, with the harness at rest. -/
inductive AnsweredAll : ResponseChannel → List (Event Call.Answer) → ResponseChannel → Prop
  | nil (ch : ResponseChannel) : AnsweredAll ch [] ch
  | cons {ch ch' ch'' : ResponseChannel} {e : Event Call.Answer} {es : List (Event Call.Answer)}
      (now : Answered ch e ch') (after : AnsweredAll ch' es ch'') : AnsweredAll ch (e :: es) ch''

variable {X : Crates} {config : GatewayConfig} {requestBody : AccountedBody}
  {requestId : RequestId} {status : StatusCode} {target : AllowedTarget} {headers : HeaderMap}

/-- One more answered call. -/
lemma AnsweredAll.snoc {ch ch' ch'' : ResponseChannel} {e : Event Call.Answer}
    {es : List (Event Call.Answer)} (h : AnsweredAll ch es ch') (now : Answered ch' e ch'') :
    AnsweredAll ch (es ++ [e]) ch'' := by
  induction h with
  | nil ch => exact .cons now (.nil _)
  | cons first _ ih => exact .cons first (ih now)

/-- Such calls are a run. -/
lemma trace_of_answeredAll {s d : Delivery} {steps : List (Delivery × Delivery.Turn)}
    {es : List (Event Call.Answer)} {ch : ResponseChannel} {q : Async Unit}
    (h : Trace Delivery.Step s steps d) (hruns : d.rest.Runs es q)
    (hanswers : AnsweredAll d.channel es ch) :
    ∃ steps', Trace Delivery.Step s steps' ⟨ch, q⟩ := by
  induction es generalizing d steps with
  | nil =>
      obtain ⟨channel, rest⟩ := d
      cases hruns
      cases hanswers
      exact ⟨steps, h⟩
  | cons e es ih =>
      cases hanswers with
      | cons now after =>
          generalize hrest : d.rest = p at hruns
          cases hruns with
          | step hruns => exact ih (h.snoc (.call hrest now)) hruns after

/-- With a chunk withheld, every further chunk puts one into the channel. -/
lemma answeredAll_streamed (chunks : List Bytes) (previous : Bytes) {ch : ResponseChannel}
    (hopen : ch.closed = false)
    (hroom : ch.queued + ch.reserved + chunks.length ≤ responseStreamChannelCapacity) :
    ∃ ch', AnsweredAll ch (streamed (some previous) chunks) ch' ∧ ch'.closed = false ∧
      ch'.queued = ch.queued + chunks.length := by
  induction chunks generalizing previous ch with
  | nil => exact ⟨ch, .nil ch, hopen, rfl⟩
  | cons chunk chunks ih =>
      rw [List.length_cons] at hroom
      have room : ch.HasRoom := by
        rw [Channel.HasRoom]
        omega
      have hpushed : (ch.push room).queued + (ch.push room).reserved + chunks.length ≤
          responseStreamChannelCapacity := by
        show ch.queued + 1 + ch.reserved + chunks.length ≤ _
        omega
      obtain ⟨ch', hanswers, hclosed, hqueued⟩ := @ih chunk (ch.push room) hopen hpushed
      refine ⟨ch', .cons rfl (.cons ⟨hopen, room, rfl⟩ hanswers), hclosed, ?_⟩
      rw [hqueued, List.length_cons]
      show ch.queued + 1 + chunks.length = _
      omega

/-- A harness that never reads, and one chunk more than the channel has slots: an audit failure
leaves the task waiting without a deadline. -/
lemma exists_stalled (chunk : Bytes) (chunks : List Bytes)
    (hlength : chunks.length = responseStreamChannelCapacity)
    (hfit : (joined (chunk :: chunks)).length ≤ config.maxResponseBytes.get) :
    ∃ steps d, Trace Delivery.Step (.start X (.initial config requestBody requestId status target)
        ⟨(chunk :: chunks).map .ok, headers, status⟩) steps d ∧ d.Stalled := by
  obtain ⟨account, pending, hstream⟩ := runs_streamed (X := X) (chunk :: chunks) none .nil hfit
  obtain ⟨ch, hanswers, hopen, hqueued⟩ :=
    @answeredAll_streamed chunks chunk (.empty _) rfl (by rw [hlength]; exact Nat.le_refl _)
  -- the audit failure comes while the task waits for the end of the body
  have hcut : (streamUpstreamResponse X (.new config.maxResponseBytes) none
      ((chunk :: chunks).map .ok)).Runs
      (streamed none (chunk :: chunks) ++ [⟨.nextItem, .error .auditUnavailable⟩])
      (.ret (account, .error .auditUnavailable)) :=
    hstream.trans (.step (.refl _))
  have hstart : Trace Delivery.Step (.start X (.initial config requestBody requestId status target)
      ⟨(chunk :: chunks).map .ok, headers, status⟩) [] (.start X _ _) := .nil
  have hfirst : Answered (.empty _) ⟨.nextItem, .ok ()⟩ (.empty _) := rfl
  have hstreamed : AnsweredAll (.empty _) (streamed none (chunk :: chunks)) ch :=
    .cons hfirst hanswers
  have hlast : Answered ch ⟨.nextItem, .error .auditUnavailable⟩ ch := rfl
  obtain ⟨steps, hrun⟩ :=
    trace_of_answeredAll hstart (hcut.bind_left _) (hstreamed.snoc hlast)
  refine ⟨steps, _, hrun, ⟨?_, hopen⟩, .sendError false, _, rfl, trivial, rfl⟩
  show ¬ ch.queued + ch.reserved < responseStreamChannelCapacity
  rw [hqueued, hlength]
  simp [Channel.empty]

end Stalls

/-- A body of nine chunks. -/
def nineChunks : UpstreamResponse := ⟨List.replicate 9 (.ok ⟨[97], by decide⟩), [], .ok⟩

/-- A harness that never reads nine chunks, and an audit failure: the task waits without a
deadline. -/
theorem delivery_stalls :
    ∃ steps d, Trace Delivery.Step
      (.start Reference.crates (.initial Reference.config emptyBody Reference.requestId
        .ok (apostropheTarget 1 (by decide))) nineChunks) steps d ∧ d.Stalled :=
  exists_stalled ⟨[97], by decide⟩ (List.replicate 8 ⟨[97], by decide⟩) (by decide) (by decide)

/-- In such a run, the audit failure comes while the channel is full. -/
theorem delivery_bounded_nineChunks :
    ∃ steps d, Trace Delivery.Step
      (.start Reference.crates (.initial Reference.config emptyBody Reference.requestId
        .ok (apostropheTarget 1 (by decide))) nineChunks) steps d ∧
      ∃ step ∈ steps, step.1.CutOff step.2 := by
  obtain ⟨steps, d, hrun, hstalled⟩ := @exists_stalled Reference.crates Reference.config emptyBody
    Reference.requestId .ok (apostropheTarget 1 (by decide)) []
    ⟨[97], by decide⟩ (List.replicate 8 ⟨[97], by decide⟩) (by decide) (by decide)
  refine ⟨steps, d, hrun, ?_⟩
  by_contra hnone
  have hbounded := (delivery_bounded_iff Reference.crates _ nineChunks steps d hrun).mpr
    fun step hmem hcut => hnone ⟨step, hmem, hcut⟩
  exact hbounded d (by simp [visited]) hstalled

end Custode
