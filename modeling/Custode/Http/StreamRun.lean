import Custode.Http.Stream
import Custode.Ledger

/-!
# What a response task does

Every run of a response task, whole or not, is described by its ledger.

* `streamRules` — what holds whenever the task comes to an append or to a send of a chunk, and
  `StreamInv`, what holds after every event.
* `safe_streamUpstreamResponse` — the streaming loop, by induction on the upstream items; the loop
  invariant is `Streaming`.
* `safe_responseTask` — the whole task, up to `StreamExit`.
-/

namespace Custode

open Found ResponseAccount

/-! ## Recorded bytes -/

/-- The summary is that of these bytes. -/
def AuditBodySummary.Records (X : Crates) (summary : AuditBodySummary) (data : List UInt8) : Prop :=
  (summary = .empty ∧ data = []) ∨
    ∃ bytes : NonZeroU64, summary = .nonEmpty (X.blake3 data) bytes ∧ bytes.get = data.length

/-- The oversized body is that of these bytes. -/
def OversizedResponseBody.Records (X : Crates) (body : OversizedResponseBody) (data : List UInt8) :
    Prop :=
  body.observation.blake3 = X.blake3 data ∧ body.observation.bytes.get = data.length

section Rules

variable (X : Crates) (maxBytes : ResponseBodyBytes) (items : List UpstreamItem)

/-- The event may end a response stream with this ledger: it records bytes that start with the
delivered ones, and when it is `allowed` the upstream ended normally and they are all its bytes. -/
def TerminalEvent (l : Ledger) (event : AuditEvent) : Prop :=
  event.decision ≠ .denied ∧ ∃ data, event.responseBody.Records X data ∧
    joined l.delivered <+: data ∧
    (event.decision = .allowed → ∃ chunks, items = chunks.map .ok ∧ data = joined chunks)

/-- The next chunk may be sent: it is the next of the upstream's, it has arrived, and the account
took it. -/
structure NextChunk (l : Ledger) (chunk : Bytes) : Prop where
  pulled : l.delivered.length + 1 < l.pulled
  accounted : ∃ account, Accounted X maxBytes (l.delivered ++ [chunk]) account

/-- What holds at the calls of a response task whose order matters. -/
def streamRules (panic : Prop) : Rules where
  append l event := l.appends = [] ∧ TerminalEvent X items l event
  readRequest _ := False
  readGate _ := False
  startSend _ _ := False
  spawn _ _ _ := False
  sendChunk l chunk := l.appends = [] ∧ NextChunk X maxBytes l chunk ∧
    ∃ item rest, items = (l.delivered ++ [chunk]).map .ok ++ item :: rest
  sendReserved l chunk := NextChunk X maxBytes l chunk ∧
    items = (l.delivered ++ [chunk]).map .ok ∧
    ∃ event, l.appends = [(event, .ok ())] ∧ event.decision = .allowed
  panic l := panic ∧ l.failures = [] ∧ l.reports = []

/-- What holds after every event of a response task. -/
structure StreamInv (l : Ledger) : Prop where
  inOrder : l.delivered.map .ok <+: items
  accounted : ∃ account, Accounted X maxBytes l.delivered account
  audited : l.appends = [] ∨ ∃ event result, l.appends = [(event, result)] ∧
    TerminalEvent X items l event
  lastAudited : items ≠ [] → l.delivered.length = items.length →
    ∃ event, l.appends = [(event, .ok ())] ∧ event.decision = .allowed

end Rules

/-! ## One event -/

section Step

variable {X : Crates} {maxBytes : ResponseBodyBytes} {items : List UpstreamItem} {panic : Prop}
  {l : Ledger}

/-- A response task attempts at most one append. -/
lemma StreamInv.appends_length_le (h : StreamInv X maxBytes items l) : l.appends.length ≤ 1 := by
  rcases h.audited with hnone | ⟨event, result, hone, -⟩
  · simp [hnone]
  · simp [hone]

/-- The invariant is about the appends and the delivered chunks only. -/
lemma StreamInv.keep (h : StreamInv X maxBytes items l) {l' : Ledger}
    (hdelivered : l'.delivered = l.delivered) (happends : l'.appends = l.appends) :
    StreamInv X maxBytes items l' := by
  refine ⟨?_, ?_, ?_, ?_⟩
  · rw [hdelivered]
    exact h.inOrder
  · rw [hdelivered]
    exact h.accounted
  · rw [happends]
    apply h.audited.imp id
    rintro ⟨event, result, hone, hterminal⟩
    refine ⟨event, result, hone, ?_⟩
    rw [TerminalEvent, hdelivered]
    exact hterminal
  · rw [hdelivered, happends]
    exact h.lastAudited

/-- Whatever the task does keeps the invariant. -/
lemma StreamInv.step (h : StreamInv X maxBytes items l) {op : Call} (r : op.Answer)
    (hready : (streamRules X maxBytes items panic).Ready l op) :
    StreamInv X maxBytes items (l.observe ⟨op, r⟩) := by
  have hnoted := l.noted op r
  cases op with
  | appendEvent event =>
      obtain ⟨hquiet, hterminal⟩ := hready
      refine ⟨?_, ?_, .inr ⟨event, r, ?_, ?_⟩, ?_⟩
      · simpa [Ledger.observe] using h.inOrder
      · simpa [Ledger.observe] using h.accounted
      · simp [Ledger.observe, hquiet]
      · simpa [Ledger.observe, TerminalEvent] using hterminal
      · intro hitems hlast
        obtain ⟨event', happends, -⟩ :=
          h.lastAudited hitems (by simpa [Ledger.observe] using hlast)
        rw [hquiet] at happends
        cases happends
  | sendChunk chunk =>
      obtain ⟨hquiet, hnext, item, rest, hitems⟩ := hready
      rcases r with interrupt | closed | sent
      · exact h.keep rfl rfl
      · exact h.keep rfl rfl
      · refine ⟨⟨_, hitems.symm⟩, hnext.accounted, .inl hquiet, ?_⟩
        intro _ hlast
        -- one more item has arrived
        simp [Ledger.observe, hitems] at hlast
  | sendReserved chunk =>
      obtain ⟨hnext, hitems, event, happends, hallowed⟩ := hready
      refine ⟨⟨[], by rw [List.append_nil]; exact hitems.symm⟩, hnext.accounted,
        .inr ⟨event, .ok (), happends, ?_⟩, fun _ _ => ⟨event, happends, hallowed⟩⟩
      rcases h.audited with hnone | ⟨event', result', happends', hdenied, data, hrecords, -, hall⟩
      · rw [hnone] at happends
        cases happends
      · rw [happends', List.singleton_inj, Prod.mk.injEq] at happends
        obtain ⟨rfl, rfl⟩ := happends
        obtain ⟨chunks, hchunks, rfl⟩ := hall hallowed
        have hwhole : l.delivered ++ [chunk] = chunks :=
          List.map_injective_iff.mpr (fun _ _ h => Except.ok.inj h) (hitems.symm.trans hchunks)
        exact ⟨hdenied, _, hrecords, by rw [← hwhole]; exact List.prefix_refl _,
          fun _ => ⟨chunks, hchunks, rfl⟩⟩
  | _ => exact h.keep (hnoted.delivered.resolve_right id) (hnoted.appends.resolve_right (by simp))

end Step

/-! ## The streaming loop -/

section Loop

variable {X : Crates} {maxBytes : ResponseBodyBytes} {items : List UpstreamItem} {panic : Prop}

/-- The loop invariant, in front of the items `rest`: what has arrived is the delivered chunks and
the withheld one, and all of it is accounted. -/
structure Streaming (X : Crates) (maxBytes : ResponseBodyBytes) (items : List UpstreamItem)
    (account : ResponseAccount) (pending : Option Bytes) (rest : List UpstreamItem) (l : Ledger) :
    Prop where
  quiet : l.Quiet
  running : l.interrupt = none
  arrived : items = (l.delivered ++ pending.toList).map .ok ++ rest
  accounted : Accounted X maxBytes (l.delivered ++ pending.toList) account
  pulled : l.pulled = (l.delivered ++ pending.toList).length
  first : pending = none → l.delivered = []

/-- How a timed stream ended, for what was accounted. -/
def EndsAs (X : Crates) (items : List UpstreamItem) (l : Ledger) (seen : List Bytes) :
    Except Interrupt ResponseStreamCompletion → Prop
  | .error interrupt => l.interrupt = some interrupt
  | .ok (.abort abort) => l.interrupt = none ∧ abort.outcome ≠ .allowed ∧
      ∀ body, abort.outcome = .responseBodyTooLarge body →
        ∃ chunk, body.Records X (joined (seen ++ [chunk]))
  | .ok .emptyAllowed => l.interrupt = none ∧ items = [] ∧ seen = []
  | .ok (.finalAllowed chunk) => l.interrupt = none ∧ items = seen.map .ok ∧
      seen = l.delivered ++ [chunk] ∧ l.delivered.length + 1 < l.pulled

/-- What holds when a timed stream has ended. -/
def StreamEnd (X : Crates) (maxBytes : ResponseBodyBytes) (items : List UpstreamItem)
    (result : StreamResult) (l : Ledger) : Prop :=
  l.Quiet ∧ ∃ seen,
    Accounted X maxBytes seen result.1 ∧ l.delivered <+: seen ∧ EndsAs X items l seen result.2

/-- An interrupted stream has ended. -/
lemma Streaming.interrupted {account : ResponseAccount} {pending : Option Bytes}
    {rest : List UpstreamItem} {l : Ledger} (h : Streaming X maxBytes items account pending rest l)
    (interrupt : Interrupt) (pulled : Nat) :
    StreamEnd X maxBytes items (account, .error interrupt)
      { l with pulled := pulled, interrupt := some interrupt } :=
  ⟨h.quiet, _, h.accounted, List.prefix_append _ _, rfl⟩

/-- The withheld chunk is sent, or the stream ends. -/
lemma safe_sendPending {account : ResponseAccount} {pending : Option Bytes} {item : UpstreamItem}
    {rest : List UpstreamItem} {l : Ledger}
    (h : Streaming X maxBytes items account pending (item :: rest) l)
    {closed : ResponseStreamAbort} (hallowed : closed.outcome ≠ .allowed)
    (hlarge : ∀ body, closed.outcome ≠ .responseBodyTooLarge body) {next : Async StreamResult}
    (hnext : (streamRules X maxBytes items panic).monitor.Safe next (StreamEnd X maxBytes items)
      { l with pulled := l.pulled + 1, delivered := l.delivered ++ pending.toList }) :
    (streamRules X maxBytes items panic).monitor.Safe (sendPending account pending closed next)
      (StreamEnd X maxBytes items) { l with pulled := l.pulled + 1 } := by
  rcases pending with _ | chunk
  · simpa [sendPending] using hnext
  · have harrived := h.arrived
    have haccounted := h.accounted
    have hpulled := h.pulled
    simp only [Option.toList_some] at harrived haccounted hpulled
    rw [List.length_append, List.length_singleton] at hpulled
    simp only [sendPending, Monitor.safe_bind, Monitor.safe_perform]
    refine ⟨⟨h.quiet.1, ⟨?_, ⟨account, haccounted⟩⟩, item, rest, harrived⟩, ?_⟩
    · show l.delivered.length + 1 < l.pulled + 1
      omega
    · rintro (interrupt | sent | sent)
      · exact h.interrupted interrupt (l.pulled + 1)
      · exact ⟨h.quiet, _, haccounted, List.prefix_append _ _, h.running, hallowed,
          fun body hbody => absurd hbody (hlarge body)⟩
      · exact hnext

/-- An upstream body error is recorded as neither allowed nor oversized. -/
lemma upstreamBodyErrorOutcome_spec (kind : UpstreamBodyErrorKind) :
    upstreamBodyErrorOutcome kind ≠ .allowed ∧
      ∀ body, upstreamBodyErrorOutcome kind ≠ .responseBodyTooLarge body := by
  cases kind <;> simp [upstreamBodyErrorOutcome]

/-- The end of the upstream body: the withheld chunk waits for its audit. -/
lemma safe_finishStream {account : ResponseAccount} {pending : Option Bytes} {l : Ledger}
    (h : Streaming X maxBytes items account pending [] l) :
    (streamRules X maxBytes items panic).monitor.Safe (finishStream account pending)
      (StreamEnd X maxBytes items) { l with pulled := l.pulled + 1 } := by
  have harrived := h.arrived
  have haccounted := h.accounted
  have hpulled := h.pulled
  rcases pending with _ | finalChunk
  · have hfirst := h.first rfl
    simp only [hfirst, Option.toList_none, List.append_nil, List.map_nil] at harrived haccounted
    exact ⟨h.quiet, [], haccounted, by simp [hfirst], h.running, harrived, rfl⟩
  · simp only [Option.toList_some, List.append_nil] at harrived haccounted hpulled
    rw [List.length_append, List.length_singleton] at hpulled
    simp only [finishStream, Monitor.safe_bind, Monitor.safe_perform]
    refine ⟨trivial, ?_⟩
    rintro (interrupt | closed | reserved)
    · exact h.interrupted interrupt (l.pulled + 1)
    · exact ⟨h.quiet, _, haccounted, List.prefix_append _ _, h.running,
        by simp [ResponseStreamAbort.auditOnly], by simp [ResponseStreamAbort.auditOnly]⟩
    · refine ⟨h.quiet, _, haccounted, List.prefix_append _ _, h.running, harrived, rfl, ?_⟩
      show l.delivered.length + 1 < l.pulled + 1
      omega

/-- A chunk is accounted, or it is over the limit and its bytes are observed. -/
lemma safe_addChunk {rules : Rules} {seen : List Bytes} {account : ResponseAccount} {l : Ledger}
    (haccounted : Accounted X maxBytes seen account) (chunk : Bytes)
    {Q : Except OversizedResponseBody ResponseAccount → Ledger → Prop}
    (hok : ∀ added, Accounted X maxBytes (seen ++ [chunk]) added → Q (.ok added) l)
    (herror : ∀ body : OversizedResponseBody, body.Records X (joined (seen ++ [chunk])) →
      Q (.error body) l) :
    rules.monitor.Safe (expect (account.addChunk X chunk)) Q l := by
  obtain ⟨hs, hfed, -⟩ := haccounted.spec
  rcases addChunk_cases X hs chunk with ⟨-, hadd⟩ | ⟨-, body, hadd, hblake3, hbytes⟩
  · rw [hadd]
    exact hok _ (.snoc haccounted hadd)
  · rw [hadd]
    refine herror body ⟨?_, ?_⟩
    · rw [hblake3, hfed, joined_snoc]
    · rw [hbytes, hfed, joined_snoc, List.length_append]

/-- **The streaming loop**, by induction on the items that are still to come. -/
lemma safe_streamUpstreamResponse (rest : List UpstreamItem) {account : ResponseAccount}
    {pending : Option Bytes} {l : Ledger}
    (h : Streaming X maxBytes items account pending rest l) :
    (streamRules X maxBytes items panic).monitor.Safe
      (streamUpstreamResponse X account pending rest) (StreamEnd X maxBytes items) l := by
  induction rest generalizing account pending l with
  | nil =>
      simp only [streamUpstreamResponse, Monitor.safe_bind, Monitor.safe_perform]
      refine ⟨trivial, ?_⟩
      rintro (interrupt | _)
      · exact h.interrupted interrupt l.pulled
      · exact safe_finishStream h
  | cons item rest ih =>
      simp only [streamUpstreamResponse, Monitor.safe_bind, Monitor.safe_perform]
      refine ⟨trivial, ?_⟩
      rintro (interrupt | _)
      · exact h.interrupted interrupt l.pulled
      · rcases item with kind | chunk
        · obtain ⟨hallowed, hlarge⟩ := upstreamBodyErrorOutcome_spec kind
          apply safe_sendPending h hallowed hlarge
          exact ⟨h.quiet, _, h.accounted, List.prefix_refl _, h.running, hallowed,
            fun body hbody => absurd hbody (hlarge body)⟩
        · refine safe_sendPending h (by simp [ResponseStreamAbort.auditOnly])
            (by simp [ResponseStreamAbort.auditOnly]) ?_
          rw [Monitor.safe_bind]
          apply safe_addChunk h.accounted chunk
          · -- the chunk is withheld from here on
            intro added hadded
            have harrived := h.arrived
            have hpulled := h.pulled
            refine ih ⟨h.quiet, h.running, ?_, hadded, ?_, by simp⟩
            · rw [harrived]
              simp
            · simp only [Option.toList_some, List.length_append, List.length_singleton]
                at hpulled ⊢
              omega
          · intro body hrecords
            refine ⟨h.quiet, _, h.accounted, List.prefix_refl _, h.running,
              by simp [ResponseStreamAbort.withTerminalError], ?_⟩
            intro body' hbody'
            cases hbody'
            exact ⟨chunk, hrecords⟩

end Loop

/-! ## The terminal audit -/

section Conclude

variable {X : Crates} {maxBytes : ResponseBodyBytes} {items : List UpstreamItem}
  {context : ResponseAuditContext} {l : Ledger}

/-- The response body that a sound account reports. -/
lemma records_of_sound {account : ResponseAccount} (hs : account.Sound) :
    (ObservedBodySummary.fromResponseAccount X account).intoSummary.Records X
      account.hasher.fed := by
  rcases observation_of_sound (X := X) hs with ⟨hfed, hempty⟩ | ⟨bytes, hbytes, hnonEmpty⟩
  · rw [ObservedBodySummary.fromResponseAccount, hempty, hfed]
    exact .inl ⟨rfl, rfl⟩
  · rw [ObservedBodySummary.fromResponseAccount, hnonEmpty]
    exact .inr ⟨bytes, rfl, hbytes⟩

/-- What is recorded of a stream outcome. -/
lemma auditOutcome_spec {seen : List Bytes}
    (haccounted : Accounted X maxBytes seen context.responseAccount)
    {outcome : ResponseStreamOutcome}
    (hlarge : ∀ body, outcome = .responseBodyTooLarge body →
      ∃ chunk, body.Records X (joined (seen ++ [chunk]))) :
    (context.auditOutcome X outcome).decision ≠ .denied ∧
      ((context.auditOutcome X outcome).decision = .allowed ↔ outcome = .allowed) ∧
      ∃ data, (context.auditOutcome X outcome).responseBody.Records X data ∧ joined seen <+: data ∧
        (outcome = .allowed → data = joined seen) := by
  obtain ⟨hs, hfed, -⟩ := haccounted.spec
  have hrecords := records_of_sound (X := X) hs
  rw [hfed] at hrecords
  cases outcome with
  | responseBodyTooLarge body =>
      obtain ⟨chunk, hblake3, hbytes⟩ := hlarge body rfl
      refine ⟨by simp [ResponseAuditContext.auditOutcome, ResponseAuditOutcome.decision],
        by simp [ResponseAuditContext.auditOutcome, ResponseAuditOutcome.decision],
        joined (seen ++ [chunk]), .inr ⟨body.observation.bytes, ?_, hbytes⟩, ?_, by simp⟩
      · rw [← hblake3]
        rfl
      · exact joined_mono (List.prefix_append _ _)
  | _ =>
      exact ⟨by simp [ResponseAuditContext.auditOutcome, ResponseAuditOutcome.decision],
        by simp [ResponseAuditContext.auditOutcome, ResponseAuditOutcome.decision],
        joined seen, hrecords, List.prefix_refl _, fun _ => rfl⟩

/-- The event of a stream outcome is a terminal one. -/
lemma terminalEvent_of_outcome {seen : List Bytes}
    (haccounted : Accounted X maxBytes seen context.responseAccount)
    (hdelivered : l.delivered <+: seen) {outcome : ResponseStreamOutcome}
    (hlarge : ∀ body, outcome = .responseBodyTooLarge body →
      ∃ chunk, body.Records X (joined (seen ++ [chunk])))
    (hallowed : outcome = .allowed → items = seen.map .ok) {timestamp : AuditTimestamp}
    {event : AuditEvent}
    (hevent : AuditEvent.forResponse X (context.auditInput X outcome) timestamp = some event) :
    TerminalEvent X items l event ∧ (event.decision = .allowed ↔ outcome = .allowed) := by
  obtain ⟨hdecision, hbody, -⟩ := AuditEvent.forResponse_eq_some hevent
  obtain ⟨hdenied, hiff, data, hrecords, hseen, hwhole⟩ := auditOutcome_spec haccounted hlarge
  rw [← show event.decision = (context.auditOutcome X outcome).decision from hdecision]
    at hdenied hiff
  rw [← show event.responseBody = (context.auditOutcome X outcome).responseBody from hbody]
    at hrecords
  refine ⟨⟨hdenied, data, hrecords, (joined_mono hdelivered).trans hseen, ?_⟩, hiff⟩
  exact fun h => ⟨seen, hallowed (hiff.mp h), hwhole (hiff.mp h)⟩

variable {rules : Rules}

/-- The first terminal audit appends the event of its outcome, and reports a failure. -/
lemma safe_auditAfterResponseStarted (hfirst : context.terminalAuditFinished = false)
    {outcome : ResponseStreamOutcome}
    {Q : Except Unit Unit × ResponseAuditContext → Ledger → Prop}
    (hpanic : ∀ timestamp,
      AuditEvent.forResponse X (context.auditInput X outcome) timestamp = none → rules.panic l)
    (h : ∀ timestamp event,
      AuditEvent.forResponse X (context.auditInput X outcome) timestamp = some event →
      rules.append l event ∧
        Q (.ok (), { context with terminalAuditFinished := true }) (l.appended event (.ok ())) ∧
        ∀ error, Q (.error (), { context with terminalAuditFinished := true })
          { l.appended event (.error error) with
            closed := true, reports := l.reports ++ [.audit error] }) :
    rules.monitor.Safe (context.auditAfterResponseStarted X outcome) Q l := by
  rw [ResponseAuditContext.auditAfterResponseStarted, if_neg (by simp [hfirst]), Monitor.safe_bind]
  apply safe_auditResponse hpanic
  intro timestamp event hevent
  obtain ⟨hready, hok, herror⟩ := h timestamp event hevent
  refine ⟨hready, hok, ?_⟩
  intro error
  simp only [reportFatalError, Monitor.safe_bind, Monitor.safe_perform]
  exact ⟨trivial, fun _ => herror error⟩

/-- How a response task ends: without an audit, because the audit became unavailable; with one
append; or with one failed append, reported once, after which the harness was told if the stream
would have been allowed. -/
inductive StreamExit (l : Ledger) : Prop
  | unavailable (quiet : l.Quiet) (interrupt : l.interrupt = some .auditUnavailable)
  | audited (event : AuditEvent) (interrupt : l.interrupt ≠ some .auditUnavailable)
      (appends : l.appends = [(event, .ok ())]) (failures : l.failures = [])
      (reports : l.reports = [])
  | failed (event : AuditEvent) (error : AuditError)
      (interrupt : l.interrupt ≠ some .auditUnavailable)
      (appends : l.appends = [(event, .error error)]) (failures : l.failures = [.audit error])
      (reports : l.reports = [.audit error]) (closed : l.closed = true)
      (told : event.decision = .allowed → 0 < l.errorSends)

/-- A response task that ended attempted an append unless the audit became unavailable. -/
lemma StreamExit.appends_eq_nil_iff (h : StreamExit l) :
    l.appends = [] ↔ l.interrupt = some .auditUnavailable := by
  rcases h with ⟨hquiet, hinterrupt⟩ | ⟨event, hinterrupt, happends⟩ |
    ⟨event, error, hinterrupt, happends⟩
  · exact ⟨fun _ => hinterrupt, fun _ => hquiet.1⟩
  · simp [hinterrupt, happends]
  · simp [hinterrupt, happends]

/-- An audited stream that may still put something into the channel has ended. -/
lemma streamExit_of_appended (hquiet : l.Quiet)
    (hinterrupt : l.interrupt ≠ some .auditUnavailable) (event : AuditEvent)
    (delivered : List Bytes) (errorSends : Nat) :
    StreamExit
      { l.appended event (.ok ()) with delivered := delivered, errorSends := errorSends } :=
  .audited event hinterrupt (by simp [hquiet.1]) hquiet.2.1 hquiet.2.2

/-- A stream whose audit failed has ended. -/
lemma streamExit_of_failed (hquiet : l.Quiet) (hinterrupt : l.interrupt ≠ some .auditUnavailable)
    (event : AuditEvent) (error : AuditError) (errorSends : Nat)
    (htold : event.decision = .allowed → 0 < errorSends) :
    StreamExit { l.appended event (.error error) with
      closed := true, reports := l.reports ++ [.audit error], errorSends := errorSends } :=
  .failed event error hinterrupt (by simp [hquiet.1])
    (by simp [Ledger.appended, hquiet.2.1]) (by simp [hquiet.2.2]) rfl htold

variable {panic : Prop}

/-- A stream that was not allowed is audited as such. -/
lemma safe_handleResponseStreamAbort (hfirst : context.terminalAuditFinished = false)
    (hpanic : ∀ outcome timestamp,
      AuditEvent.forResponse X (context.auditInput X outcome) timestamp = none → panic)
    (hquiet : l.Quiet) (hinterrupt : l.interrupt ≠ some .auditUnavailable) {seen : List Bytes}
    (haccounted : Accounted X maxBytes seen context.responseAccount)
    (hdelivered : l.delivered <+: seen) {abort : ResponseStreamAbort}
    (hallowed : abort.outcome ≠ .allowed)
    (hlarge : ∀ body, abort.outcome = .responseBodyTooLarge body →
      ∃ chunk, body.Records X (joined (seen ++ [chunk]))) :
    (streamRules X maxBytes items panic).monitor.Safe
      (handleResponseStreamAbort X context abort) (fun _ => StreamExit) l := by
  rw [handleResponseStreamAbort, Monitor.safe_bind]
  refine safe_auditAfterResponseStarted hfirst
    (fun timestamp hnone => ⟨hpanic abort.outcome timestamp hnone, hquiet.2.1,
      hquiet.2.2⟩) ?_
  intro timestamp event hevent
  obtain ⟨hterminal, hiff⟩ : TerminalEvent X items l event ∧ _ :=
    terminalEvent_of_outcome haccounted hdelivered hlarge (fun h => absurd h hallowed) hevent
  refine ⟨⟨hquiet.1, hterminal⟩, ?_, ?_⟩
  · split
    · simp only [sendStreamError, Monitor.safe_bind, Monitor.safe_perform]
      exact ⟨trivial, fun _ => streamExit_of_appended hquiet hinterrupt event _ _⟩
    · exact streamExit_of_appended hquiet hinterrupt event _ _
  · intro error
    have htold : event.decision = .allowed → 0 < l.errorSends :=
      fun h => absurd (hiff.mp h) hallowed
    split
    · simp only [sendStreamError, Monitor.safe_bind, Monitor.safe_perform]
      exact ⟨trivial, fun _ =>
        streamExit_of_failed hquiet hinterrupt event error _ fun _ => Nat.succ_pos _⟩
    · exact streamExit_of_failed hquiet hinterrupt event error _ htold

/-- However the timed stream ended, it is audited once, unless the audit became unavailable. -/
lemma safe_concludeStream (hfirst : context.terminalAuditFinished = false)
    (hpanic : ∀ outcome timestamp,
      AuditEvent.forResponse X (context.auditInput X outcome) timestamp = none → panic)
    {result : Except Interrupt ResponseStreamCompletion}
    (hend : StreamEnd X maxBytes items (context.responseAccount, result) l) :
    (streamRules X maxBytes items panic).monitor.Safe (concludeStream X context result)
      (fun _ => StreamExit) l := by
  obtain ⟨hquiet, seen, haccounted, hdelivered, hends⟩ := hend
  have hpanics : ∀ timestamp,
      AuditEvent.forResponse X (context.auditInput X .allowed) timestamp = none →
        (streamRules X maxBytes items panic).panic l :=
    fun timestamp hnone => ⟨hpanic .allowed timestamp hnone, hquiet.2.1, hquiet.2.2⟩
  rcases result with (_ | _) | (abort | _ | finalChunk)
  · -- the audit became unavailable
    simp only [concludeStream, sendTerminalStreamError, Monitor.safe_bind, Monitor.safe_perform]
    exact ⟨trivial, fun _ => .unavailable hquiet hends⟩
  · -- the deadline of the stream
    have hinterrupt : l.interrupt ≠ some .auditUnavailable := by
      rw [show l.interrupt = some .elapsed from hends]
      simp
    exact safe_handleResponseStreamAbort hfirst hpanic hquiet hinterrupt haccounted hdelivered
      (by simp [ResponseStreamAbort.withTerminalError])
      (by simp [ResponseStreamAbort.withTerminalError])
  · obtain ⟨hnone, hallowed, hlarge⟩ := hends
    exact safe_handleResponseStreamAbort hfirst hpanic hquiet (by simp [hnone]) haccounted
      hdelivered hallowed hlarge
  · obtain ⟨hnone, hitems, hseen⟩ := hends
    subst hseen
    simp only [concludeStream, Monitor.safe_bind]
    apply safe_auditAfterResponseStarted hfirst hpanics
    intro timestamp event hevent
    obtain ⟨hterminal, -⟩ : TerminalEvent X items l event ∧ _ :=
      terminalEvent_of_outcome haccounted hdelivered (by simp) (fun _ => hitems) hevent
    refine ⟨⟨hquiet.1, hterminal⟩, ?_, ?_⟩
    · exact streamExit_of_appended hquiet (by simp [hnone]) event _ _
    · intro error
      simp only [sendTerminalStreamError, Monitor.safe_bind, Monitor.safe_perform]
      exact ⟨trivial, fun _ =>
        streamExit_of_failed hquiet (by simp [hnone]) event error _ fun _ => Nat.succ_pos _⟩
  · obtain ⟨hnone, hitems, hseen, hpulled⟩ := hends
    simp only [concludeStream, Monitor.safe_bind]
    apply safe_auditAfterResponseStarted hfirst hpanics
    intro timestamp event hevent
    obtain ⟨hterminal, hiff⟩ : TerminalEvent X items l event ∧ _ :=
      terminalEvent_of_outcome haccounted hdelivered (by simp) (fun _ => hitems) hevent
    have hdecision : event.decision = .allowed := hiff.mpr rfl
    refine ⟨⟨hquiet.1, hterminal⟩, ?_, ?_⟩
    · -- the withheld chunk goes out after its audit
      rw [Monitor.safe_perform]
      refine ⟨⟨⟨hpulled, context.responseAccount, hseen ▸ haccounted⟩, hseen ▸ hitems, event, ?_,
        hdecision⟩, fun _ => ?_⟩
      · simp [hquiet.1]
      · exact streamExit_of_appended hquiet (by simp [hnone]) event _ _
    · intro error
      simp only [sendTerminalStreamError, Monitor.safe_bind, Monitor.safe_perform]
      exact ⟨trivial, fun _ => ⟨trivial, fun _ =>
        streamExit_of_failed hquiet (by simp [hnone]) event error _ fun _ => Nat.succ_pos _⟩⟩

end Conclude

/-! ## The response task -/

section Task

variable {X : Crates} {config : GatewayConfig} {requestBody : AccountedBody}
  {requestId : RequestId} {status : StatusCode} {target : AllowedTarget} {panic : Prop}

/-- **A whole response task** keeps the rules of the stream and ends as `StreamExit` says. -/
theorem safe_responseTask (response : UpstreamResponse)
    (hpanic : ∀ input timestamp, input.target = target →
      AuditEvent.forResponse X input timestamp = none → panic) :
    (streamRules X config.maxResponseBytes response.body panic).monitor.Safe
      (responseTask X (.initial config requestBody requestId status target) response)
      (fun _ => StreamExit) Ledger.empty := by
  rw [responseTask, Monitor.safe_bind]
  have hstart : Streaming X config.maxResponseBytes response.body
      (.new config.maxResponseBytes) none response.body Ledger.empty :=
    ⟨⟨rfl, rfl, rfl⟩, rfl, rfl, .nil, rfl, fun _ => rfl⟩
  apply Monitor.Safe.mono (safe_streamUpstreamResponse response.body hstart)
  rintro ⟨account, result⟩ l hend
  rw [Monitor.safe_bind]
  refine Monitor.Safe.mono (safe_concludeStream rfl
    (fun outcome timestamp => hpanic _ timestamp rfl) hend) ?_
  intro _ l' hexit
  exact ⟨trivial, fun _ => hexit⟩

/-- What holds after every run of a response task. -/
theorem streamInv_of_runs (response : UpstreamResponse) {tr : List (Event Call.Answer)}
    {q : Async Unit}
    (hrun : (responseTask X (.initial config requestBody requestId status target) response).Runs
      tr q) :
    StreamInv X config.maxResponseBytes response.body (Ledger.of tr) := by
  have hsafe : (streamRules X config.maxResponseBytes response.body True).monitor.Safe
      (responseTask X (.initial config requestBody requestId status target) response)
      (fun _ => StreamExit) Ledger.empty := safe_responseTask response fun _ _ _ _ => trivial
  refine hsafe.invariant
    ⟨List.nil_prefix, ⟨_, .nil⟩, .inl rfl, fun hitems hlast => ?_⟩ ?_ hrun
  · exact absurd (List.length_eq_zero_iff.mp hlast.symm) hitems
  · exact fun l op r h hready => h.step r hready

end Task

end Custode
