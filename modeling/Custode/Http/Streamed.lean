import Custode.Http.Exchange
import Custode.Http.StreamRun

/-!
# What stands behind an event of a response task

A response task appends how its stream ended, and the bytes that it has accounted by then.

* `StreamEnds` — how a stream ended, and the chunks that are recorded of it, against the items that
  the task was answered (`Arrived`); `StreamEvent` — what has happened when a response task appends.
* `streamed_streamUpstreamResponse` — the streaming loop, by induction on the upstream items.
* `safe_streamed_responseTask` — every response task appends only so.
-/

namespace Custode

open Found ResponseAccount

section Statements

variable (X : Crates) (maxBytes : ResponseBodyBytes) (items : List UpstreamItem)

/-- The call was answered with an upstream item, or with the end of the upstream body. -/
def isPull : Event Call.Answer → Bool
  | ⟨.nextItem, .ok ()⟩ => true
  | _ => false

/-- How often the task was answered an upstream item, or the end of the upstream body. -/
def pulls (tr : List (Event Call.Answer)) : Nat := tr.countP isPull

/-- These items have arrived, and no more: not even the end of the body. -/
structure Arrived (tr : List (Event Call.Answer)) (got : List UpstreamItem) : Prop where
  front : got <+: items
  count : pulls tr = got.length

/-- The whole body has arrived, and its end. -/
structure ArrivedWhole (tr : List (Event Call.Answer)) (recorded : List Bytes) : Prop where
  whole : items = recorded.map .ok
  count : pulls tr = items.length + 1

/-- How a stream of these items ended, and the chunks that are recorded of it. A chunk that has
arrived is recorded when the chunk before it was sent, so that the one that was just taken is not
among them when that send fails or comes to the deadline. -/
inductive StreamEnds (tr : List (Event Call.Answer)) :
    List Bytes → ResponseStreamOutcome → Prop
  | allowed {recorded : List Bytes} (arrived : ArrivedWhole items tr recorded) :
      StreamEnds tr recorded .allowed
  /-- The receiver was gone when the chunk before the last one was to be sent. -/
  | sendClosed {recorded : List Bytes} {withheld last : Bytes}
      (arrived : Arrived items tr (recorded.map .ok ++ [.ok last]))
      (behind : recorded.getLast? = some withheld) (gone : ⟨.sendChunk withheld, .ok false⟩ ∈ tr) :
      StreamEnds tr recorded .downstreamClosed
  /-- The receiver was gone when a slot was to be reserved for the last chunk. -/
  | reserveClosed {recorded : List Bytes} (arrived : ArrivedWhole items tr recorded)
      (gone : ⟨.reserve, .ok false⟩ ∈ tr) : StreamEnds tr recorded .downstreamClosed
  | responseBodyTooLarge {seen : List Bytes} {chunk : Bytes} {body : OversizedResponseBody}
      (arrived : Arrived items tr ((seen ++ [chunk]).map .ok))
      (within : (joined seen).length ≤ maxBytes.get)
      (exceeds : maxBytes.get < (joined (seen ++ [chunk])).length)
      (records : body.Records X (joined (seen ++ [chunk]))) :
      StreamEnds tr (seen ++ [chunk]) (.responseBodyTooLarge body)
  /-- The deadline came while the task waited for the next item. -/
  | itemTimeout {recorded : List Bytes} (arrived : Arrived items tr (recorded.map .ok))
      (elapsed : ⟨.nextItem, .error .elapsed⟩ ∈ tr) : StreamEnds tr recorded .responseStreamTimeout
  /-- The deadline came while the chunk before the last item was being sent. -/
  | sendTimeout {recorded : List Bytes} {withheld : Bytes} {item : UpstreamItem}
      (arrived : Arrived items tr (recorded.map .ok ++ [item]))
      (behind : recorded.getLast? = some withheld)
      (elapsed : ⟨.sendChunk withheld, .error .elapsed⟩ ∈ tr) :
      StreamEnds tr recorded .responseStreamTimeout
  /-- The deadline came while a slot was being reserved for the last chunk. -/
  | reserveTimeout {recorded : List Bytes} (arrived : ArrivedWhole items tr recorded)
      (elapsed : ⟨.reserve, .error .elapsed⟩ ∈ tr) : StreamEnds tr recorded .responseStreamTimeout
  | upstreamResponseStreamFailed {recorded : List Bytes}
      (arrived : Arrived items tr (recorded.map .ok ++ [.error .stream])) :
      StreamEnds tr recorded .upstreamResponseStreamFailed
  | upstreamResponseTimeout {recorded : List Bytes}
      (arrived : Arrived items tr (recorded.map .ok ++ [.error .timeout])) :
      StreamEnds tr recorded .upstreamResponseTimeout

/-- The event that a response task appends is of how the stream ended. -/
def StreamEvent (context : ResponseAuditContext) (tr : List (Event Call.Answer))
    (event : AuditEvent) : Prop :=
  ∃ outcome recorded account timestamp, StreamEnds X maxBytes items tr recorded outcome ∧
    (ResponseAuditContext.auditOutcome X { context with responseAccount := account }
      outcome).responseBody.Records X (joined recorded) ∧
    AuditEvent.forResponse X
      (ResponseAuditContext.auditInput X { context with responseAccount := account } outcome)
      timestamp = some event

/-- What a response task calls, after the events `tr`. -/
def StreamedReady (context : ResponseAuditContext) (tr : List (Event Call.Answer)) : Call → Prop
  | .appendEvent event => StreamEvent X maxBytes items context tr event
  | _ => True

/-- The events of a response task, as a monitor. -/
abbrev streamedMonitor (context : ResponseAuditContext) :
    Monitor Call.Answer (List (Event Call.Answer)) :=
  .recorder (StreamedReady X maxBytes items context)

/-- What is audited of a stream that returned, unless the audit became unavailable. -/
def auditedOutcome : Except Interrupt ResponseStreamCompletion → Option ResponseStreamOutcome
  | .error .auditUnavailable => none
  | .error .elapsed => some .responseStreamTimeout
  | .ok (.abort abort) => some abort.outcome
  | .ok .emptyAllowed | .ok (.finalAllowed _) => some .allowed

/-- What a stream that returned has accounted, and how it ended. -/
def StreamReturns (result : StreamResult) (tr : List (Event Call.Answer)) : Prop :=
  ∃ seen, Accounted X maxBytes seen result.1 ∧ ∀ outcome ∈ auditedOutcome result.2,
    ∃ recorded, StreamEnds X maxBytes items tr recorded outcome ∧
      (recorded = seen ∨ ∃ body, outcome = .responseBodyTooLarge body)

end Statements

/-! ## The streaming loop -/

section Loop

variable {X : Crates} {maxBytes : ResponseBodyBytes} {items : List UpstreamItem}
  {context : ResponseAuditContext} {seen : List Bytes} {account : ResponseAccount}
  {tr : List (Event Call.Answer)}

/-- The pulls of two parts of a run add up. -/
lemma pulls_append (tr tr' : List (Event Call.Answer)) :
    pulls (tr ++ tr') = pulls tr + pulls tr' := List.countP_append

/-- Calls that wait for no item pull none. -/
lemma pulls_eq_zero {added : List (Event Call.Answer)} {built : AuditEvent → Prop}
    (h : ∀ e ∈ added, e.1.AppendsOnly built) : pulls added = 0 := by
  rw [pulls, List.countP_eq_zero]
  rintro ⟨op, r⟩ he hpull
  have hop := h _ he
  cases op with
  | nextItem => exact hop
  | _ => cases hpull

/-- One more item, or the end. -/
lemma pulls_nextItem (tr : List (Event Call.Answer)) :
    pulls (tr ++ [⟨.nextItem, .ok ()⟩]) = pulls tr + 1 := pulls_append tr _

/-- How a stream ended is the same with other calls around that pull nothing. -/
lemma StreamEnds.mono {recorded : List Bytes} {outcome : ResponseStreamOutcome}
    {tr' : List (Event Call.Answer)} (h : StreamEnds X maxBytes items tr recorded outcome)
    (hsub : tr ⊆ tr') (hpulls : pulls tr' = pulls tr) :
    StreamEnds X maxBytes items tr' recorded outcome := by
  have hitems : ∀ {got}, Arrived items tr got → Arrived items tr' got :=
    fun harrived => ⟨harrived.front, hpulls.trans harrived.count⟩
  have hwhole : ArrivedWhole items tr recorded → ArrivedWhole items tr' recorded :=
    fun harrived => ⟨harrived.whole, hpulls.trans harrived.count⟩
  cases h with
  | allowed arrived => exact .allowed (hwhole arrived)
  | sendClosed arrived behind gone => exact .sendClosed (hitems arrived) behind (hsub gone)
  | reserveClosed arrived gone => exact .reserveClosed (hwhole arrived) (hsub gone)
  | responseBodyTooLarge arrived within exceeds records =>
      exact .responseBodyTooLarge (hitems arrived) within exceeds records
  | itemTimeout arrived elapsed => exact .itemTimeout (hitems arrived) (hsub elapsed)
  | sendTimeout arrived behind elapsed =>
      exact .sendTimeout (hitems arrived) behind (hsub elapsed)
  | reserveTimeout arrived elapsed => exact .reserveTimeout (hwhole arrived) (hsub elapsed)
  | upstreamResponseStreamFailed arrived =>
      exact .upstreamResponseStreamFailed (hitems arrived)
  | upstreamResponseTimeout arrived => exact .upstreamResponseTimeout (hitems arrived)

/-- What has arrived is the same after calls that pull nothing. -/
lemma Arrived.later {got : List UpstreamItem} (h : Arrived items tr got)
    {added : List (Event Call.Answer)} (hadded : pulls added = 0) :
    Arrived items (tr ++ added) got :=
  ⟨h.front, by rw [pulls_append, hadded, h.count, Nat.add_zero]⟩

/-- So it is for a whole body. -/
lemma ArrivedWhole.later {recorded : List Bytes} (h : ArrivedWhole items tr recorded)
    {added : List (Event Call.Answer)} (hadded : pulls added = 0) :
    ArrivedWhole items (tr ++ added) recorded :=
  ⟨h.whole, by rw [pulls_append, hadded, h.count, Nat.add_zero]⟩

/-- A stream that was interrupted returns. -/
lemma StreamReturns.interrupted (haccounted : Accounted X maxBytes seen account)
    {interrupt : Interrupt}
    (hends : interrupt = .elapsed → StreamEnds X maxBytes items tr seen .responseStreamTimeout) :
    StreamReturns X maxBytes items (account, .error interrupt) tr := by
  refine ⟨seen, haccounted, ?_⟩
  cases interrupt with
  | auditUnavailable => exact nofun
  | elapsed =>
      rintro _ ⟨⟩
      exact ⟨seen, hends rfl, .inl rfl⟩

/-- A stream that returned with an outcome of what was accounted. -/
lemma StreamReturns.ended (haccounted : Accounted X maxBytes seen account)
    {completion : ResponseStreamCompletion} {outcome : ResponseStreamOutcome}
    (houtcome : auditedOutcome (.ok completion) = some outcome)
    (hends : StreamEnds X maxBytes items tr seen outcome) :
    StreamReturns X maxBytes items (account, .ok completion) tr := by
  refine ⟨seen, haccounted, fun outcome' h => ?_⟩
  obtain rfl : outcome = outcome' := Option.some.inj (houtcome.symm.trans h)
  exact ⟨seen, hends, .inl rfl⟩

/-- The event that was just answered is in the history. -/
lemma mem_snoc (tr : List (Event Call.Answer)) (e : Event Call.Answer) : e ∈ tr ++ [e] :=
  List.mem_append_right _ (List.mem_singleton_self _)

/-- The end of the upstream body. -/
lemma streamed_finishStream (haccounted : Accounted X maxBytes seen account)
    (harrived : ArrivedWhole items tr seen) (pending : Option Bytes) :
    (streamedMonitor X maxBytes items context).Safe (finishStream account pending)
      (StreamReturns X maxBytes items) tr := by
  cases pending with
  | none => exact .ended haccounted rfl (.allowed harrived)
  | some chunk =>
      refine ⟨trivial, ?_⟩
      rintro (interrupt | _ | _)
      · refine .interrupted haccounted ?_
        rintro rfl
        exact .reserveTimeout (harrived.later rfl) (mem_snoc tr _)
      · exact .ended haccounted rfl (.reserveClosed (harrived.later rfl) (mem_snoc tr _))
      · exact .ended haccounted rfl (.allowed (harrived.later rfl))

/-- The withheld chunk is sent, or the stream returns without the item that was just taken. -/
lemma streamed_sendPending (haccounted : Accounted X maxBytes seen account) {item : UpstreamItem}
    (harrived : Arrived items tr (seen.map .ok ++ [item])) {closed : ResponseStreamAbort}
    (hclosed : ∀ tr' withheld, Arrived items tr' (seen.map .ok ++ [item]) →
      seen.getLast? = some withheld → ⟨.sendChunk withheld, .ok false⟩ ∈ tr' →
      StreamEnds X maxBytes items tr' seen closed.outcome)
    {next : Async StreamResult}
    (hnext : ∀ tr', Arrived items tr' (seen.map .ok ++ [item]) →
      (streamedMonitor X maxBytes items context).Safe next (StreamReturns X maxBytes items) tr') :
    (streamedMonitor X maxBytes items context).Safe
      (sendPending account seen.getLast? closed next) (StreamReturns X maxBytes items) tr := by
  rcases hwithheld : seen.getLast? with _ | chunk
  · exact hnext tr harrived
  · refine ⟨trivial, ?_⟩
    rintro (interrupt | _ | _)
    · refine .interrupted haccounted ?_
      rintro rfl
      exact .sendTimeout (harrived.later rfl) hwithheld (mem_snoc tr _)
    · exact .ended haccounted rfl (hclosed _ chunk (harrived.later rfl) hwithheld (mem_snoc tr _))
    · exact hnext _ (harrived.later rfl)

/-- An upstream error ends the stream behind the chunks that have arrived. -/
lemma streamEnds_of_upstreamError {kind : UpstreamBodyErrorKind}
    (harrived : Arrived items tr (seen.map .ok ++ [.error kind])) :
    StreamEnds X maxBytes items tr seen (upstreamBodyErrorOutcome kind) := by
  cases kind with
  | stream => exact .upstreamResponseStreamFailed harrived
  | timeout => exact .upstreamResponseTimeout harrived

/-- A chunk that exceeds the limit ends the stream. It is recorded, but not accounted. -/
lemma streamReturns_of_tooLarge (haccounted : Accounted X maxBytes seen account) {chunk : Bytes}
    (harrived : Arrived items tr ((seen ++ [chunk]).map .ok)) {body : OversizedResponseBody}
    (hexceeds : maxBytes.get < (joined (seen ++ [chunk])).length)
    (hrecords : body.Records X (joined (seen ++ [chunk]))) :
    StreamReturns X maxBytes items
      (account, .ok (.abort (.withTerminalError (.responseBodyTooLarge body)))) tr := by
  refine ⟨seen, haccounted, ?_⟩
  rintro _ ⟨⟩
  exact ⟨seen ++ [chunk], .responseBodyTooLarge harrived haccounted.within hexceeds hrecords,
    .inr ⟨body, rfl⟩⟩

/-- **The streaming loop**, by induction on the items that are still to come. The withheld chunk is
the last one that was accounted, and every accounted chunk was pulled once. -/
lemma streamed_streamUpstreamResponse (rest : List UpstreamItem)
    (haccounted : Accounted X maxBytes seen account) (hitems : items = seen.map .ok ++ rest)
    (hpulls : pulls tr = seen.length) :
    (streamedMonitor X maxBytes items context).Safe
      (streamUpstreamResponse X account seen.getLast? rest) (StreamReturns X maxBytes items) tr := by
  induction rest generalizing seen account tr with
  | nil =>
      have hwhole : items = seen.map .ok := by rw [hitems, List.append_nil]
      refine ⟨trivial, ?_⟩
      rintro (interrupt | _)
      · refine .interrupted haccounted ?_
        rintro rfl
        refine .itemTimeout ⟨hwhole ▸ List.prefix_rfl, ?_⟩ (mem_snoc tr _)
        exact (pulls_append tr _).trans (by rw [hpulls, List.length_map]; rfl)
      · refine streamed_finishStream haccounted ⟨hwhole, ?_⟩ seen.getLast?
        exact (pulls_nextItem tr).trans (by rw [hpulls, hwhole, List.length_map])
  | cons item rest ih =>
      have hfront : seen.map .ok ++ [item] <+: items :=
        ⟨rest, by rw [hitems, List.append_assoc, List.singleton_append]⟩
      refine ⟨trivial, ?_⟩
      rintro (interrupt | _)
      · refine .interrupted haccounted ?_
        rintro rfl
        refine .itemTimeout ⟨(List.prefix_append _ _).trans hfront, ?_⟩ (mem_snoc tr _)
        exact (pulls_append tr _).trans (by rw [hpulls, List.length_map]; rfl)
      · have harrived : Arrived items (tr ++ [⟨.nextItem, .ok ()⟩]) (seen.map .ok ++ [item]) := by
          refine ⟨hfront, ?_⟩
          rw [pulls_nextItem, hpulls, List.length_append, List.length_map]
          rfl
        cases item with
        | error kind =>
            exact streamed_sendPending haccounted harrived
              (fun tr' _ harrived' _ _ => streamEnds_of_upstreamError harrived')
              fun tr' harrived' => .ended haccounted rfl (streamEnds_of_upstreamError harrived')
        | ok chunk =>
            refine streamed_sendPending haccounted harrived
              (fun tr' withheld harrived' => .sendClosed harrived') fun tr' harrived' => ?_
            have hsnoc : seen.map .ok ++ [.ok chunk] =
                ((seen ++ [chunk]).map .ok : List UpstreamItem) := by
              rw [List.map_append, List.map_singleton]
            rw [hsnoc] at harrived'
            obtain ⟨hs, hfed, hmax⟩ := haccounted.spec
            rcases addChunk_cases X hs chunk with
              ⟨-, hadd⟩ | ⟨hexceeds, body, hadd, hblake3, hbytes⟩
            · rw [hadd]
              have hrest : items = (seen ++ [chunk]).map .ok ++ rest := by
                rw [hitems, ← hsnoc, List.append_cons]
              have hcount : pulls tr' = (seen ++ [chunk]).length := by
                rw [harrived'.count, List.length_map]
              have hnext := ih (.snoc haccounted hadd) hrest hcount
              rwa [List.getLast?_concat] at hnext
            · rw [hadd]
              rw [hfed] at hexceeds hblake3 hbytes
              rw [hmax] at hexceeds
              refine streamReturns_of_tooLarge haccounted harrived' ?_ ?_
              · rwa [joined_snoc, List.length_append]
              · rw [joined_snoc]
                exact ⟨hblake3, by rw [hbytes, List.length_append]⟩

end Loop

/-! ## The whole task -/

section Task

variable {X : Crates} {maxBytes : ResponseBodyBytes} {items : List UpstreamItem}
  {context : ResponseAuditContext} {built : AuditEvent → Prop}

/-- The audit of an outcome appends its event. -/
lemma auditAfterResponseStarted_appendsOnly {outcome : ResponseStreamOutcome}
    (h : ∀ timestamp event, AuditEvent.forResponse X (context.auditInput X outcome) timestamp =
      some event → built event) :
    (context.auditAfterResponseStarted X outcome).Makes (Call.AppendsOnly built) := by
  rw [ResponseAuditContext.auditAfterResponseStarted]
  split
  · trivial
  · refine .bind (auditResponse_appendsOnly h) ?_
    rintro (error | _)
    · exact .bind (reportFatalError_appendsOnly error) fun _ => Program.makes_ret
    · trivial

/-- So does the handling of an abort. -/
lemma handleResponseStreamAbort_appendsOnly {abort : ResponseStreamAbort}
    (h : ∀ timestamp event, AuditEvent.forResponse X (context.auditInput X abort.outcome)
      timestamp = some event → built event) :
    (handleResponseStreamAbort X context abort).Makes (Call.AppendsOnly built) := by
  refine .bind (auditAfterResponseStarted_appendsOnly h) ?_
  rintro ⟨result, _⟩
  split
  · exact .bind (makes_appendsOnly trivial) fun _ => Program.makes_ret
  · trivial

/-- The terminal stream error appends nothing. -/
lemma sendTerminalStreamError_appendsOnly :
    sendTerminalStreamError.Makes (Call.AppendsOnly built) :=
  .bind (makes_appendsOnly trivial) fun _ => Program.makes_ret

/-- What is appended of a stream is its outcome. -/
lemma concludeStream_appendsOnly {result : Except Interrupt ResponseStreamCompletion}
    (h : ∀ outcome ∈ auditedOutcome result, ∀ timestamp event,
      AuditEvent.forResponse X (context.auditInput X outcome) timestamp = some event →
        built event) :
    (concludeStream X context result).Makes (Call.AppendsOnly built) := by
  rcases result with (_ | _) | (abort | _ | finalChunk)
  · exact sendTerminalStreamError_appendsOnly
  · exact handleResponseStreamAbort_appendsOnly (h _ rfl)
  · exact handleResponseStreamAbort_appendsOnly (h _ rfl)
  · refine .bind (auditAfterResponseStarted_appendsOnly (h _ rfl)) ?_
    rintro ⟨_ | _, _⟩
    · exact sendTerminalStreamError_appendsOnly
    · trivial
  · refine .bind (auditAfterResponseStarted_appendsOnly (h _ rfl)) ?_
    rintro ⟨_ | _, _⟩
    · exact .bind (makes_appendsOnly trivial) fun _ => sendTerminalStreamError_appendsOnly
    · exact makes_appendsOnly trivial

/-- The response body that an outcome records is that of the recorded chunks. -/
lemma auditOutcome_records {seen recorded : List Bytes} {account : ResponseAccount}
    {tr : List (Event Call.Answer)} {outcome : ResponseStreamOutcome}
    (haccounted : Accounted X maxBytes seen account)
    (hends : StreamEnds X maxBytes items tr recorded outcome)
    (hseen : recorded = seen ∨ ∃ body, outcome = .responseBodyTooLarge body) :
    (ResponseAuditContext.auditOutcome X { context with responseAccount := account }
      outcome).responseBody.Records X (joined recorded) := by
  obtain ⟨hs, hfed, -⟩ := haccounted.spec
  have hrecords := records_of_sound (X := X) hs
  rw [hfed] at hrecords
  cases hends
  case responseBodyTooLarge seen' chunk body within exceeds arrived hbody =>
    exact .inr ⟨body.observation.bytes, by rw [← hbody.1]; rfl, hbody.2⟩
  all_goals
    obtain rfl := hseen.resolve_right nofun
    exact hrecords

/-- **Response tasks** append how their stream ended. -/
theorem safe_streamed_responseTask (X : Crates) (context : ResponseAuditContext)
    (hnew : context.responseAccount = .new maxBytes) (response : UpstreamResponse) :
    (streamedMonitor X maxBytes response.body context).Safe (responseTask X context response)
      (fun _ _ => True) [] := by
  have hstart : response.body = ([] : List Bytes).map .ok ++ response.body := rfl
  have hnone : pulls [] = ([] : List Bytes).length := rfl
  rw [responseTask, Monitor.safe_bind, hnew]
  refine (streamed_streamUpstreamResponse response.body .nil hstart hnone).mono ?_
  rintro ⟨account, result⟩ tr ⟨seen, haccounted, hends⟩
  let built : AuditEvent → Prop := fun event => ∃ outcome ∈ auditedOutcome result, ∃ timestamp,
    AuditEvent.forResponse X
      (ResponseAuditContext.auditInput X { context with responseAccount := account } outcome)
      timestamp = some event
  have happends : (do
      concludeStream X { context with responseAccount := account } result
      call .releasePermit).Makes (Call.AppendsOnly built) :=
    .bind (concludeStream_appendsOnly fun outcome houtcome timestamp event hevent =>
      ⟨outcome, houtcome, timestamp, hevent⟩) fun _ => makes_appendsOnly trivial
  refine (Monitor.safe_recorder_of_makes happends ?_).mono fun _ _ _ => trivial
  intro added hadded op hop
  cases op with
  | appendEvent event =>
      obtain ⟨outcome, houtcome, timestamp, hevent⟩ := hop
      obtain ⟨recorded, hstream, hseen⟩ := hends outcome houtcome
      refine ⟨outcome, recorded, account, timestamp, hstream.mono (List.subset_append_left _ _) ?_,
        auditOutcome_records haccounted hstream hseen, hevent⟩
      rw [pulls_append, pulls_eq_zero hadded, Nat.add_zero]
  | _ => trivial

end Task

end Custode
