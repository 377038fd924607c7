import Custode.Forwarding
import Custode.Http.Streamed
import Custode.System.Appends

/-!
# What is appended is true

An event says what was denied or sent, and what came of it. `Tells` says what must have happened for
it to be true: of a denial, that its reason held and that nothing was sent; otherwise, that the
upstream request it describes was sent, that the answer was the one it describes, and, for a
response that was streamed, that the stream ended so and had the recorded bytes.

* `appended_event_tells` — over every interleaving, every event whose append is attempted is true of
  its request.
-/

namespace Custode

open Found Program ResponseAccount

/-! ## What an event says -/

section Statements

variable (X : Crates)

/-- The event records the request that was sent upstream. -/
structure AuditEvent.RecordsSent (event : AuditEvent) (sent : UpstreamRequest) : Prop where
  method : AuditMethod.fromMethod sent.method = some event.method
  path : event.upstreamPath = some sent.url.path
  query : event.upstreamQuery = sent.url.query
  body : event.requestBody.Records X sent.body.data

/-- What an event says of the end of a stream: its decision and its error class. -/
def ResponseStreamOutcome.recorded : ResponseStreamOutcome → AuditDecision × Option String
  | allowed => (.allowed, none)
  | downstreamClosed => (.responseError, some "downstream_closed")
  | responseBodyTooLarge _ => (.responseError, some "response_body_too_large")
  | responseStreamTimeout => (.responseError, some "response_stream_timeout")
  | upstreamResponseStreamFailed => (.responseError, some "upstream_response_stream_failed")
  | upstreamResponseTimeout => (.responseError, some "upstream_response_timeout")

variable (config : GatewayConfig)

/-- The history is what came before the append of the event, and the append with what came later, if
it has returned. -/
structure ComesAfter (event : AuditEvent) (history before : List (Event Call.Answer)) : Prop where
  later : history = before ∨ ∃ result rest,
    history = before ++ ⟨.appendEvent event, result⟩ :: rest
  /-- Nothing was appended before. -/
  unaudited : audited before = []

/-- The event records the answer of the upstream, and how its response task streamed it, by what the
task was answered before the append. -/
inductive AuditEvent.RecordsAnswer (event : AuditEvent) (streamed : List (Event Call.Answer)) :
    Except UpstreamErrorKind UpstreamResponse → Prop
  | failed {kind : UpstreamErrorKind} (decision : event.decision = .upstreamError)
      (errorClass : event.errorClass = some (auditUpstreamError kind).errorClass)
      (unobserved : event.responseBody = .notObserved) : RecordsAnswer event streamed (.error kind)
  | refused {response : UpstreamResponse} {error : HeaderError}
      (refused : forwardResponseHeaders response.headers config.maxResponseHeaderBytes =
        some (.error error))
      (decision : event.decision = .responseError)
      (errorClass : event.errorClass = some (auditResponseHeaderError error).errorClass)
      (unobserved : event.responseBody = .notObserved) : RecordsAnswer event streamed (.ok response)
  | streamed {response : UpstreamResponse} {recorded : List Bytes}
      {outcome : ResponseStreamOutcome} {before : List (Event Call.Answer)}
      (appended : ComesAfter event streamed before)
      (ends : StreamEnds X config.maxResponseBytes response.body before recorded outcome)
      (ending : (event.decision, event.errorClass) = outcome.recorded)
      (status : event.status = response.status)
      (records : event.responseBody.Records X (joined recorded)) :
      RecordsAnswer event streamed (.ok response)

/-- The event is true of a request, for what its handler and its response task have done. -/
inductive AuditEvent.Tells (request : HttpRequest) (handled streamed : List (Event Call.Answer))
    (event : AuditEvent) : Prop
  | denied {denial : AuditDenial} {timestamp : AuditTimestamp}
      (holds : DenialHolds config request handled denial) (unsent : Unsent handled)
      (built : AuditEvent.forDenial X denial event.requestId none config.upstreamOrigin timestamp =
        some event)
  | exchanged {target : AllowedTarget} {body : AccountedBody} {sent : UpstreamRequest}
      {answer : Except UpstreamErrorKind UpstreamResponse}
      (exchanged : Exchanged X config handled target body sent answer)
      (only : ∀ other u, ⟨.startSend other, u⟩ ∈ handled → other = sent)
      (recordsSent : event.RecordsSent X sent)
      (recordsAnswer : event.RecordsAnswer X config streamed answer)

end Statements

section Records

variable {X : Crates} {event : AuditEvent}

/-- The class that is recorded. -/
def ResponseAuditOutcome.errorClass : ResponseAuditOutcome → Option String
  | allowed _ _ => none
  | downstreamClosed _ _ => some "downstream_closed"
  | responseBodyTooLarge _ _ => some "response_body_too_large"
  | responseHeaderError error => some error.errorClass
  | responseStreamTimeout _ _ => some "response_stream_timeout"
  | upstreamError error => some error.errorClass
  | upstreamResponseStreamFailed _ _ => some "upstream_response_stream_failed"
  | upstreamResponseTimeout _ _ => some "upstream_response_timeout"

/-- The error class of a response is that of its outcome. -/
lemma errorClass_eventInput (observed : ObservedAuditRequestInput)
    (outcome : ResponseAuditOutcome) :
    (outcome.eventInput observed).outcome.eventParts.2.1 = outcome.errorClass := by
  cases outcome <;> rfl

/-- The event of a response has the error class of its outcome. -/
lemma AuditEvent.errorClass_forResponse {input : ResponseAuditInput} {timestamp : AuditTimestamp}
    (h : AuditEvent.forResponse X input timestamp = some event) :
    event.errorClass = input.outcome.errorClass := by
  obtain ⟨observed, -, hevent⟩ := Option.bind_eq_some_iff.mp h
  obtain ⟨method, -, rfl⟩ := Option.map_eq_some_iff.mp hevent
  exact errorClass_eventInput observed input.outcome

variable (X) in
/-- What the event says of a stream is its outcome. -/
lemma recorded_of_auditOutcome (context : ResponseAuditContext) (outcome : ResponseStreamOutcome) :
    ((context.auditOutcome X outcome).decision, (context.auditOutcome X outcome).errorClass) =
        outcome.recorded ∧ (context.auditOutcome X outcome).status = context.status := by
  cases outcome <;> exact ⟨rfl, rfl⟩

/-- The summary of a request body records its bytes. -/
lemma AuditBodySummary.records_fromRequestBody (body : AccountedBody) :
    (AuditBodySummary.fromRequestBody X body).Records X body.bytes.data := by
  unfold AuditBodySummary.fromRequestBody AccountedBody.observation
  rcases Nat.eq_zero_or_pos body.bytes.data.length with hzero | hpos
  · have hnil : body.bytes.data = [] := List.length_eq_zero_iff.mp hzero
    rw [hnil]
    exact .inl ⟨rfl, rfl⟩
  · have hmax : body.bytes.data.length ≤ u64Max := body.bytes.fits.trans (by decide)
    rw [nonZeroU64_of_pos hpos hmax]
    exact .inr ⟨_, rfl, rfl⟩

/-- The event of an exchange records the request that was sent in it. -/
lemma AuditEvent.recordsSent {input : ResponseAuditInput} {timestamp : AuditTimestamp}
    (h : AuditEvent.forResponse X input timestamp = some event) (headers : ForwardedRequestHeaders)
    (deadline : RequestTimeout) :
    event.RecordsSent X (.fromTarget X input.target headers input.requestBody deadline) := by
  obtain ⟨observed, hobserved, hevent⟩ := Option.bind_eq_some_iff.mp h
  obtain ⟨hrequest, -, hupstream⟩ := eventParts_of_concludes (input.outcome.concludes observed)
  obtain ⟨-, -, -, -, hpath, hquery⟩ := parts_of_newAt hevent
  rw [hupstream] at hpath hquery
  rw [request_of_new hobserved] at hrequest
  rw [observed_new, Option.map_eq_some_iff] at hobserved
  obtain ⟨upstream, htarget, rfl⟩ := hobserved
  obtain ⟨hsamePath, hsameQuery⟩ := forwardedTarget_spec htarget
  have hurl := input.target.upstreamOrigin.joinPathQuery_eq X input.target.target.path
    input.target.target.query
  obtain ⟨method, hmethod, rfl⟩ := Option.map_eq_some_iff.mp hevent
  rw [hrequest] at hmethod
  refine ⟨hmethod, ?_, ?_, ?_⟩
  · rw [hpath, UpstreamRequest.fromTarget, hurl, Option.map_some, hsamePath]
  · rw [hquery, UpstreamRequest.fromTarget, hurl, Option.bind_some, hsameQuery]
  · rw [show (_ : AuditBodySummary) = AuditBodySummary.fromRequestBody X input.requestBody from
      congrArg AuditRequestInput.body hrequest]
    exact AuditBodySummary.records_fromRequestBody input.requestBody

end Records

/-! ## What a party has done -/

section Runs

variable {X : Crates} {config : GatewayConfig} {request : HttpRequest} {α : Type} {p q : Async α}
  {tr : List (Event Call.Answer)} {event : AuditEvent}

/-- What a run appends is what its recorder was ready for. -/
lemma ComesToAppend.recorded {Ready : List (Event Call.Answer) → Call → Prop}
    (hsafe : (Monitor.recorder Ready).Safe p (fun _ _ => True) []) (hruns : p.Runs tr q)
    (h : ComesToAppend tr q event) :
    ∃ pre post, tr = pre ++ post ∧ Ready pre (.appendEvent event) ∧
      (post = [] ∧ (∃ k, q = .call (.appendEvent event) k) ∨
        ∃ result later, post = ⟨.appendEvent event, result⟩ :: later) := by
  rcases h with ⟨result, hmem⟩ | ⟨k, rfl⟩
  · obtain ⟨pre, later, htr, hready⟩ := hsafe.ready_of_mem hruns hmem
    exact ⟨pre, _, htr, hready, .inr ⟨result, later, rfl⟩⟩
  · have hready := hsafe.ready hruns
    rw [Monitor.after_recorder] at hready
    exact ⟨tr, [], (List.append_nil tr).symm, hready, .inl ⟨rfl, k, rfl⟩⟩

/-- A handler sends nothing after its append. -/
lemma Unsent.after_append {q : Async Response} (hruns : (proxy X config request).Runs tr q)
    {pre post : List (Event Call.Answer)} (htr : tr = pre ++ post) (hunsent : Unsent pre)
    (hpost : post = [] ∧ (∃ k, q = .call (.appendEvent event) k) ∨
      ∃ result later, post = ⟨.appendEvent event, result⟩ :: later) :
    Unsent tr := by
  rcases hpost with ⟨rfl, -⟩ | ⟨result, later, rfl⟩
  · rwa [htr, List.append_nil]
  · subst htr
    obtain ⟨k, hpre, hlater⟩ := hruns.split
    have hsafe := ((safe_exchange_proxy X config request).runs hpre).2 result
    intro sent u hmem
    rcases List.mem_append.mp hmem with hmem | hmem
    · exact hunsent sent u hmem
    · obtain ⟨between, _, -, hready⟩ := hsafe.ready_of_mem hlater
        ((List.mem_cons.mp hmem).resolve_left nofun)
      refine hready event result (List.mem_append_left _ ?_)
      rw [Monitor.after_recorder]
      exact List.mem_append_right _ (List.mem_singleton_self _)

/-- A handler sends one request upstream. -/
lemma started_unique {q : Async Response} (hruns : (proxy X config request).Runs tr q)
    {sent other : UpstreamRequest} {u u' : Unit} (hsent : ⟨.startSend sent, u⟩ ∈ tr)
    (hother : ⟨.startSend other, u'⟩ ∈ tr) : other = sent := by
  have hmem := mem_sends_of_started hsent
  have hmem' := mem_sends_of_started hother
  rcases (requestInv_of_runs hruns).sends with hnone | ⟨_, one, -, hone, -⟩
  · rw [hnone] at hmem
    cases hmem
  · rw [hone, List.mem_singleton] at hmem hmem'
    rw [hmem, hmem']

/-- What a handler appends is true. -/
lemma tells_of_handler {q : Async Response} (hruns : (proxy X config request).Runs tr q)
    (h : ComesToAppend tr q event) (streamed : List (Event Call.Answer)) :
    event.Tells X config request tr streamed := by
  obtain ⟨pre, post, htr, hready, hpost⟩ := h.recorded (safe_exchange_proxy X config request) hruns
  have hsub : pre ⊆ tr := htr ▸ List.subset_append_left _ _
  cases hready with
  | @denied denial requestId timestamp holds unsent built =>
      obtain rfl : requestId = event.requestId := (requestId_newAt built).symm
      exact .denied (holds.mono hsub) (unsent.after_append hruns htr hpost) built
  | failed exchanged built =>
      obtain ⟨headers, rfl⟩ := exchanged.built
      obtain ⟨hdecision, hbody, -⟩ := AuditEvent.forResponse_eq_some built
      refine .exchanged (exchanged.mono hsub) ?_ (AuditEvent.recordsSent built headers _)
        (.failed hdecision (AuditEvent.errorClass_forResponse built) hbody)
      exact fun _ _ => started_unique hruns (hsub exchanged.started)
  | refused exchanged refused built =>
      obtain ⟨headers, rfl⟩ := exchanged.built
      obtain ⟨hdecision, hbody, -⟩ := AuditEvent.forResponse_eq_some built
      refine .exchanged (exchanged.mono hsub) ?_ (AuditEvent.recordsSent built headers _)
        (.refused refused hdecision (AuditEvent.errorClass_forResponse built) hbody)
      exact fun _ _ => started_unique hruns (hsub exchanged.started)

end Runs

section Gateway

variable {ι : Type} [DecidableEq ι] {X : Crates} {config : GatewayConfig}
  {requests : ι → HttpRequest} {turns : List (Turn (Party ι) Call.Answer)} {c : GatewayState ι}
  {event : AuditEvent}

/-- A response task was handed over by its handler. -/
lemma handover_of_started (hreach : GatewayReach X config requests turns c) {i : ι}
    {context : ResponseAuditContext} {response : UpstreamResponse}
    (hstarted : ⟨.started, (context, response)⟩ ∈ c.history (.task i)) :
    Handover X config (c.history (.handler i)) context response := by
  have hspawned := spawned_of_mem_tasks ((contactInv_of_reach hreach).started i _ hstarted)
  obtain ⟨pre, post, htr, target, body, sent, requestId, hexchanged, hcontext⟩ :=
    (safe_exchange_proxy X config (requests i)).ready_of_mem (Reach.runs hreach (.handler i))
      hspawned
  refine ⟨target, body, sent, requestId, hexchanged.mono ?_, hcontext⟩
  rw [htr]
  exact List.subset_append_left _ _

omit [DecidableEq ι] in
/-- The history of a task around the one append that it has come to. -/
lemma comesAfter_of_attempts {i : ι} {pre post : List (Event Call.Answer)}
    {started : Event Call.Answer}
    (hattempts : auditAttempts c (.task i) = [event])
    (htr : c.history (.task i) = started :: (pre ++ post))
    (hpost : post = [] ∧ (∃ k, c.rest (.task i) = .call (.appendEvent event) k) ∨
      ∃ result later, post = ⟨.appendEvent event, result⟩ :: later) :
    ComesAfter event (c.history (.task i)) (started :: pre) := by
  rw [auditAttempts, htr] at hattempts
  rcases hpost with ⟨rfl, k, hrest⟩ | ⟨result, later, rfl⟩
  · refine ⟨.inl (by rw [htr, List.append_nil]), ?_⟩
    rw [hrest, List.append_nil] at hattempts
    exact List.append_left_eq_self.mp hattempts
  · refine ⟨.inr ⟨result, later, htr⟩, ?_⟩
    have hnow : audited (⟨.appendEvent event, result⟩ :: later) = event :: audited later := rfl
    rw [← List.cons_append, audited_append, hnow, List.append_assoc,
      List.append_eq_singleton_iff] at hattempts
    rcases hattempts with ⟨hnone, -⟩ | ⟨-, hnil⟩
    · exact hnone
    · cases hnil

/-- What a response task appends is true. -/
lemma tells_of_task (hreach : GatewayReach X config requests turns c) {i : ι}
    (h : Attempts c (.task i) event) :
    event.Tells X config (requests i) (c.history (.handler i)) (c.history (.task i)) := by
  have hruns := Reach.runs hreach (.task i)
  rcases Runs.of_call hruns with ⟨hnothing, hrest⟩ | ⟨⟨context, response⟩, tr, htr, htask⟩
  · rw [Attempts, hnothing, hrest] at h
    rcases h with ⟨result, hmem⟩ | ⟨k, hstands⟩
    · cases hmem
    · cases hstands
  · obtain ⟨target, body, sent, requestId, hexchanged, rfl⟩ :=
      handover_of_started hreach (htr ▸ List.mem_cons_self)
    have happends : ComesToAppend tr (c.rest (.task i)) event := by
      rw [Attempts, htr] at h
      refine h.imp_left ?_
      exact fun ⟨result, hmem⟩ => ⟨result, (List.mem_cons.mp hmem).resolve_left nofun⟩
    have hsafe := safe_streamed_responseTask X
      (.initial config body requestId response.status target) rfl response
    obtain ⟨pre, post, rfl,
        ⟨outcome, recorded, account, timestamp, hends, hrecords, hbuilt⟩, hpost⟩ :=
      happends.recorded hsafe htask
    have hafter := comesAfter_of_attempts (h.attempts_eq hreach) htr hpost
    obtain ⟨headers, rfl⟩ := hexchanged.built
    obtain ⟨hdecision, hbody, hstatus⟩ := AuditEvent.forResponse_eq_some hbuilt
    obtain ⟨hrecorded, hsame⟩ := recorded_of_auditOutcome X
      { ResponseAuditContext.initial config body requestId response.status target with
        responseAccount := account } outcome
    refine .exchanged hexchanged ?_ (AuditEvent.recordsSent hbuilt headers _)
      (.streamed hafter (hends.mono (List.subset_cons_self _ _) rfl) ?_ (hstatus.trans hsame) ?_)
    · exact fun _ _ => started_unique (Reach.runs hreach (.handler i)) hexchanged.started
    · rw [hdecision, AuditEvent.errorClass_forResponse hbuilt]
      exact hrecorded
    · rw [hbody]
      exact hrecords

end Gateway

/-- **What is appended is true.** In every interleaving, with handlers dropped at any await: an
event whose append is attempted tells what happened. A denial's reason held, and nothing was sent
for its request; any other event records the upstream request that was sent and the body that was
read, and the answer to it: a failure, a refusal of the response's headers, or how its response task
streamed it. The recorded bytes of a stream are then those of the chunks that the task was answered
before it appended, all of them unless the send of the chunk before the last one failed or came to
the deadline: the last one is not among them then. -/
theorem appended_event_tells {ι : Type} [DecidableEq ι] (X : Crates) (config : GatewayConfig)
    (requests : ι → HttpRequest) (turns : List (Turn (Party ι) Call.Answer)) (c : GatewayState ι)
    (hreach : GatewayReach X config requests turns c) (p : Party ι) (event : AuditEvent)
    (hattempt : Attempts c p event) :
    event.Tells X config (requests p.request) (c.history (.handler p.request))
      (c.history (.task p.request)) := by
  cases p with
  | handler i => exact tells_of_handler (Reach.runs hreach (.handler i)) hattempt _
  | task i => exact tells_of_task hreach hattempt

/-- The failed send of `GET /v1/models` is true of what was sent and answered. -/
theorem appended_event_tells_upstreamFailed : ∃ turns c event sent kind,
    GatewayReach Reference.crates Reference.config (fun _ : Unit => modelsRequest) turns c ∧
      Attempts c (.handler ()) event ∧ event.RecordsSent Reference.crates sent ∧
      ⟨.startSend sent, ()⟩ ∈ c.history (.handler ()) ∧
      ⟨.awaitSend, .error kind⟩ ∈ c.history (.handler ()) := by
  obtain ⟨turns, c, event, hreach, hattempt, hdecision⟩ := modelsRequest_appended
  have htells := appended_event_tells _ _ _ turns c hreach (.handler ()) event hattempt
  rcases htells with ⟨-, -, hbuilt⟩ | ⟨hexchanged, -, hsent, hanswer⟩
  · rw [(AuditEvent.forDenial_eq_some hbuilt).1] at hdecision
    cases hdecision
  · cases hanswer with
    | failed => exact ⟨turns, c, event, _, _, hreach, hattempt, hsent, hexchanged.started,
        hexchanged.answered⟩
    | refused _ hrefused =>
        rw [hrefused] at hdecision
        cases hdecision
    | @streamed _ _ outcome _ _ _ hending =>
        rw [hdecision] at hending
        cases outcome <;> cases hending

end Custode
