import Custode.Http.Duty
import Custode.System.Contact

/-!
# One append for each request

Over every interleaving of any number of requests, with handlers dropped at any await and audits
that fail: a request has at most one append attempted for it, by its handler or by its response
task, under the identity that was allocated for it, of an event that the gateway decided for it.

`Attempts` and the list `auditAttempts` count an append that is still under way, so that a handler
that was dropped in it counts, too.

* `attempts_eq` — the appends that a run has come to are none, or the one event.
* `append_attempts` — so for each request, over both of its parties.
* `appended_event_policy` — what an appended event says of the request and of upstream.
-/

namespace Custode

open Found Program

/-! ## Runs of one party -/

section Runs

variable {X : Crates} {config : GatewayConfig} {request : HttpRequest} {α : Type} {p q : Async α}
  {duty : Duty} {tr : List (Event Call.Answer)} {event : AuditEvent}

/-- The run has come to an append of the event, and maybe past it. -/
def ComesToAppend (tr : List (Event Call.Answer)) (q : Async α) (event : AuditEvent) : Prop :=
  (∃ result, ⟨.appendEvent event, result⟩ ∈ tr) ∨ ∃ k, q = .call (.appendEvent event) k

/-- A party that appended was ready to, and owes nothing any more. -/
lemma duty_of_appended
    (hsafe : (dutyMonitor X config request).Safe p (fun _ _ => True) duty) (hruns : p.Runs tr q)
    {result : Except AuditError Unit} (hmem : ⟨.appendEvent event, result⟩ ∈ tr) :
    (∃ pre, pre <+: tr ∧ (duty.after pre).Ready X config request (.appendEvent event)) ∧
      duty.after tr = .discharged (some event) := by
  obtain ⟨pre, post, rfl⟩ := List.append_of_mem hmem
  obtain ⟨k, hpre, -⟩ := hruns.split
  have hready := hsafe.ready hpre
  refine ⟨⟨pre, List.prefix_append _ _, hready⟩, ?_⟩
  have hnow : (duty.after pre).observe ⟨.appendEvent event, result⟩ = .discharged (some event) := by
    rcases hready.append_cases with ⟨hduty, -⟩ | ⟨context, -, -, hduty, -⟩
    · rw [show duty.after pre = _ from hduty]
      rfl
    · rw [show duty.after pre = _ from hduty]
      rfl
  rw [Duty.after_cons_append, hnow]
  exact Duty.after_discharged (some event) post

/-- A handler that spawned a task was ready to, and owes nothing any more. -/
lemma duty_of_spawned
    (hsafe : (dutyMonitor X config request).Safe p (fun _ _ => True) duty) (hruns : p.Runs tr q)
    {context : ResponseAuditContext} {response : UpstreamResponse} {u : Unit}
    (hmem : ⟨.spawn context response, u⟩ ∈ tr) :
    (∃ pre, pre <+: tr ∧ duty.after pre = .handling (some context.requestId)) ∧
      targetDecision config request.method request.uri = some (.ok context.target) ∧
      duty.after tr = .discharged none := by
  obtain ⟨pre, post, rfl⟩ := List.append_of_mem hmem
  obtain ⟨k, hpre, -⟩ := hruns.split
  have hready : (duty.after pre).Ready X config request (.spawn context response) :=
    hsafe.ready hpre
  generalize hduty : duty.after pre = before at hready
  cases hready with
  | other keeps => exact keeps.elim
  | spawn decided =>
      refine ⟨⟨pre, List.prefix_append _ _, hduty⟩, decided, ?_⟩
      rw [Duty.after_cons_append, hduty]
      exact Duty.after_discharged none post

/-- A run that has come to an append was ready for it, and now either owes nothing or stands at
it. -/
lemma ComesToAppend.ready
    (hsafe : (dutyMonitor X config request).Safe p (fun _ _ => True) duty) (hruns : p.Runs tr q)
    (h : ComesToAppend tr q event) :
    (∃ pre, pre <+: tr ∧ (duty.after pre).Ready X config request (.appendEvent event)) ∧
      (duty.after tr = .discharged (some event) ∨
        (duty.after tr).Ready X config request (.appendEvent event) ∧
          ∃ k, q = .call (.appendEvent event) k) := by
  rcases h with ⟨result, hmem⟩ | ⟨k, rfl⟩
  · obtain ⟨hpre, hafter⟩ := duty_of_appended hsafe hruns hmem
    exact ⟨hpre, .inl hafter⟩
  · have hready := hsafe.ready hruns
    exact ⟨⟨tr, List.prefix_rfl, hready⟩, .inr ⟨hready, k, rfl⟩⟩

/-- A discharged duty is not ready for another append. -/
lemma not_ready_of_discharged {appended : Option AuditEvent} :
    ¬ (Duty.discharged appended).Ready X config request (.appendEvent event) := by
  intro h
  rcases h.append_cases with ⟨hduty, -⟩ | ⟨context, -, -, hduty, -⟩
  · cases hduty
  · cases hduty

/-! ### Counting -/

/-- The event that discharged the duty. -/
def Duty.appended : Duty → Option AuditEvent
  | .discharged appended => appended
  | _ => none

/-- A duty that is ready for an append was not discharged by one. -/
lemma Duty.Ready.appended_eq_none
    (h : duty.Ready X config request (.appendEvent event)) : duty.appended = none := by
  rcases h.append_cases with ⟨rfl, -⟩ | ⟨context, -, -, rfl, -⟩
  · rfl
  · rfl

/-- The append that is made of it discharges it. -/
lemma Duty.Ready.observe_append (h : duty.Ready X config request (.appendEvent event))
    (result : Except AuditError Unit) :
    duty.observe ⟨.appendEvent event, result⟩ = .discharged (some event) := by
  rcases h.append_cases with ⟨rfl, -⟩ | ⟨context, -, -, rfl, -⟩
  · rfl
  · rfl

/-- Only an append is noted as one. -/
lemma Duty.appended_observe {op : Call} (h : op.audited = none) (r : op.Answer) :
    (duty.observe ⟨op, r⟩).appended = duty.appended := by
  cases op with
  | appendEvent event => cases h
  | nextRequestId =>
      cases duty with
      | handling requestId => cases r <;> rfl
      | _ => rfl
  | _ => cases duty <;> rfl

/-- The appends of a run are the one that discharged its duty. -/
lemma audited_of_runs (hsafe : (dutyMonitor X config request).Safe p (fun _ _ => True) duty)
    (hopen : duty.appended = none) (hruns : p.Runs tr q) :
    audited tr = (duty.after tr).appended.toList := by
  induction tr using List.reverseRecOn generalizing q with
  | nil => rw [audited_nil, Duty.after, List.foldl_nil, hopen, Option.toList_none]
  | append_singleton tr e ih =>
      obtain ⟨op, r⟩ := e
      obtain ⟨k, hpre, -⟩ := hruns.split
      rw [audited_append, ih hpre, Duty.after_snoc, audited_cons, audited_nil, List.append_nil]
      cases haudited : op.audited with
      | none => rw [Duty.appended_observe haudited, Option.toList_none, List.append_nil]
      | some event =>
          cases op with
          | appendEvent event' =>
              cases haudited
              have hready : (duty.after tr).Ready X config request (.appendEvent event) :=
                hsafe.ready hpre
              rw [hready.appended_eq_none, hready.observe_append]
              rfl
          | _ => cases haudited

/-- A run that has come to an append has come to that one only. -/
lemma ComesToAppend.attempts_eq
    (hsafe : (dutyMonitor X config request).Safe p (fun _ _ => True) duty)
    (hopen : duty.appended = none) (hruns : p.Runs tr q) (h : ComesToAppend tr q event) :
    audited tr ++ (q.next.bind Call.audited).toList = [event] := by
  rw [audited_of_runs hsafe hopen hruns]
  rcases (h.ready hsafe hruns).2 with hafter | ⟨hready, k, rfl⟩
  · have hnext : q.next.bind Call.audited = none := by
      rcases q with a | ⟨op, k⟩
      · rfl
      · cases op with
        | appendEvent event' =>
            have hready : (duty.after tr).Ready X config request (.appendEvent event') :=
              hsafe.ready hruns
            rw [hafter] at hready
            exact absurd hready not_ready_of_discharged
        | _ => rfl
    rw [hafter, hnext]
    rfl
  · rw [hready.appended_eq_none]
    rfl

/-- The appends that a run has come to, as a list. -/
lemma mem_attempts_iff :
    event ∈ audited tr ++ (q.next.bind Call.audited).toList ↔ ComesToAppend tr q event := by
  rw [List.mem_append]
  refine or_congr ?_ ?_
  · rw [audited, List.mem_filterMap]
    constructor
    · rintro ⟨⟨op, r⟩, hmem, haudited⟩
      cases op with
      | appendEvent event' =>
          cases haudited
          exact ⟨r, hmem⟩
      | _ => cases haudited
    · rintro ⟨result, hmem⟩
      exact ⟨_, hmem, rfl⟩
  · rcases q with a | ⟨op, k⟩
    · constructor
      · intro hmem
        cases hmem
      · rintro ⟨k, ⟨⟩⟩
    · cases op with
      | appendEvent event' =>
          constructor
          · intro hmem
            cases List.mem_singleton.mp hmem
            exact ⟨k, rfl⟩
          · rintro ⟨k', hcall⟩
            cases hcall
            exact List.mem_singleton_self _
      | _ =>
          constructor
          · intro hmem
            cases hmem
          · rintro ⟨k, ⟨⟩⟩

end Runs

/-! ## Runs of the gateway -/

section Gateway

variable {ι : Type} [DecidableEq ι] {X : Crates} {config : GatewayConfig}
  {requests : ι → HttpRequest} {turns : List (Turn (Party ι) Call.Answer)} {c : GatewayState ι}
  {p p' : Party ι} {event event' : AuditEvent}

/-- What a party owes at its start. -/
def Party.duty : Party ι → Duty
  | handler _ => .handling none
  | task _ => .waiting

omit [DecidableEq ι] in
/-- Every party keeps its duty. -/
lemma safe_gatewayPrograms (p : Party ι) :
    (dutyMonitor X config (requests p.request)).Safe (gatewayPrograms X config requests p)
      (fun _ _ => True) p.duty := by
  cases p with
  | handler i => exact safe_duty_proxy config (requests i)
  | task i => exact safe_duty_task config (requests i)

/-- The party has attempted to append the event, or is attempting it, or was dropped while it
did. -/
def Attempts (c : GatewayState ι) (p : Party ι) (event : AuditEvent) : Prop :=
  ComesToAppend (c.history p) (c.rest p) event

omit [DecidableEq ι] in
/-- A task in the ledger was spawned. -/
lemma spawned_of_mem_tasks {tr : List (Event Call.Answer)} {context : ResponseAuditContext}
    {response : UpstreamResponse} (h : (context, response) ∈ (Ledger.of tr).tasks) :
    ⟨.spawn context response, ()⟩ ∈ tr := by
  induction tr using List.reverseRecOn with
  | nil => cases h
  | append_singleton tr e ih =>
      rw [Ledger.of_snoc] at h
      obtain ⟨op, r⟩ := e
      rcases ((Ledger.of tr).noted op r).tasks with hsame | ⟨context', response', rfl⟩
      · rw [hsame] at h
        exact List.mem_append_left _ (ih h)
      · rcases List.mem_append.mp h with h | h
        · exact List.mem_append_left _ (ih h)
        · cases List.mem_singleton.mp h
          exact List.mem_append_right _ (List.mem_singleton_self _)

omit [DecidableEq ι] in
/-- A send that was started is in the ledger. -/
lemma mem_sends_of_started {tr : List (Event Call.Answer)} {request : UpstreamRequest} {u : Unit}
    (h : ⟨.startSend request, u⟩ ∈ tr) : request ∈ (Ledger.of tr).sends := by
  induction tr using List.reverseRecOn with
  | nil => cases h
  | append_singleton tr e ih =>
      rw [Ledger.of_snoc]
      rcases List.mem_append.mp h with hbefore | hlast
      · obtain ⟨op, r⟩ := e
        rcases ((Ledger.of tr).noted op r).sends with hsame | ⟨request', rfl⟩
        · rw [hsame]
          exact ih hbefore
        · exact List.mem_append_left _ (ih hbefore)
      · cases List.mem_singleton.mp hlast
        exact List.mem_append_right _ (List.mem_singleton_self _)

/-- A response task was spawned by its handler, for the handler's allowed target, under the
handler's identity, and the handler owes nothing any more. -/
lemma handler_of_started (hreach : GatewayReach X config requests turns c) {i : ι}
    {context : ResponseAuditContext} {response : UpstreamResponse}
    (hstarted : ⟨.started, (context, response)⟩ ∈ c.history (.task i)) :
    ⟨.nextRequestId, .ok context.requestId⟩ ∈ c.history (.handler i) ∧
      targetDecision config (requests i).method (requests i).uri = some (.ok context.target) ∧
      Duty.after (.handling none) (c.history (.handler i)) = .discharged none := by
  have hspawned := spawned_of_mem_tasks ((contactInv_of_reach hreach).started i _ hstarted)
  obtain ⟨⟨pre, hpre, hduty⟩, hdecided, hafter⟩ :=
    duty_of_spawned (safe_gatewayPrograms (.handler i)) (Reach.runs hreach (.handler i)) hspawned
  refine ⟨?_, hdecided, hafter⟩
  rcases handler_duty pre with ⟨requestId, hhandling, hgiven⟩ | ⟨appended, hdone⟩
  · rw [Party.duty, hhandling] at hduty
    cases hduty
    exact hpre.subset (hgiven _ rfl)
  · rw [Party.duty, hdone] at hduty
    cases hduty

/-- An append is attempted under the identity that was allocated for the request, of an event that
was decided for it. -/
lemma Attempts.decided (hreach : GatewayReach X config requests turns c)
    (h : Attempts c p event) :
    ⟨.nextRequestId, .ok event.requestId⟩ ∈ c.history (.handler p.request) ∧
      Decided X config (requests p.request) event := by
  obtain ⟨⟨pre, hpre, hready⟩, -⟩ := h.ready (safe_gatewayPrograms p) (Reach.runs hreach p)
  cases p with
  | handler i =>
      rcases handler_duty pre with ⟨requestId, hduty, hgiven⟩ | ⟨appended, hdone⟩
      · rw [Party.duty, hduty] at hready
        rcases hready.append_cases with ⟨hhandling, hdecided⟩ | ⟨_, _, _, hresponding, -⟩
        · cases hhandling
          exact ⟨hpre.subset (hgiven _ rfl), hdecided⟩
        · cases hresponding
      · rw [Party.duty, hdone] at hready
        exact absurd hready not_ready_of_discharged
  | task i =>
      rcases task_duty pre with hduty | ⟨context, response, hduty, hstarted⟩ | ⟨appended, hdone⟩
      · rw [Party.duty, hduty] at hready
        rcases hready.append_cases with ⟨hhandling, -⟩ | ⟨_, _, _, hresponding, -⟩
        · cases hhandling
        · cases hresponding
      · obtain ⟨hgiven, hdecided, -⟩ := handler_of_started hreach (hpre.subset hstarted)
        rw [Party.duty, hduty] at hready
        rcases hready.append_cases with ⟨hhandling, -⟩ |
          ⟨context', input, timestamp, hresponding, hid, htarget, hbuilt⟩
        · cases hhandling
        · cases hresponding
          rw [← htarget] at hdecided
          rw [hid]
          exact ⟨hgiven, .response hdecided hbuilt⟩
      · rw [Party.duty, hdone] at hready
        exact absurd hready not_ready_of_discharged

/-- When the response task attempts an append, the handler has attempted none. -/
lemma Attempts.not_both (hreach : GatewayReach X config requests turns c) {i : ι}
    (h : Attempts c (.handler i) event) (h' : Attempts c (.task i) event') : False := by
  obtain ⟨⟨pre, hpre, hready⟩, -⟩ :=
    h'.ready (safe_gatewayPrograms (.task i)) (Reach.runs hreach (.task i))
  rcases task_duty pre with hduty | ⟨context, response, -, hstarted⟩ | ⟨appended, hdone⟩
  · rw [Party.duty, hduty] at hready
    rcases hready.append_cases with ⟨hhandling, -⟩ | ⟨_, _, _, hresponding, -⟩
    · cases hhandling
    · cases hresponding
  · obtain ⟨-, -, hafter⟩ := handler_of_started hreach (hpre.subset hstarted)
    rcases (h.ready (safe_gatewayPrograms (.handler i)) (Reach.runs hreach (.handler i))).2 with
      hdone | ⟨hready', -⟩
    · rw [Party.duty, hafter] at hdone
      cases hdone
    · rw [Party.duty, hafter] at hready'
      exact not_ready_of_discharged hready'
  · rw [Party.duty, hdone] at hready
    exact not_ready_of_discharged hready

/-- Two attempts for one request are of one party. -/
lemma Attempts.party_eq (hreach : GatewayReach X config requests turns c) (h : Attempts c p event)
    (h' : Attempts c p' event') (hrequest : p.request = p'.request) : p = p' := by
  cases p with
  | handler i =>
      cases p' with
      | handler j => exact congrArg Party.handler hrequest
      | task j =>
          obtain rfl : i = j := hrequest
          exact (h.not_both hreach h').elim
  | task i =>
      cases p' with
      | handler j =>
          obtain rfl : i = j := hrequest
          exact (h'.not_both hreach h).elim
      | task j => exact congrArg Party.task hrequest

/-- The appends that a party has come to are the one. -/
lemma Attempts.attempts_eq (hreach : GatewayReach X config requests turns c)
    (h : Attempts c p event) : auditAttempts c p = [event] := by
  apply ComesToAppend.attempts_eq (safe_gatewayPrograms p) ?_ (Reach.runs hreach p) h
  cases p <;> rfl

/-- Two attempts for one request are one. -/
lemma Attempts.unique (hreach : GatewayReach X config requests turns c) (h : Attempts c p event)
    (h' : Attempts c p' event') (hrequest : p.request = p'.request) : p = p' ∧ event = event' := by
  obtain rfl := h.party_eq hreach h' hrequest
  have hsame : [event] = [event'] := (h.attempts_eq hreach).symm.trans (h'.attempts_eq hreach)
  exact ⟨rfl, List.singleton_injective hsame⟩

/-- Any other party of the request has come to none. -/
lemma Attempts.others_eq (hreach : GatewayReach X config requests turns c) (h : Attempts c p event)
    (hrequest : p'.request = p.request) (hne : p' ≠ p) : auditAttempts c p' = [] := by
  rw [List.eq_nil_iff_forall_not_mem]
  intro event' hmem
  exact hne (Attempts.party_eq hreach (mem_attempts_iff.mp hmem) h hrequest)

/-- A party that has appended does not come to an append again. -/
lemma appended_once (hreach : GatewayReach X config requests turns c)
    {result : Except AuditError Unit} {k : Except AuditError Unit → Async p.Result}
    (hmem : ⟨.appendEvent event', result⟩ ∈ c.history p)
    (hrest : c.rest p = .call (.appendEvent event) k) : False := by
  have hready : (p.duty.after (c.history p)).Ready X config (requests p.request)
      (.appendEvent event) := by
    have hruns := Reach.runs hreach p
    rw [hrest] at hruns
    exact (safe_gatewayPrograms p).ready hruns
  rw [(duty_of_appended (safe_gatewayPrograms p) (Reach.runs hreach p) hmem).2] at hready
  exact not_ready_of_discharged hready

/-! ## What an appended event says -/

/-- The upstream target that is recorded is the accepted one, as it was forwarded. -/
lemma forwardedTarget_spec {path : OriginFormPath} {query : Option OriginFormQuery}
    {target : AuditUpstreamTarget} (h : forwardedTarget path query = some target) :
    target.path = path ∧
      (target.query.map fun q => q.value) = query.map fun q => forwardedQuery q.value := by
  rw [forwardedTarget, Option.map_eq_some_iff] at h
  obtain ⟨forwarded, hforwarded, rfl⟩ := h
  refine ⟨rfl, ?_⟩
  cases query with
  | none =>
      obtain rfl : none = forwarded := Option.some.inj hforwarded
      rfl
  | some query =>
      rcases herror : queryError (forwardedQuery query.value) with _ | error
      · rw [Option.map_some, parseOptionalQuery, OriginFormQuery.parse_eq_ok herror] at hforwarded
        obtain rfl := Option.some.inj hforwarded
        rfl
      · rw [Option.map_some, parseOptionalQuery,
          OriginFormQuery.parse_eq_error_iff.mpr herror] at hforwarded
        cases hforwarded

/-- What an event takes over from its input. -/
lemma parts_of_newAt {input : AuditEventInput} {timestamp : AuditTimestamp}
    (h : AuditEvent.newAt X input timestamp = some event) :
    event.upstreamOrigin = input.request.upstreamOrigin.asStr X ∧
      event.path = input.request.target.path ∧ event.query = input.request.target.query ∧
      event.decision = input.outcome.eventParts.1 ∧
      event.upstreamPath =
        input.outcome.eventParts.2.2.2.2.map (fun target => target.path.value) ∧
      event.upstreamQuery = input.outcome.eventParts.2.2.2.2.bind
        fun target => target.query.map fun query => query.value := by
  obtain ⟨method, -, rfl⟩ := Option.map_eq_some_iff.mp h
  exact ⟨rfl, rfl, rfl, rfl, rfl, rfl⟩

/-- An event says nothing of an upstream target if it is of a denial, and otherwise that the
upstream target is the one in the request's URI, which an operation of the allowlist permits. -/
structure HoldsPolicy (X : Crates) (config : GatewayConfig) (request : HttpRequest)
    (event : AuditEvent) : Prop where
  origin : event.upstreamOrigin = config.upstreamOrigin.asStr X
  denied : event.decision = .denied → event.upstreamPath = none ∧ event.upstreamQuery = none
  permitted : event.decision ≠ .denied → request.uri.authority = none ∧
    ∃ operation ∈ config.allowedOperations, ∃ path : OriginFormPath,
      path.value = request.uri.path ∧ operation.Permits request.method path ∧
      event.path = request.uri.path ∧ event.query = request.uri.query ∧
      event.upstreamPath = some request.uri.path ∧
      event.upstreamQuery = request.uri.query.map forwardedQuery

/-- A decided event keeps the policy. -/
lemma Decided.policy {request : HttpRequest} (h : Decided X config request event) :
    HoldsPolicy X config request event := by
  cases h with
  | denied recordable built =>
      obtain ⟨method, -, rfl⟩ := Option.map_eq_some_iff.mp built
      exact ⟨rfl, fun _ => ⟨rfl, rfl⟩, fun hne => absurd rfl hne⟩
  | @response input timestamp decided built =>
      obtain ⟨observed, hobserved, hevent⟩ := Option.bind_eq_some_iff.mp built
      obtain ⟨hrequest, hdecision, hupstream⟩ :=
        eventParts_of_concludes (input.outcome.concludes observed)
      obtain ⟨horigin, hpath, hquery, hdecided, hupstreamPath, hupstreamQuery⟩ :=
        parts_of_newAt hevent
      rw [request_of_new hobserved] at hrequest
      rw [hrequest] at horigin hpath hquery
      rw [hupstream] at hupstreamPath hupstreamQuery
      rw [observed_new, Option.map_eq_some_iff] at hobserved
      obtain ⟨upstream, htarget, rfl⟩ := hobserved
      obtain ⟨hsamePath, hforwarded⟩ := forwardedTarget_spec htarget
      obtain ⟨-, hauthority, haccepted, hallow⟩ := targetDecision_eq_ok decided
      obtain ⟨huriPath, huriQuery⟩ := AcceptedTarget.new_eq_ok haccepted
      refine ⟨?_, fun hdenied => absurd (hdecided.symm.trans hdenied) hdecision, fun _ => ?_⟩
      · rw [horigin, (allowTarget_eq_ok hallow).2.2]
      · rw [allowTarget] at hallow
        rcases hmethod : allowedMethod config request.method input.target.target with _ | allowed
        · rw [hmethod] at hallow
          cases hallow
        · obtain ⟨-, operation, hmem, hpermits⟩ := allowedMethod_eq_some_iff.mp hmethod
          refine ⟨hauthority, operation, hmem, _, huriPath, hpermits, ?_, ?_, ?_, ?_⟩
          · rw [hpath, AuditTarget.fromAccepted, huriPath]
          · rw [hquery, AuditTarget.fromAccepted, huriQuery]
          · rw [hupstreamPath, Option.map_some, hsamePath, huriPath]
          · rw [hupstreamQuery, Option.bind_some, hforwarded, ← huriQuery,
              AcceptedTarget.queryText, Option.map_map]
            rfl

end Gateway

/-- **One append for each request.** In every interleaving, with handlers dropped at any await: an
append is attempted under the identity that was allocated for its request, of an event that was
decided for the request; it is the one append that its party has come to, and the other party of
the request has come to none. -/
theorem append_attempts {ι : Type} [DecidableEq ι] (X : Crates) (config : GatewayConfig)
    (requests : ι → HttpRequest) (turns : List (Turn (Party ι) Call.Answer)) (c : GatewayState ι)
    (hreach : GatewayReach X config requests turns c) (p : Party ι) (event : AuditEvent)
    (hattempt : Attempts c p event) :
    ⟨.nextRequestId, .ok event.requestId⟩ ∈ c.history (.handler p.request) ∧
      Decided X config (requests p.request) event ∧ auditAttempts c p = [event] ∧
      ∀ p', p'.request = p.request → p' ≠ p → auditAttempts c p' = [] := by
  obtain ⟨hgiven, hdecided⟩ := hattempt.decided hreach
  exact ⟨hgiven, hdecided, hattempt.attempts_eq hreach,
    fun p' hrequest hne => hattempt.others_eq hreach hrequest hne⟩

/-- The failed exchange appends its event. -/
lemma mem_upstreamFailed (kind : UpstreamErrorKind) (timestamp : AuditTimestamp)
    (event : AuditEvent) :
    ⟨.appendEvent event, .ok ()⟩ ∈ upstreamFailed kind timestamp event := by
  simp [upstreamFailed]

/-- A failed exchange is recorded as an upstream error. -/
lemma decision_upstreamError {X : Crates} {error : AuditUpstreamError} {body : AccountedBody}
    {requestId : RequestId} {target : AllowedTarget} {timestamp : AuditTimestamp}
    {event : AuditEvent}
    (h : AuditEvent.forResponse X ⟨.upstreamError error, body, requestId, target⟩ timestamp =
      some event) : event.decision = .upstreamError := by
  obtain ⟨observed, -, hnew⟩ := Option.bind_eq_some_iff.mp h
  exact (parts_of_newAt hnew).2.2.2.1

/-- The failed send of `GET /v1/models` is appended. -/
lemma modelsRequest_appended : ∃ turns c event,
    GatewayReach Reference.crates Reference.config (fun _ : Unit => modelsRequest) turns c ∧
      Attempts c (.handler ()) event ∧ event.decision = .upstreamError := by
  obtain ⟨turns, c, k, hreach, -, hlive, hrest, -, -, -, -, hfails⟩ := modelsRequest_sent
  have hroom : ∀ query ∈ modelsTarget.target.query, HasRoom query.value := by
    rintro query ⟨⟩
  obtain ⟨event, hevent⟩ := Option.ne_none_iff_exists'.mp
    ((AuditEvent.forResponse_ne_none_iff (X := Reference.crates)
      ⟨.upstreamError (auditUpstreamError .connect), emptyBody, Reference.requestId, modelsTarget⟩
      Reference.timestamp).mpr hroom)
  obtain ⟨s, hexecs, -⟩ := execs_upstreamFailed c.shared .connect Reference.timestamp event
  have hruns := hfails .connect Reference.timestamp event hevent
  rw [← hrest] at hruns
  obtain ⟨c', hreach', -, -, hhistory, -⟩ :=
    Reach.call_run (i := Party.handler ()) hreach hlive hruns hexecs
  refine ⟨_, c', event, hreach', .inl ⟨.ok (), ?_⟩, decision_upstreamError hevent⟩
  rw [hhistory, Function.update_self]
  exact List.mem_append_right _ (mem_upstreamFailed .connect Reference.timestamp event)

/-- The append of the failed send of `GET /v1/models`. -/
theorem append_attempts_upstreamFailed : ∃ turns c event,
    GatewayReach Reference.crates Reference.config (fun _ : Unit => modelsRequest) turns c ∧
      Attempts c (.handler ()) event ∧
      ⟨.nextRequestId, .ok event.requestId⟩ ∈ c.history (.handler ()) ∧
      auditAttempts c (.handler ()) = [event] ∧ auditAttempts c (.task ()) = [] := by
  obtain ⟨turns, c, event, hreach, hattempt, -⟩ := modelsRequest_appended
  obtain ⟨hgiven, -, hone, hother⟩ :=
    append_attempts _ _ _ turns c hreach (.handler ()) event hattempt
  exact ⟨turns, c, event, hreach, hattempt, hgiven, hone, hother (.task ()) rfl (by simp)⟩

/-- **What an appended event says of upstream.** In every interleaving: an event that is appended
names the configured origin; if it is of a denial it names no upstream target; otherwise its
request's URI has no authority, an operation of the allowlist permits the request's method and the
path of its URI, and the event's path and query, and its upstream path and query, are those of the
URI, the upstream query in its forwarded spelling. -/
theorem appended_event_policy {ι : Type} [DecidableEq ι] (X : Crates) (config : GatewayConfig)
    (requests : ι → HttpRequest) (turns : List (Turn (Party ι) Call.Answer)) (c : GatewayState ι)
    (hreach : GatewayReach X config requests turns c) (p : Party ι) (event : AuditEvent)
    (hattempt : Attempts c p event) : HoldsPolicy X config (requests p.request) event :=
  (hattempt.decided hreach).2.policy

/-- `GET /v1/models` is permitted where it was sent. -/
theorem appended_event_policy_upstreamFailed : ∃ turns c event,
    GatewayReach Reference.crates Reference.config (fun _ : Unit => modelsRequest) turns c ∧
      Attempts c (.handler ()) event ∧
      ∃ operation ∈ Reference.config.allowedOperations,
        ∃ path : OriginFormPath, operation.Permits Method.get path ∧
          path.value = "/v1/models".toList ∧
          event.upstreamPath = some "/v1/models".toList := by
  obtain ⟨turns, c, event, hreach, hattempt, hdecision⟩ := modelsRequest_appended
  have hpolicy := appended_event_policy _ _ _ turns c hreach (.handler ()) event hattempt
  have hne : event.decision ≠ .denied := by
    rw [hdecision]
    decide
  obtain ⟨-, operation, hmem, path, huri, hpermits, -, -, hupstream, -⟩ := hpolicy.permitted hne
  exact ⟨turns, c, event, hreach, hattempt, operation, hmem, path, hpermits, huri, hupstream⟩

end Custode
