import Custode.Audit.Upstream
import Custode.Http.RequestLaw
import Custode.Http.StreamLaw
import Custode.Reference
import Custode.System.Parties

/-!
# Upstream contact and its audit

A handler that has started an upstream send may be dropped before anything was audited: the server
drops it when the harness closes its connection. `contact_audited` says which drops these are;
without them every request that was sent ends with an audit append or with a closed gate.

`ContactInv` ties what the parties have done to what they share.
-/

namespace Custode

open Found Found.Text

/-! ## What was done and what is shared -/

section Invariant

variable {ι : Type}

/-- The flag is set once a party has closed the gate or was interrupted for it, and the spawned
tasks are those that the handlers have spawned. -/
structure ContactInv (s : Shared ι) (hist : Party ι → List (Event Call.Answer)) : Prop where
  closed : ∀ p, (Ledger.of (hist p)).closed = true → s.auditFailed = true
  interrupted : ∀ p, (Ledger.of (hist p)).interrupt = some .auditUnavailable →
    s.auditFailed = true
  spawned : ∀ i task, s.spawned i = some task → task ∈ (Ledger.of (hist (.handler i))).tasks
  unspawned : ∀ i, s.spawned i = none → (Ledger.of (hist (.handler i))).tasks = []
  started : ∀ i task, ⟨.started, task⟩ ∈ hist (.task i) →
    task ∈ (Ledger.of (hist (.handler i))).tasks

/-- The invariant at the start. -/
lemma ContactInv.start (config : GatewayConfig) :
    ContactInv (Shared.start config : Shared ι) fun _ => [] := by
  refine ⟨?_, ?_, ?_, fun i _ => rfl, ?_⟩
  · intro p h
    cases h
  · intro p h
    cases h
  · intro i task h
    cases h
  · intro i task h
    cases h

variable [DecidableEq ι] {s s' : Shared ι} {hist : Party ι → List (Event Call.Answer)}
  {p : Party ι} {op : Call} {r : op.Answer}

/-- The flag stays set. -/
lemma Shared.Exec.auditFailed (h : Shared.Exec p s ⟨op, r⟩ s') (hset : s.auditFailed = true) :
    s'.auditFailed = true :=
  h.effect.flag.elim (fun heq => heq.trans hset) fun hstore => hstore.2

/-- A request without a spawned task has spawned none now. -/
lemma Shared.Exec.unspawned (h : Shared.Exec p s ⟨op, r⟩ s') {i : ι} (hnone : s'.spawned i = none) :
    s.spawned i = none ∧ ∀ context response, op = .spawn context response → p ≠ .handler i := by
  by_cases hop : ∃ context response, op = .spawn context response
  · obtain ⟨context, response, rfl⟩ := hop
    obtain ⟨-, rfl⟩ := h
    by_cases hi : i = p.request
    · subst hi
      simp at hnone
    · refine ⟨(Function.update_of_ne hi _ _).symm.trans hnone, ?_⟩
      rintro _ _ - rfl
      exact hi rfl
  · refine ⟨?_, fun context response hspawn => (hop ⟨context, response, hspawn⟩).elim⟩
    rcases h.effect.tasks with hsame | ⟨context, response, hspawn, -⟩
    · rw [← hsame]
      exact hnone
    · exact (hop ⟨context, response, hspawn⟩).elim

/-- The ledgers after one more call. -/
lemma ledger_update (hist : Party ι → List (Event Call.Answer)) (p q : Party ι)
    (e : Event Call.Answer) :
    Ledger.of (Function.update hist p (hist p ++ [e]) q) =
      if q = p then (Ledger.of (hist p)).observe e else Ledger.of (hist q) := by
  by_cases hqp : q = p
  · subst hqp
    rw [Function.update_self, Ledger.of_snoc, if_pos rfl]
  · rw [Function.update_of_ne hqp, if_neg hqp]

/-- No task is forgotten. -/
lemma mem_tasks_update {q : Party ι} {e : Event Call.Answer}
    {task : ResponseAuditContext × UpstreamResponse} (hmem : task ∈ (Ledger.of (hist q)).tasks) :
    task ∈ (Ledger.of (Function.update hist p (hist p ++ [e]) q)).tasks := by
  rw [ledger_update]
  by_cases hqp : q = p
  · subst hqp
    rw [if_pos rfl]
    rcases ((Ledger.of (hist q)).noted e.1 e.2).tasks with hsame | ⟨context, response, hop⟩
    · rw [hsame]
      exact hmem
    · obtain ⟨op, r⟩ := e
      subst hop
      exact List.mem_append_left _ hmem
  · rw [if_neg hqp]
    exact hmem

/-- **Every call** keeps the invariant. -/
lemma ContactInv.call (h : ContactInv s hist) (hexec : Shared.Exec p s ⟨op, r⟩ s') :
    ContactInv s' (Function.update hist p (hist p ++ [⟨op, r⟩])) := by
  have hnoted := (Ledger.of (hist p)).noted op r
  refine ⟨?_, ?_, ?_, ?_, ?_⟩
  · intro q hclosed
    rw [ledger_update] at hclosed
    by_cases hqp : q = p
    · rw [if_pos hqp] at hclosed
      rcases hnoted.closed with hsame | rfl
      · exact hexec.auditFailed (h.closed p (hsame ▸ hclosed))
      · rw [show s' = { s with auditFailed := true } from hexec]
    · rw [if_neg hqp] at hclosed
      exact hexec.auditFailed (h.closed q hclosed)
  · intro q hinterrupt
    rw [ledger_update] at hinterrupt
    by_cases hqp : q = p
    · rw [if_pos hqp] at hinterrupt
      rcases hnoted.interrupt with hsame | hnow
      · exact hexec.auditFailed (h.interrupted p (hsame ▸ hinterrupt))
      · exact hexec.auditFailed (hexec.interrupted (hnow ▸ hinterrupt))
    · rw [if_neg hqp] at hinterrupt
      exact hexec.auditFailed (h.interrupted q hinterrupt)
  · intro i task hspawned
    rcases hexec.effect.tasks with hsame | ⟨context, response, rfl, hp, hspawn⟩
    · exact mem_tasks_update (h.spawned i task (hsame ▸ hspawned))
    · rw [hspawn] at hspawned
      by_cases hi : i = p.request
      · subst hi
        rw [Function.update_self, Option.some.injEq] at hspawned
        subst hspawned
        rw [ledger_update, if_pos hp.symm]
        exact List.mem_append_right _ (List.mem_singleton_self _)
      · rw [Function.update_of_ne hi] at hspawned
        exact mem_tasks_update (h.spawned i task hspawned)
  · intro i hnone
    obtain ⟨hbefore, hother⟩ := hexec.unspawned hnone
    rw [ledger_update]
    by_cases hip : Party.handler i = p
    · subst hip
      rw [if_pos rfl]
      rcases hnoted.tasks with hsame | ⟨context, response, hspawn⟩
      · rw [hsame]
        exact h.unspawned i hbefore
      · exact (hother context response hspawn rfl).elim
    · rw [if_neg hip]
      exact h.unspawned i hbefore
  · intro i task hmem
    by_cases hip : Party.task i = p
    · subst hip
      rw [Function.update_self, List.mem_append, List.mem_singleton] at hmem
      rcases hmem with hold | hnew
      · exact mem_tasks_update (h.started i task hold)
      · cases hnew
        exact mem_tasks_update (h.spawned i task hexec.1)
    · rw [Function.update_of_ne hip] at hmem
      exact mem_tasks_update (h.started i task hmem)

end Invariant

/-! ## Requests that were sent -/

section Contact

variable {ι : Type}

/-- The waits of a handler in which nothing is recorded yet of a send that has started: the send
itself, and the append of its failure. -/
def Call.HoldsContact : Call → Prop
  | awaitSend => True
  | appendEvent event => event.decision ≠ .denied
  | _ => False

/-- The handler of the request is dropped in such a wait. -/
def LosesContact (i : ι) (turn : Turn (Party ι) Call.Answer) : Prop :=
  ∃ op : Call, turn = .drop (.handler i) op ∧ op.HoldsContact

/-- An audit append for the request was carried out, by its handler or by its response task, or the
forwarding gate has been closed. -/
def ContactAudited (c : GatewayState ι) (i : ι) : Prop :=
  (∃ event, (event, .ok ()) ∈ (Ledger.of (c.history (.handler i))).appends) ∨
    (∃ event, (event, .ok ()) ∈ (Ledger.of (c.history (.task i))).appends) ∨
      c.shared.auditFailed = true

/-- No unaudited upstream contact: a request for which an upstream send was started is audited by
the time its handler and its response task, if there is one, are gone. -/
def ContactLaw (c : GatewayState ι) (i : ι) : Prop :=
  (Ledger.of (c.history (.handler i))).sends ≠ [] → Gone c (.handler i) →
    (c.shared.spawned i ≠ none → Gone c (.task i)) → ContactAudited c i

variable {X : Crates} {config : GatewayConfig} {request : HttpRequest} {l : Ledger}

/-- A handler that returned has audited its send, or closed the gate, or spawned a response task. -/
lemma ProxyExit.contact {response : Response} (h : ProxyExit X config request response l)
    (hsent : l.sends ≠ []) :
    (∃ event, (event, .ok ()) ∈ l.appends) ∨ l.closed = true ∨ l.tasks ≠ [] := by
  obtain ⟨result, before, hexit, rfl, rfl⟩ := h
  cases hexit with
  | noRequestId error unavailable sends appends tasks failures reports => exact (hsent sends).elim
  | unavailable unavailable sends tasks quiet => exact (hsent sends).elim
  | audited event unavailable decided appends tasks failures reports =>
      exact .inl ⟨event, by simp [appends]⟩
  | failed event error unavailable decided appends tasks failures reports closed =>
      exact .inr (.inl closed)
  | streamed _ context upstreamResponse unavailable sends quiet tasks answered =>
      exact .inr (.inr (by simp [tasks]))

/-- A response task that returned has audited its stream, or closed the gate, or was interrupted
because it is closed. -/
lemma StreamExit.contact (h : StreamExit l) :
    (∃ event, (event, .ok ()) ∈ l.appends) ∨ l.closed = true ∨
      l.interrupt = some .auditUnavailable := by
  cases h with
  | unavailable quiet interrupt => exact .inr (.inr interrupt)
  | audited event interrupt appends failures reports => exact .inl ⟨event, by simp [appends]⟩
  | failed event error interrupt appends failures reports closed told => exact .inr (.inl closed)

/-- Any other wait after the send is the one in which the gate is being closed. -/
lemma closed_of_cancellable {i : ι} {op : Call}
    (hready : (requestRules X config request False).Ready l op)
    (hcancellable : Cancellable (Party.handler i) op) (hsent : l.sends ≠ [])
    (hholds : ¬ op.HoldsContact) : l.closed = true := by
  cases op with
  | writeGate => exact hready
  | readGate => exact (hsent hready).elim
  | readRequest limit => exact (hsent hready.2.1).elim
  | awaitSend => exact (hholds trivial).elim
  | appendEvent event =>
      obtain ⟨-, -, hdecided⟩ := hready
      refine (hholds fun hdenied => ?_).elim
      exact hsent (hdecided.spec.1.mp hdenied)
  | panic => exact hready.1.elim
  | _ => exact hcancellable.elim

end Contact

/-! ## Runs of the gateway -/

section Runs

variable {ι : Type} [DecidableEq ι] {X : Crates} {config : GatewayConfig}
  {requests : ι → HttpRequest} {turns : List (Turn (Party ι) Call.Answer)} {c : GatewayState ι}
  {i : ι}

/-- The invariant holds in every reachable configuration. -/
lemma contactInv_of_reach (hreach : GatewayReach X config requests turns c) :
    ContactInv c.shared c.history :=
  Reach.history_invariant (.start config) (fun _ _ _ _ _ hinv hexec => hinv.call hexec)
    (fun _ _ _ hinv => ⟨hinv.closed, hinv.interrupted, hinv.spawned, hinv.unspawned, hinv.started⟩)
    hreach

/-- The queries that the request can be sent with have room for their apostrophes. -/
def QueryRoom (config : GatewayConfig) (request : HttpRequest) : Prop :=
  ∀ target, targetDecision config request.method request.uri = some (.ok target) →
    ∀ query ∈ target.target.query, HasRoom query.value

/-- A handler that is gone after its send has audited it, or closed the gate, or spawned a response
task. -/
lemma handler_contact (hreach : GatewayReach X config requests turns c)
    (hroom : QueryRoom config (requests i)) (hdrops : ∀ turn ∈ turns, ¬ LosesContact i turn)
    (hsent : (Ledger.of (c.history (.handler i))).sends ≠ []) (hgone : Gone c (.handler i)) :
    (∃ event, (event, .ok ()) ∈ (Ledger.of (c.history (.handler i))).appends) ∨
      (Ledger.of (c.history (.handler i))).closed = true ∨
        (Ledger.of (c.history (.handler i))).tasks ≠ [] := by
  have hsafe : (requestRules X config (requests i) False).monitor.Safe
      (proxy X config (requests i)) (ProxyExit X config (requests i)) Ledger.empty :=
    safe_proxy fun target hdecided => no_panic (hroom target hdecided)
  have hruns := Reach.runs hreach (.handler i)
  rcases hgone with hdropped | ⟨response, hreturned⟩
  · obtain ⟨op, k, hturn, hrest, hcancellable⟩ := Reach.dropped_at hreach hdropped
    rw [hrest] at hruns
    exact .inr (.inl (closed_of_cancellable (hsafe.ready hruns) hcancellable hsent
      fun hholds => hdrops _ hturn ⟨op, rfl, hholds⟩))
  · rw [hreturned] at hruns
    exact ProxyExit.contact (hsafe.returned hruns) hsent

/-- A response task that is gone has audited its stream, or closed the gate, or was interrupted
because it is closed. -/
lemma task_contact (hreach : GatewayReach X config requests turns c)
    (hroom : QueryRoom config (requests i)) (hgone : Gone c (.task i)) :
    (∃ event, (event, .ok ()) ∈ (Ledger.of (c.history (.task i))).appends) ∨
      (Ledger.of (c.history (.task i))).closed = true ∨
        (Ledger.of (c.history (.task i))).interrupt = some .auditUnavailable := by
  have hruns := Reach.runs hreach (.task i)
  rcases Program.Runs.of_call hruns with ⟨-, hrest⟩ | ⟨⟨context, response⟩, tr, htr, htask⟩
  · -- a task that has not started can neither be dropped nor have returned
    rcases hgone with hdropped | ⟨_, hreturned⟩
    · obtain ⟨op, k, -, hrest', hcancellable⟩ := Reach.dropped_at hreach hdropped
      rw [hrest] at hrest'
      cases hrest'
      exact hcancellable.elim
    · rw [hrest] at hreturned
      cases hreturned
  · have hmem : (context, response) ∈ (Ledger.of (c.history (.handler i))).tasks :=
      (contactInv_of_reach hreach).started i _ (by rw [htr]; exact List.mem_cons_self)
    obtain ⟨body, requestId, target, -, hdecided, rfl⟩ :=
      (requestInv_of_runs (Reach.runs hreach (.handler i))).tasks context response hmem
    have hsafe : (streamRules X config.maxResponseBytes response.body False).monitor.Safe
        (responseTask X (.initial config body requestId response.status target) response)
        (fun _ => StreamExit) Ledger.empty :=
      safe_responseTask response (no_panic (hroom target hdecided))
    rw [htr]
    show (∃ event, (event, .ok ()) ∈ (Ledger.of tr).appends) ∨ (Ledger.of tr).closed = true ∨
      (Ledger.of tr).interrupt = some .auditUnavailable
    rcases hgone with hdropped | ⟨_, hreturned⟩
    · obtain ⟨op, k, -, hrest, hcancellable⟩ := Reach.dropped_at hreach hdropped
      rw [hrest] at htask
      have hready := hsafe.ready htask
      cases op with
      | panic => exact hready.1.elim
      | _ => exact hcancellable.elim
    · rw [hreturned] at htask
      exact (hsafe.returned htask).contact

end Runs

/-- **No unaudited upstream contact.** In every interleaving, with handlers dropped at any await: a
request that was sent upstream is audited, or the gate is closed, by the time its handler and its
response task are gone, provided that its handler was dropped neither in `client.send` nor in the
append of a failed exchange, and that its query has room for its apostrophes.

The two conditions are not necessary. A drop in these waits loses nothing when another request has
closed the gate, or closes it before the parties are gone, and a query without room is no obstacle
to a request that is refused before its send or interrupted by a closed gate. `contact_lost` is a
run in which the drop does lose the contact. -/
theorem contact_audited {ι : Type} [DecidableEq ι] (X : Crates) (config : GatewayConfig)
    (requests : ι → HttpRequest) (turns : List (Turn (Party ι) Call.Answer)) (c : GatewayState ι)
    (hreach : GatewayReach X config requests turns c) (i : ι)
    (hroom : ∀ target,
      targetDecision config (requests i).method (requests i).uri = some (.ok target) →
        ∀ query ∈ target.target.query,
          byteLen query.value + 2 * query.value.count '\'' ≤ maxOriginFormQueryBytes)
    (hdrops : ∀ turn ∈ turns, ¬ LosesContact i turn) : ContactLaw c i := by
  intro hsent hgone htask
  have hinv := contactInv_of_reach hreach
  rcases handler_contact hreach hroom hdrops hsent hgone with haudited | hclosed | htasks
  · exact .inl haudited
  · exact .inr (.inr (hinv.closed _ hclosed))
  · have hspawned : c.shared.spawned i ≠ none := fun hnone => htasks (hinv.unspawned i hnone)
    rcases task_contact hreach hroom (htask hspawned) with haudited | hclosed | hinterrupt
    · exact .inr (.inl haudited)
    · exact .inr (.inr (hinv.closed _ hclosed))
    · exact .inr (.inr (hinv.interrupted _ hinterrupt))

/-! ## A request that is sent -/

/-- The calls of a handler up to its upstream send. -/
def sent (config : GatewayConfig) (requestId : RequestId) (body : AccountedBody)
    (upstreamRequest : UpstreamRequest) : List (Event Call.Answer) :=
  [⟨.loadAuditFailed, false⟩, ⟨.tryAcquireOwned, true⟩, ⟨.nextRequestId, .ok requestId⟩,
    ⟨.readRequest config.maxRequestBytes, some (.ok body)⟩, ⟨.readGate, ()⟩,
    ⟨.loadAuditFailed, false⟩, ⟨.startSend upstreamRequest, ()⟩]

/-- The calls after a send that failed, with the append of the failure. -/
def upstreamFailed (kind : UpstreamErrorKind) (timestamp : AuditTimestamp) (event : AuditEvent) :
    List (Event Call.Answer) :=
  [⟨.awaitSend, .error kind⟩, ⟨.releaseReadGate, ()⟩, ⟨.now, timestamp⟩,
    ⟨.appendEvent event, .ok ()⟩, ⟨.releasePermit, ()⟩]

section Sent

variable {X : Crates} {config : GatewayConfig} {request : HttpRequest} {requestId : RequestId}
  {body : AccountedBody} {target : AllowedTarget} {headers : ForwardedRequestHeaders}

/-- The failure of a send is audited. -/
lemma runs_auditResponse {input : ResponseAuditInput} {timestamp : AuditTimestamp}
    {event : AuditEvent} (hevent : AuditEvent.forResponse X input timestamp = some event) :
    (Gateway.auditResponse X input).Runs [⟨.now, timestamp⟩, ⟨.appendEvent event, .ok ()⟩]
      (.ret (.ok ())) := by
  simp only [AuditEvent.forResponse, Option.bind_eq_bind, Option.bind_eq_some_iff] at hevent
  obtain ⟨observed, hobserved, hnew⟩ := hevent
  rw [Gateway.auditResponse, hobserved]
  refine .step ?_
  show Program.Runs (expect (AuditEvent.newAt X _ timestamp) >>= _) _ _
  rw [hnew]
  exact .step (.refl _)

/-- An accepted request is sent, and the failure of its send is audited. -/
lemma runs_forwardRequest (X : Crates) (config : GatewayConfig) (requestId : RequestId)
    (body : AccountedBody) (target : AllowedTarget) (headers : ForwardedRequestHeaders) :
    ∃ k, (forwardRequest X config ⟨body, headers, requestId, target⟩).Runs
        ((sent config requestId body
          (.fromTarget X target headers body config.requestTimeout)).drop 4) (.call .awaitSend k) ∧
      ∀ kind timestamp event,
        AuditEvent.forResponse X ⟨.upstreamError (auditUpstreamError kind), body, requestId, target⟩
          timestamp = some event →
        (Program.call .awaitSend k).Runs (upstreamFailed kind timestamp event)
          (.ret (.ok (statusResponse (auditUpstreamError kind).status))) := by
  refine ⟨_, .step (.step (.step (.refl _))), ?_⟩
  intro kind timestamp event hevent
  refine .step (.step ?_)
  have hstatus : (auditResponseStatus X ⟨.upstreamError (auditUpstreamError kind), body, requestId,
      target⟩ (auditUpstreamError kind).status).Runs
      [⟨.now, timestamp⟩, ⟨.appendEvent event, .ok ()⟩]
      (.ret (.ok (statusResponse (auditUpstreamError kind).status))) :=
    (runs_auditResponse hevent).bind_left _
  exact .bind hstatus (.step (.refl _))

/-- An allowed request is sent, and the failure of its send is audited. -/
lemma runs_sent (X : Crates) (requestId : RequestId) (body : AccountedBody)
    (hdecided : targetDecision config request.method request.uri = some (.ok target))
    (hheaders : forwardRequestHeaders request.headers config.maxRequestHeaderBytes =
      some (.ok headers)) :
    ∃ k, (proxy X config request).Runs
        (sent config requestId body (.fromTarget X target headers body config.requestTimeout))
        (.call .awaitSend k) ∧
      ∀ kind timestamp event,
        AuditEvent.forResponse X ⟨.upstreamError (auditUpstreamError kind), body, requestId, target⟩
          timestamp = some event →
        (Program.call .awaitSend k).Runs (upstreamFailed kind timestamp event)
          (.ret (statusResponse (auditUpstreamError kind).status)) := by
  obtain ⟨k, hsend, hfails⟩ := runs_forwardRequest X config requestId body target headers
  have hallowed : (handleAllowedTarget X config requestId request target).Runs
      ((sent config requestId body
        (.fromTarget X target headers body config.requestTimeout)).drop 3)
      (.call .awaitSend k) := by
    rw [handleAllowedTarget, hheaders]
    exact .step hsend
  have hhandle : (handleRequest X config request).Runs
      ((sent config requestId body
        (.fromTarget X target headers body config.requestTimeout)).drop 2)
      (.call .awaitSend k) := by
    refine .step ?_
    show Program.Runs (acceptAllowedTarget X config requestId request.method request.uri >>= _) _ _
    rw [acceptAllowedTarget, hdecided]
    exact hallowed
  have hproxy : ∃ f : Except GatewayError Response → Async Response,
      (∀ response, f (.ok response) = .ret response) ∧
      (proxy X config request).Runs
        (sent config requestId body (.fromTarget X target headers body config.requestTimeout))
        (Program.call .awaitSend k >>= f) :=
    ⟨_, fun _ => rfl, .step (.step (hhandle.bind_left _))⟩
  obtain ⟨f, hf, hruns⟩ := hproxy
  refine ⟨fun result => k result >>= f, hruns, ?_⟩
  intro kind timestamp event hevent
  have hanswered := (hfails kind timestamp event hevent).bind_left f
  rw [show Program.ret _ >>= f = _ from hf _] at hanswered
  exact hanswered

end Sent

/-- The shared state after the send of a handler has started. -/
lemma execs_sent (config : GatewayConfig) (requestId : RequestId) (body : AccountedBody)
    (upstreamRequest : UpstreamRequest) :
    ∃ s, Arena.Execs gatewayArena (Party.handler ()) (Shared.start config)
        (sent config requestId body upstreamRequest) s ∧
      s.auditFailed = false ∧ s.spawned () = none :=
  ⟨_, .cons ⟨rfl, rfl⟩ (.cons ⟨config.maxConcurrentRequests.nonZero, rfl⟩ (.cons rfl (.cons rfl
    (.cons ⟨rfl, rfl⟩ (.cons ⟨rfl, rfl⟩ (.cons rfl (.nil _))))))), rfl, rfl⟩

/-- Nothing stands in the way of auditing its failure. -/
lemma execs_upstreamFailed (s : Shared Unit) (kind : UpstreamErrorKind) (timestamp : AuditTimestamp)
    (event : AuditEvent) :
    ∃ s', Arena.Execs gatewayArena (Party.handler ()) s (upstreamFailed kind timestamp event) s' ∧
      s'.spawned = s.spawned :=
  ⟨_, .cons rfl (.cons rfl (.cons rfl (.cons rfl (.cons rfl (.nil _))))), rfl⟩

/-- The request `GET /v1/models`. -/
def modelsRequest : HttpRequest where
  method := Method.get
  uri := ⟨⟨none, none, "/v1/models".toList, none⟩, by decide⟩
  headers := []

/-- `GET /v1/models` is allowed. -/
def modelsTarget : AllowedTarget where
  method := Reference.getMethod
  target := ⟨Reference.modelsPath, none⟩
  upstreamOrigin := Reference.origin

/-- `GET /v1/models` is allowed by the reference configuration. -/
lemma modelsRequest_allowed :
    targetDecision Reference.config modelsRequest.method modelsRequest.uri =
      some (.ok modelsTarget) := by
  have haccept : AcceptedTarget.new modelsRequest.uri.path modelsRequest.uri.query =
      .ok modelsTarget.target := by
    decide +kernel
  have hallow : allowTarget Reference.config modelsRequest.method modelsTarget.target =
      .ok modelsTarget := by
    decide +kernel
  rw [targetDecision_of_accepted Reference.config (by decide) rfl haccept, hallow]

/-- No header of it is refused. -/
lemma modelsRequest_headers :
    forwardRequestHeaders modelsRequest.headers Reference.config.maxRequestHeaderBytes =
      some (.ok ⟨[]⟩) := by
  decide +kernel

/-- The upstream request of `GET /v1/models`. -/
def modelsUpstream : UpstreamRequest :=
  .fromTarget Reference.crates modelsTarget ⟨[]⟩ emptyBody Reference.config.requestTimeout

/-- The handler of `GET /v1/models` comes to its send. -/
lemma modelsRequest_sent :
    ∃ turns c k, GatewayReach Reference.crates Reference.config (fun _ : Unit => modelsRequest)
        turns c ∧ (∀ turn ∈ turns, ¬ LosesContact () turn) ∧
      c.dropped (.handler ()) = false ∧ c.rest (.handler ()) = .call .awaitSend k ∧
      c.history (.handler ()) =
        sent Reference.config Reference.requestId emptyBody modelsUpstream ∧
      c.history (.task ()) = [] ∧ c.shared.auditFailed = false ∧ c.shared.spawned () = none ∧
      ∀ kind timestamp event,
        AuditEvent.forResponse Reference.crates ⟨.upstreamError (auditUpstreamError kind),
          emptyBody, Reference.requestId, modelsTarget⟩ timestamp = some event →
        (Program.call .awaitSend k).Runs (upstreamFailed kind timestamp event)
          (.ret (statusResponse (auditUpstreamError kind).status)) := by
  obtain ⟨k, hruns, hfails⟩ := runs_sent Reference.crates Reference.requestId emptyBody
    modelsRequest_allowed modelsRequest_headers
  obtain ⟨s, hexecs, hopen, hnone⟩ := execs_sent Reference.config Reference.requestId emptyBody
    modelsUpstream
  have hstart : GatewayReach Reference.crates Reference.config (fun _ : Unit => modelsRequest) []
      (.start _ _) := .start
  obtain ⟨c, hreach, rfl, hrest, hhistory, hdropped⟩ :=
    Reach.call_run (i := Party.handler ()) hstart rfl hruns hexecs
  refine ⟨_, c, k, hreach, ?_, ?_, hrest, ?_, ?_, hopen, hnone, hfails⟩
  · rintro turn hturn ⟨op, rfl, -⟩
    simp at hturn
  · rw [hdropped]
    rfl
  · rw [hhistory, Function.update_self]
    rfl
  · rw [hhistory]
    rfl

/-- A handler that is dropped in its upstream send leaves the request without an audit append, and
the gate open. -/
theorem contact_lost :
    ∃ turns c, GatewayReach Reference.crates Reference.config (fun _ : Unit => modelsRequest)
        turns c ∧ ¬ ContactLaw c () := by
  obtain ⟨turns, c, k, hreach, -, hlive, hrest, hhistory, htask, hopen, hnone, -⟩ :=
    modelsRequest_sent
  refine ⟨_, _, hreach.step (.drop (i := Party.handler ()) hlive hrest trivial), ?_⟩
  intro hlaw
  have hsent : (Ledger.of (c.history (.handler ()))).sends ≠ [] := by
    rw [hhistory]
    exact List.cons_ne_nil _ _
  have hgone : Gone (c.lose (.handler ()) (Shared.release (.handler ()) c.shared))
      (.handler ()) := .inl (by simp [Config.lose])
  rcases hlaw hsent hgone fun hspawned => (hspawned hnone).elim with
    ⟨event, hmem⟩ | ⟨event, hmem⟩ | hset
  · rw [Config.lose_history, hhistory] at hmem
    cases hmem
  · rw [Config.lose_history, htask] at hmem
    cases hmem
  · cases hopen.symm.trans hset

/-- A handler whose upstream send fails audits the failure. -/
theorem contact_audited_upstreamFailed :
    ∃ turns c, GatewayReach Reference.crates Reference.config (fun _ : Unit => modelsRequest)
        turns c ∧ (Ledger.of (c.history (.handler ()))).sends ≠ [] ∧ ContactAudited c () := by
  obtain ⟨turns, c, k, hreach, hdrops, hlive, hrest, hhistory, -, -, hnone, hfails⟩ :=
    modelsRequest_sent
  have hroom : ∀ query ∈ modelsTarget.target.query, HasRoom query.value := by
    rintro query ⟨⟩
  obtain ⟨event, hevent⟩ := Option.ne_none_iff_exists'.mp
    ((AuditEvent.forResponse_ne_none_iff (X := Reference.crates)
      ⟨.upstreamError (auditUpstreamError .connect), emptyBody, Reference.requestId, modelsTarget⟩
      Reference.timestamp).mpr hroom)
  obtain ⟨s, hexecs, hspawned⟩ := execs_upstreamFailed c.shared .connect Reference.timestamp event
  have hruns := hfails .connect Reference.timestamp event hevent
  rw [← hrest] at hruns
  obtain ⟨c', hreach', rfl, hreturned, hhistory', -⟩ :=
    Reach.call_run (i := Party.handler ()) hreach hlive hruns hexecs
  have hsent : (Ledger.of (c'.history (.handler ()))).sends ≠ [] := by
    rw [hhistory', Function.update_self, hhistory]
    exact List.cons_ne_nil _ _
  refine ⟨_, c', hreach', hsent, contact_audited Reference.crates Reference.config _ _ c' hreach' ()
    ?_ ?_ hsent (.inr ⟨_, hreturned⟩) fun hsome => ?_⟩
  · intro target hdecided
    cases modelsRequest_allowed.symm.trans hdecided
    exact hroom
  · intro turn hturn
    rcases List.mem_append.mp hturn with hbefore | hnow
    · exact hdrops turn hbefore
    · rintro ⟨op, rfl, -⟩
      simp at hnow
  · rw [hspawned] at hsome
    exact (hsome hnone).elim

end Custode
