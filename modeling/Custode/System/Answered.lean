import Custode.Http.RequestLaw
import Custode.System.Lives

/-!
# What the harness sees is in the log

The gateway with its adapters, over every interleaving: before the harness can see that a request
was decided, the event of the request is in the file and on stable storage.

* `port_mem_of_carries` — what a party did at its ports it did in the gateway, too.
* `Coupled.logged` — an append that returned `Ok` in the gateway left its line on stable storage.
* `answers_are_logged` — the statuses that the gateway answers, the last chunk of a streamed
  response, and the requests that were sent upstream.
-/

namespace Custode

open Found Program

/-! ## The ports of a party -/

section Ports

variable {maxEventBytes : AuditEventBytes} {tr : List (Event Call.Answer)}
  {low : List (Event LowCall.Answer)}

/-- An append calls the writer. -/
lemma writer_of_append {event : AuditEvent} {q : Program LowCall.Answer (Except AuditError Unit)}
    (hruns : (adapter maxEventBytes (.appendEvent event)).Runs low q) {op : Call} {r : op.Answer} :
    ⟨.port op, r⟩ ∉ low := by
  intro hmem
  obtain ⟨pre, post, rfl⟩ := List.append_of_mem hmem
  obtain ⟨k, hcall, -⟩ := hruns.split
  obtain ⟨op', hop', -⟩ := append_call hcall
  cases hop'

/-- A port call that was carried out is one of the gateway's. -/
lemma port_mem_of_carried (h : Carried (adapter maxEventBytes) tr low) {op : Call} {r : op.Answer}
    (hmem : ⟨.port op, r⟩ ∈ low) : ⟨op, r⟩ ∈ tr := by
  induction h with
  | nil => cases hmem
  | @cons op' r' done tr low call rest ih =>
      rcases List.mem_append.mp hmem with hmem | hmem
      · rcases op'.appends_or with ⟨event, rfl⟩ | hop
        · exact absurd hmem (writer_of_append call)
        · rw [adapter_port hop] at call
          rcases Runs.of_call call with ⟨-, hret⟩ | ⟨r'', done, rfl, hdone⟩
          · cases hret
          · obtain ⟨rfl, hret⟩ := hdone.of_ret
            cases hret
            cases List.mem_singleton.mp hmem
            exact List.mem_cons_self
      · exact List.mem_cons_of_mem _ (ih hmem)

/-- A port call of the gateway was carried out at its port. -/
lemma mem_port_of_carried (h : Carried (adapter maxEventBytes) tr low) {op : Call} {r : op.Answer}
    (hop : op.AppendsNothing) (hmem : ⟨op, r⟩ ∈ tr) : ⟨.port op, r⟩ ∈ low := by
  induction h with
  | nil => cases hmem
  | @cons op' r' done tr low call rest ih =>
      rcases List.mem_cons.mp hmem with hnow | hmem
      · cases hnow
        rw [adapter_port hop] at call
        rcases Runs.of_call call with ⟨-, hret⟩ | ⟨r'', done, rfl, hdone⟩
        · cases hret
        · obtain ⟨rfl, hret⟩ := hdone.of_ret
          cases hret
          exact List.mem_cons_self
      · exact List.mem_append_right _ (ih hmem)

variable {α : Type} {p : Async α} {q : Program LowCall.Answer α}
  {history : List (Event LowCall.Answer)} {part : List (Event LowCall.Answer)}

/-- A port call in the middle of a call has been carried out before. -/
lemma port_mem_of_carries (h : Carries (adapter maxEventBytes) tr p history q low part) {op : Call}
    {r : op.Answer} (hmem : ⟨.port op, r⟩ ∈ history) : ⟨op, r⟩ ∈ tr := by
  rw [h.history] at hmem
  rcases List.mem_append.mp hmem with hmem | hmem
  · exact port_mem_of_carried h.carried hmem
  · cases h.inside with
    | returned a => cases hmem
    | @calling op' k part op'' k' carried =>
        rcases op'.appends_or with ⟨event, rfl⟩ | hop
        · exact absurd hmem (writer_of_append carried)
        · obtain ⟨rfl, -⟩ := port_call hop carried
          cases hmem

/-- A port call of the gateway is in the history of its party. -/
lemma mem_port_of_carries (h : Carries (adapter maxEventBytes) tr p history q low part) {op : Call}
    {r : op.Answer} (hop : op.AppendsNothing) (hmem : ⟨op, r⟩ ∈ tr) :
    ⟨.port op, r⟩ ∈ history := by
  rw [h.history]
  exact List.mem_append_left _ (mem_port_of_carried h.carried hop hmem)

/-- A party that returned has returned in the gateway. -/
lemma returned_of_carries {a : α}
    (h : Carries (adapter maxEventBytes) tr p history (.ret a) low part) :
    p = .ret a := by
  generalize hq : (Program.ret a : Program LowCall.Answer α) = q at h
  cases h.inside with
  | returned b =>
      cases hq
      rfl
  | calling carried => cases hq

/-- A party that stands at a port stands there in the gateway. -/
lemma stands_of_carries {op : Call} {k : op.Answer → Program LowCall.Answer α}
    (h : Carries (adapter maxEventBytes) tr p history (.call (.port op) k) low part) :
    ∃ k', p = .call op k' := by
  obtain ⟨op', k', k'', hp, hruns, -⟩ := h.inside.of_call
  rcases op'.appends_or with ⟨event, rfl⟩ | hop
  · obtain ⟨op'', hop'', -⟩ := append_call hruns
    cases hop''
  · obtain ⟨-, hcall⟩ := port_call hop hruns
    cases hcall
    exact ⟨k', hp⟩

end Ports

/-- An append in the ledger was carried out. -/
lemma appended_of_mem_appends {tr : List (Event Call.Answer)} {event : AuditEvent}
    {result : Except AuditError Unit} (h : (event, result) ∈ (Ledger.of tr).appends) :
    ⟨.appendEvent event, result⟩ ∈ tr := by
  induction tr using List.reverseRecOn with
  | nil => cases h
  | append_singleton tr e ih =>
      rw [Ledger.of_snoc] at h
      obtain ⟨op, r⟩ := e
      rcases ((Ledger.of tr).noted op r).appends with hsame | ⟨event', rfl⟩
      · rw [hsame] at h
        exact List.mem_append_left _ (ih h)
      · have happends : ((Ledger.of tr).observe ⟨.appendEvent event', r⟩).appends =
            (Ledger.of tr).appends ++ [(event', r)] := Ledger.appended_appends _ _ _
        rw [happends] at h
        rcases List.mem_append.mp h with h | h
        · exact List.mem_append_left _ (ih h)
        · cases List.mem_singleton.mp h
          exact List.mem_append_right _ (List.mem_singleton_self _)

/-! ## Records -/

/-- An event of the request is recorded: it was decided for the request, under an identity of this
life that its own handler was given and no other, its append returned `Ok`, and its line stands on
stable storage, behind whole lines. -/
structure Logged {ι : Type} (X : Crates) (life : Life ι) (f : DeploymentState ι) (i : ι)
    (event : AuditEvent) : Prop where
  decided : Decided X life.config (life.requests i) event
  issued : life.Allocates event.requestId.display
  allocated : ⟨.port .nextRequestId, .ok event.requestId⟩ ∈ f.history (.handler i)
  alone : ∀ j, ⟨.port .nextRequestId, .ok event.requestId⟩ ∈ f.history (.handler j) → j = i
  acknowledged : event ∈ f.shared.disk.log.acknowledged
  stored : ∃ front, EndsLine front ∧ front ++ event.line <+: f.shared.disk.stored

section Records

variable {ι : Type} [DecidableEq ι] {X : Crates} {time : Humantime} {life : Life ι} {t : Site ι}
  {c : GatewayState ι} {doing : Party ι → List (Event LowCall.Answer)}
  {turns : List (Turn (Party ι) Call.Answer)} {p : Party ι} {i : ι} {event : AuditEvent}

/-- An append that returned `Ok` has recorded its event. -/
lemma Coupled.logged {f : DeploymentState ι} (h : Coupled time life f.shared c doing)
    (hmatches : Matches (adapter life.maxEventBytes) f c doing)
    (hreach : GatewayReach X life.config life.requests turns c) (hends : EndsLine life.initial)
    (hmem : ⟨.appendEvent event, .ok ()⟩ ∈ c.history p) :
    Logged X life f p.request event := by
  obtain ⟨hgiven, hdecided⟩ := Attempts.decided hreach (.inl ⟨_, hmem⟩)
  obtain ⟨low, part, hhandler, -⟩ := hmatches.party (.handler p.request)
  have hreturned := (h.returned event (.ok ())).mpr ⟨p, hmem⟩
  refine ⟨hdecided, ⟨event.requestId.sequence, ?_⟩, mem_port_of_carries hhandler trivial hgiven,
    fun j hother => ?_, LogFile.mem_acknowledged.mpr hreturned, h.stored hends hreturned⟩
  · rw [← (h.allocated _ _ hgiven).1]
    rfl
  · obtain ⟨low', part', hother', -⟩ := hmatches.party (.handler j)
    exact Party.handler.inj (h.distinct _ _ _ (port_mem_of_carries hother' hother) hgiven)

/-- A status that the handler answers, if it is not an internal error, is one that it appended. -/
lemma ProxyExit.appended {request : HttpRequest} {config : GatewayConfig} {response : Response}
    {l : Ledger} (h : ProxyExit X config request response l) (hstreamed : response.streamed = false)
    (hstatus : response.status ≠ .internalServerError) :
    ∃ event, (event, .ok ()) ∈ l.appends ∧ event.status = response.status := by
  obtain ⟨result, before, hexit, rfl, rfl⟩ := h
  cases hexit with
  | noRequestId error unavailable sends appends tasks failures reports => exact absurd rfl hstatus
  | unavailable unavailable sends tasks quiet => exact absurd rfl hstatus
  | audited event unavailable decided appends tasks failures reports =>
      exact ⟨event, by simp [appends], rfl⟩
  | failed event error unavailable decided appends tasks failures reports closed =>
      exact absurd rfl hstatus
  | streamed _ context upstreamResponse unavailable sends quiet tasks answered =>
      rcases answered with rfl | ⟨headers, rfl⟩
      · exact absurd rfl hstatus
      · cases hstreamed

/-- The task of a request that stands anywhere runs a response task of its handler. -/
lemma task_runs {config : GatewayConfig} {requests : ι → HttpRequest}
    (hreach : GatewayReach X config requests turns c) :
    (c.history (.task i) = [] ∧ ∃ k, c.rest (.task i) = .call .started k) ∨
      ∃ body requestId target, ∃ response : UpstreamResponse, ∃ tr,
        c.history (.task i) =
          ⟨.started, (.initial config body requestId response.status target, response)⟩ :: tr ∧
        (responseTask X (.initial config body requestId response.status target) response).Runs
          tr (c.rest (.task i)) := by
  have hruns := Reach.runs hreach (.task i)
  rcases Runs.of_call hruns with ⟨hnothing, hrest⟩ | ⟨⟨context, response⟩, tr, htr, htask⟩
  · exact .inl ⟨hnothing, _, hrest⟩
  · have hmem : (context, response) ∈ (Ledger.of (c.history (.handler i))).tasks :=
      (contactInv_of_reach hreach).started i _ (by rw [htr]; exact List.mem_cons_self)
    obtain ⟨body, requestId, target, -, -, rfl⟩ :=
      (requestInv_of_runs (Reach.runs hreach (.handler i))).tasks context response hmem
    exact .inr ⟨body, requestId, target, response, tr, htr, htask⟩

omit [DecidableEq ι] in
/-- The first event of a task is not an append. -/
lemma appended_of_started {tr : List (Event Call.Answer)}
    {task : ResponseAuditContext × UpstreamResponse} {result : Except AuditError Unit}
    (htr : c.history (.task i) = ⟨.started, task⟩ :: tr)
    (hmem : (event, result) ∈ (Ledger.of tr).appends) :
    ⟨.appendEvent event, result⟩ ∈ c.history (.task i) := by
  rw [htr]
  exact List.mem_cons_of_mem _ (appended_of_mem_appends hmem)

/-- The task that is about to send the last chunk has appended that the request was allowed. -/
lemma task_appended (hreach : GatewayReach X life.config life.requests turns c) {chunk : Bytes}
    {k : Unit → Async Unit} (hrest : c.rest (.task i) = .call (.sendReserved chunk) k) :
    ∃ event, ⟨.appendEvent event, .ok ()⟩ ∈ c.history (.task i) ∧ event.decision = .allowed := by
  rcases task_runs hreach (i := i) with ⟨-, k', hstarted⟩ |
    ⟨body, requestId, target, response, tr, htr, htask⟩
  · rw [hrest] at hstarted
    cases hstarted
  · rw [hrest] at htask
    obtain ⟨-, -, event, happends, hallowed⟩ := (safe_task response).ready htask
    rw [Rules.after_empty] at happends
    refine ⟨event, appended_of_started htr ?_, hallowed⟩
    rw [happends]
    exact List.mem_singleton_self _

/-- A request that was sent upstream and is done has been appended, or the audit has failed. -/
lemma sent_appended (hreach : GatewayReach X life.config life.requests turns c)
    (hsent : (Ledger.of (c.history (.handler i))).sends ≠ []) {response : Response}
    (hreturned : c.rest (.handler i) = .ret response)
    (htask : c.shared.spawned i ≠ none → c.rest (.task i) = .ret ()) :
    (∃ p event, p.request = i ∧ ⟨.appendEvent event, .ok ()⟩ ∈ c.history p) ∨
      c.shared.auditFailed = true := by
  have hinv := contactInv_of_reach hreach
  have hruns := Reach.runs hreach (.handler i)
  rw [hreturned] at hruns
  rcases (proxyExit_of_runs hruns).contact hsent with ⟨event, hmem⟩ | hclosed | htasks
  · exact .inl ⟨.handler i, event, rfl, appended_of_mem_appends hmem⟩
  · exact .inr (hinv.closed _ hclosed)
  · have hended := htask fun hnone => htasks (hinv.unspawned i hnone)
    rcases task_runs hreach (i := i) with ⟨-, k, hstarted⟩ |
      ⟨body, requestId, target, upstreamResponse, tr, htr, hrun⟩
    · rw [hended] at hstarted
      cases hstarted
    · rw [hended] at hrun
      have hof : Ledger.of (c.history (.task i)) = Ledger.of tr := by
        rw [htr]
        rfl
      rcases ((safe_task upstreamResponse).returned hrun).contact with ⟨event, hmem⟩ | hclosed |
        hinterrupt
      · exact .inl ⟨.task i, event, rfl, appended_of_started htr hmem⟩
      · exact .inr (hinv.closed (.task i) (hof ▸ hclosed))
      · exact .inr (hinv.interrupted (.task i) (hof ▸ hinterrupt))

end Records

/-- **What the harness sees is in the log.** In every interleaving of a gateway with its adapters,
on a log that it accepted, for every request: a status that is answered, other than an internal
error or a streamed one, is that of an event on stable storage; the last chunk of a streamed
response is not sent before an event that says `allowed` is; and a request that was sent upstream
has an event there when its handler and its response task have returned, unless the audit has
failed. Each of these is an event of that request alone: it has the identity that its handler, and
no other, was given. -/
theorem answers_are_logged {ι : Type} [DecidableEq ι] (X : Crates) (time : Humantime)
    (life : Life ι) (hsynced : life.synced ≤ life.initial.length) (hends : EndsLine life.initial)
    (turns : List (Turn (Party ι) LowCall.Answer)) (f : DeploymentState ι)
    (hreach : DeploymentReach X time life turns f) (i : ι) :
    (∀ response, f.rest (.handler i) = .ret response → response.streamed = false →
      response.status ≠ .internalServerError →
        ∃ event, Logged X life f i event ∧ event.status = response.status) ∧
    (∀ chunk k, f.rest (.task i) = .call (.port (.sendReserved chunk)) k →
      ∃ event, Logged X life f i event ∧ event.decision = .allowed) ∧
    (∀ request response, ⟨.port (.startSend request), ()⟩ ∈ f.history (.handler i) →
      f.rest (.handler i) = .ret response →
      (f.shared.gateway.spawned i ≠ none → f.rest (.task i) = .ret ()) →
        (∃ event, Logged X life f i event) ∨ f.shared.gateway.auditFailed = true) := by
  obtain ⟨turns', c, doing, hgateway, hmatches, hcoupled⟩ :=
    (deployment_simulation X time life).reach (.start hsynced) hreach
  obtain ⟨low, part, hhandler, -⟩ := hmatches.party (.handler i)
  obtain ⟨low', part', htask, -⟩ := hmatches.party (.task i)
  refine ⟨?_, ?_, ?_⟩
  · intro response hreturned hstreamed hstatus
    rw [hreturned] at hhandler
    have hruns := Reach.runs hgateway (.handler i)
    rw [returned_of_carries hhandler] at hruns
    obtain ⟨event, hmem, hsame⟩ := (proxyExit_of_runs hruns).appended hstreamed hstatus
    exact ⟨event, hcoupled.logged hmatches hgateway hends (appended_of_mem_appends hmem), hsame⟩
  · intro chunk k hstands
    rw [hstands] at htask
    obtain ⟨k', hrest⟩ := stands_of_carries htask
    obtain ⟨event, hmem, hallowed⟩ := task_appended hgateway hrest
    exact ⟨event, hcoupled.logged hmatches hgateway hends hmem, hallowed⟩
  · intro request response hsent hreturned hended
    rw [hreturned] at hhandler
    have hmem := port_mem_of_carries hhandler hsent
    have hspawned : c.shared.spawned i ≠ none → c.rest (.task i) = .ret () := by
      intro hne
      rw [← hcoupled.gateway] at hne
      rw [hended hne] at htask
      exact returned_of_carries htask
    rcases sent_appended hgateway (List.ne_nil_of_mem (mem_sends_of_started hmem))
      (returned_of_carries hhandler) hspawned with
      ⟨p, event, rfl, happended⟩ | hfailed
    · exact .inl ⟨event, hcoupled.logged hmatches hgateway hends happended⟩
    · exact .inr (hcoupled.gateway ▸ hfailed)

/-- The denial of a `CONNECT` request was on stable storage when it was answered with 405. -/
theorem answers_are_logged_connect : ∃ turns f event,
    DeploymentReach Reference.crates Reference.humantime connectLife turns f ∧
      f.rest (.handler ()) = .ret (statusResponse .methodNotAllowed) ∧
      Logged Reference.crates connectLife f () event ∧
      event.status = .methodNotAllowed := by
  obtain ⟨_, turns, f, hreach, hreturned, -⟩ := reach_connectLife
  obtain ⟨event, hlogged, hstatus⟩ := (answers_are_logged Reference.crates Reference.humantime
    connectLife le_rfl (.inl rfl) turns f hreach ()).1 _ hreturned rfl (by decide)
  exact ⟨turns, f, event, hreach, hreturned, hlogged, hstatus⟩

end Custode
