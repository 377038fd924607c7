import Custode.Headers.Filtering
import Custode.Serve
import Custode.System.Admission
import Custode.System.Answered

/-!
# The gateway stays within its arguments

From the text that the operator writes to what leaves the gateway: when the serve arguments were
accepted, then in every interleaving, with handlers dropped at any await, each request sends at most
one request upstream, to the configured origin, under one of the configured operations, with headers
and body within the configured limits; each response stream passes on no more bytes than configured;
and no more requests are unfinished at a time than configured (`within_arguments`).
-/

namespace Custode

open Found Found.Text Program ResponseAccount

/-! ## The limits that a handler uses -/

/-- A body is read under the configured limit, and a request sent with the configured timeout. -/
def Call.Within (config : GatewayConfig) : Call → Prop
  | readRequest limit => limit = config.maxRequestBytes
  | startSend request => request.deadline = config.requestTimeout
  | _ => True

section Limits

variable {X : Crates} {config : GatewayConfig}

/-- A plain call is within every configuration. -/
lemma Call.Plain.within {op : Call} (h : op.Plain) : op.Within config := by
  cases op with
  | readRequest limit => exact h.elim
  | startSend request => exact h.elim
  | _ => trivial

/-- So is an audit call. -/
lemma Call.Audits.within {op : Call} (h : op.Audits) : op.Within config := by
  cases op <;> first | exact h.elim | trivial

/-- One such call. -/
lemma makes_call_within {op : Call} (h : op.Within config) :
    (call op).Makes (Call.Within config) := makes_perform.mpr h

/-- The send under the guard has the timeout of its request. -/
lemma makes_guardedSend_within {request : UpstreamRequest}
    (h : request.deadline = config.requestTimeout) :
    (guardedSend request).Makes (Call.Within config) := by
  have hbegin : Gateway.beginForwarding.Makes (Call.Within config) := by
    refine .bind (makes_call_within trivial) fun _ =>
      .bind (.bind (makes_call_within trivial) ?_) ?_
    · rintro (_ | _)
      · trivial
      · trivial
    · rintro (error | _)
      · exact .bind (makes_call_within trivial) fun _ => trivial
      · trivial
  refine hbegin.bind ?_
  rintro (error | _)
  · trivial
  · exact .bind (makes_call_within h) fun _ => .bind (makes_call_within trivial) fun _ =>
      .bind (makes_call_within trivial) fun _ => trivial

variable (X config) in
/-- The property is kept by sequencing. -/
lemma composes_within : Composes X config fun _ p => p.Makes (Call.Within config) where
  ret _ := trivial
  bind := .bind
  call _ h := makes_call_within h.within
  append _ := .bind (makes_call_within trivial) fun _ => .bind (makes_expect trivial _) fun event =>
    (makes_appendRequiredAuditEvent event).mono fun _ h => h.within
  read := makes_call_within rfl
  send _ h := makes_guardedSend_within h

/-- Calls that a run has made are those of its program. -/
lemma within_of_runs {request : HttpRequest} {tr : List (Event Call.Answer)} {q : Async Response}
    (hruns : (proxy X config request).Runs tr q) {e : Event Call.Answer} (hmem : e ∈ tr) :
    e.1.Within config :=
  Makes.of_mem ((composes_within X config).proxy request) hruns hmem

end Limits

/-! ## One request -/

/-- A body in the ledger was read. -/
lemma read_of_mem_bodies {tr : List (Event Call.Answer)} {body : AccountedBody}
    (h : body ∈ (Ledger.of tr).bodies) : ∃ limit, ⟨.readRequest limit, some (.ok body)⟩ ∈ tr := by
  induction tr using List.reverseRecOn with
  | nil => cases h
  | append_singleton tr e ih =>
      rw [Ledger.of_snoc] at h
      have hbefore : body ∈ (Ledger.of tr).bodies →
          ∃ limit, ⟨.readRequest limit, some (.ok body)⟩ ∈ tr ++ [e] := by
        intro hmem
        obtain ⟨limit, hread⟩ := ih hmem
        exact ⟨limit, List.mem_append_left _ hread⟩
      obtain ⟨op, r⟩ := e
      rcases ((Ledger.of tr).noted op r).bodies with hsame | ⟨limit, rfl⟩
      · rw [hsame] at h
        exact hbefore h
      · rcases r with _ | (_ | read)
        · exact hbefore h
        · exact hbefore h
        · rcases List.mem_append.mp h with h | h
          · exact hbefore h
          · cases List.mem_singleton.mp h
            exact ⟨limit, List.mem_append_right _ (List.mem_singleton_self _)⟩

/-- An allowed target is permitted by a configured operation. -/
lemma permits_of_allowTarget {config : GatewayConfig} {method : Method} {target : AcceptedTarget}
    {allowed : AllowedTarget} (h : allowTarget config method target = .ok allowed) :
    ∃ operation ∈ config.allowedOperations, operation.Permits method target.path := by
  rw [allowTarget] at h
  rcases hmethod : allowedMethod config method target with _ | method
  · rw [hmethod] at h
    cases h
  · exact (allowedMethod_eq_some_iff.mp hmethod).2

/-- What is forwarded of a header map is no larger, and the map is within the limit. -/
lemma headerBytes_of_forwarded {headers : HeaderMap} {max : RequestHeaderBytes}
    {forwarded : ForwardedRequestHeaders}
    (h : forwardRequestHeaders headers max = some (.ok forwarded)) :
    headerBytes forwarded.headers ≤ headerBytes headers ∧ headerBytes headers ≤ max.get := by
  have hmap := forwardRequestHeaders_map headers max
  rw [h, forwardHeaders_eq (max.bounded.trans maxRequestHeaderBytes_le)] at hmap
  have hok := Option.some.inj hmap
  rw [show requestHeaderMap (.ok forwarded) = .ok forwarded.headers from rfl] at hok
  split_ifs at hok with hfits hvalid
  have hsame : forwarded.headers = headers.filter fun header =>
      requestHeaderIsForwarded header.1 (listedNames headers) := Except.ok.inj hok
  rw [hsame]
  exact ⟨headerBytes_filter_le _ headers, hfits⟩

/-- A request that is sent upstream is of the arguments and of the request that it answers: its
method, its target under one of the configured operations and at the configured origin, its headers
within the limit, the body that was read under the limit, and the timeout. -/
structure SentWithin (X : Crates) (args : ServeArgs) (request : HttpRequest)
    (history : List (Event Call.Answer)) (sent : UpstreamRequest) : Prop where
  method : sent.method = request.method
  target : ∃ target origin, AcceptedTarget.new request.uri.path request.uri.query = .ok target ∧
    (∃ raw ∈ args.allowedOperations, ∃ operation, AllowedOperation.parse raw = .ok operation ∧
      operation.Permits request.method target.path) ∧
    UpstreamOrigin.parse X args.upstreamOrigin = .ok origin ∧
    sent.url = origin.joinPathQuery X target.path target.query
  headers : headerBytes sent.headers ≤ headerBytes request.headers ∧
    headerBytes request.headers ≤ args.maxRequestHeaderBytes
  body : ∃ body limit, ⟨.readRequest limit, some (.ok body)⟩ ∈ history ∧
    limit.get = args.maxRequestBytes ∧ sent.body = body.bytes
  deadline : sent.deadline.get = args.requestTimeoutSecs

section Within

variable {X : Crates} {args : ServeArgs} {config : GatewayConfig} {maxEventBytes : AuditEventBytes}
  {request : HttpRequest} {tr : List (Event Call.Answer)} {q : Async Response}

/-- A handler under these arguments sends once, within them. -/
lemma sentWithin_of_runs (hargs : config.HoldsArgs X maxEventBytes args)
    (hruns : (proxy X config request).Runs tr q) {sent : UpstreamRequest}
    (hmem : ⟨.startSend sent, ()⟩ ∈ tr) :
    SentWithin X args request tr sent ∧ (Ledger.of tr).sends = [sent] := by
  have hsent := mem_sends_of_started hmem
  rcases (requestInv_of_runs hruns).sends with hnone | ⟨body, one, hbodies, hone, hforwarded⟩
  · rw [hnone] at hsent
    cases hsent
  · obtain rfl : sent = one := by
      rw [hone] at hsent
      exact List.mem_singleton.mp hsent
    obtain ⟨target, allowed, htarget, hallow, hurl⟩ := hforwarded.url
    obtain ⟨operation, hoperation, hpermits⟩ := permits_of_allowTarget hallow
    obtain ⟨raw, hraw, hparse⟩ :=
      (AllowedOperations.parse_sound hargs.allowedOperations).2.2 operation hoperation
    obtain ⟨headers, hheaders, hsame⟩ := hforwarded.headers
    have hsize := headerBytes_of_forwarded hheaders
    obtain ⟨limit, hread⟩ := read_of_mem_bodies (hbodies ▸ List.mem_singleton_self body)
    have hlimit : limit = config.maxRequestBytes := within_of_runs hruns hread
    have hdeadline : sent.deadline = config.requestTimeout := within_of_runs hruns hmem
    refine ⟨⟨hforwarded.method, ?_, ?_, ?_, ?_⟩, hone⟩
    · exact ⟨target, config.upstreamOrigin, htarget, ⟨raw, hraw, operation, hparse, hpermits⟩,
        hargs.upstreamOrigin, hurl⟩
    · rw [hsame, ← hargs.maxRequestHeaderBytes]
      exact hsize
    · exact ⟨body, limit, hread, hlimit ▸ hargs.maxRequestBytes, hforwarded.body⟩
    · rw [hdeadline]
      exact hargs.requestTimeout

end Within

/-- **Within the arguments.** When the serve arguments were accepted, every interleaving of handlers
and response tasks, with handlers dropped at any await, keeps to them. -/
theorem within_arguments {ι : Type} [DecidableEq ι] (X : Crates) (args : ServeArgs)
    (config : GatewayConfig) (maxEventBytes : AuditEventBytes)
    (hargs : GatewayConfig.tryFrom X args = .ok (config, maxEventBytes))
    (requests : ι → HttpRequest) (turns : List (Turn (Party ι) Call.Answer)) (c : GatewayState ι)
    (hreach : GatewayReach X config requests turns c) :
    (∀ i sent, ⟨.startSend sent, ()⟩ ∈ c.history (.handler i) →
      SentWithin X args (requests i) (c.history (.handler i)) sent ∧
        (Ledger.of (c.history (.handler i))).sends = [sent]) ∧
    (∀ i, (joined (Ledger.of (c.history (.task i))).delivered).length ≤ args.maxResponseBytes) ∧
    ∃ unfinished : Finset ι, (∀ i, i ∈ unfinished ↔ Unfinished X config requests c i) ∧
      unfinished.card ≤ args.maxConcurrentRequests := by
  have hholds := GatewayConfig.tryFrom_eq_ok_iff.mp hargs
  refine ⟨?_, ?_, ?_⟩
  · intro i sent hmem
    exact sentWithin_of_runs hholds (Reach.runs hreach (.handler i)) hmem
  · intro i
    rcases task_runs hreach (i := i) with ⟨hnothing, -⟩ |
      ⟨body, requestId, target, response, tr, htr, htask⟩
    · rw [hnothing]
      exact Nat.zero_le _
    · obtain ⟨account, haccounted⟩ := (streamInv_of_runs response htask).accounted
      rw [htr, ← hholds.maxResponseBytes]
      exact haccounted.within
  · obtain ⟨unfinished, hmem, hcard⟩ := exists_unfinished hreach
    refine ⟨unfinished, hmem, ?_⟩
    rw [← hholds.maxConcurrentRequests, ← hcard]
    exact Nat.le_add_right _ _

/-- The arguments of the reference configuration. -/
def Reference.args : ServeArgs where
  allowedOperations := ["GET:exact:/v1/models".toList]
  maxConcurrentRequests := 4
  maxRequestBytes := 1024
  maxRequestHeaderBytes := 4096
  maxResponseBytes := 1024
  maxResponseHeaderBytes := 4096
  requestTimeoutSecs := 30
  upstreamOrigin := "https://api.openai.com".toList

/-- The arguments of the reference configuration are accepted. -/
lemma Reference.tryFrom_args : GatewayConfig.tryFrom Reference.crates Reference.args =
    .ok (Reference.config, ⟨minAuditEventBytes, le_rfl, by decide⟩) := by
  have hoperations : AllowedOperations.parse Reference.args.allowedOperations =
      .ok ⟨Reference.config.allowedOperations⟩ := by
    decide +kernel
  exact GatewayConfig.tryFrom_eq_ok_iff.mpr
    ⟨hoperations, rfl, rfl, rfl, rfl, rfl, rfl, rfl, Reference.parse_origin⟩

/-- `GET /v1/models` is sent within its arguments. -/
theorem within_arguments_sent : ∃ turns c,
    GatewayReach Reference.crates Reference.config (fun _ : Unit => modelsRequest) turns c ∧
      ⟨.startSend modelsUpstream, ()⟩ ∈ c.history (.handler ()) ∧
      SentWithin Reference.crates Reference.args modelsRequest (c.history (.handler ()))
        modelsUpstream := by
  obtain ⟨turns, c, k, hreach, -, -, -, hhistory, -⟩ := modelsRequest_sent
  have hmem : ⟨.startSend modelsUpstream, ()⟩ ∈ c.history (.handler ()) := by
    rw [hhistory]
    simp [sent]
  exact ⟨turns, c, hreach, hmem, ((within_arguments Reference.crates Reference.args Reference.config
    _ Reference.tryFrom_args (fun _ => modelsRequest) turns c hreach).1 () _ hmem).1⟩

end Custode
