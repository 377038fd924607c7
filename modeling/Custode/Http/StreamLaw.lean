import Custode.Audit.Upstream
import Custode.Http.StreamRun

/-!
# The law of a response stream

* `StreamLaw` — what the handler and the auditor rely on about a response task: one terminal audit,
  chunks in order and within the limit, the last one after its audit, recorded bytes that cover the
  delivered ones. `stream_law_iff` says exactly when it holds: a task whose audit event cannot be
  built panics instead.
* `audit_before_final_byte_iff` — the task withholds one *chunk*. When that chunk is empty, the last
  byte of the body is in front of it and goes out unaudited.
-/

namespace Custode

open Found Found.Text ResponseAccount

/-! ## Events of a response -/

section Events

variable {X : Crates}

/-- Every outcome concludes a request after upstream I/O. -/
lemma ResponseAuditOutcome.concludes (observed : ObservedAuditRequestInput)
    (outcome : ResponseAuditOutcome) : observed.Concludes (outcome.eventInput observed) := by
  cases outcome with
  | allowed responseBody status => exact .allowed _ _
  | upstreamError error => exact .upstreamError _
  | _ => exact .responseError _

/-- The event of a response is built exactly when the query has room for its apostrophes. -/
lemma AuditEvent.forResponse_ne_none_iff (input : ResponseAuditInput) (timestamp : AuditTimestamp) :
    AuditEvent.forResponse X input timestamp ≠ none ↔
      ∀ query ∈ input.target.target.query, HasRoom query.value := by
  constructor
  · intro h
    obtain ⟨event, hevent⟩ := Option.ne_none_iff_exists'.mp h
    simp only [AuditEvent.forResponse, Option.bind_eq_bind, Option.bind_eq_some_iff,
      observed_new, Option.map_eq_some_iff] at hevent
    obtain ⟨_, ⟨upstream, hupstream, -⟩, -⟩ := hevent
    exact (forwardedTarget_eq_some_iff input.target.target.path _).mp ⟨upstream, hupstream⟩
  · intro hroom
    obtain ⟨observed, hobserved, hall⟩ := (upstreamAuditAccepted_iff_hasRoom (X := X) input.target
      input.requestId input.requestBody).mpr hroom
    obtain ⟨event, fields, hevent, -⟩ := hall _ (input.outcome.concludes observed) timestamp
      input.target.upstreamOrigin
    rw [AuditEvent.forResponse, hobserved]
    simp [hevent]

end Events

/-! ## The law -/

/-- The law of a response stream, over every run of its task. -/
structure StreamLaw (X : Crates) (context : ResponseAuditContext) (response : UpstreamResponse) :
    Prop where
  /-- One append is attempted, or none when the audit became unavailable. -/
  auditedOnce : ∀ tr q, (responseTask X context response).Runs tr q →
    (Ledger.of tr).appends.length ≤ 1 ∧ (Ended q →
      ((Ledger.of tr).appends = [] ↔ (Ledger.of tr).interrupt = some .auditUnavailable))
  /-- The delivered chunks are the first of the upstream's, each taken by the account. -/
  inOrder : ∀ tr q, (responseTask X context response).Runs tr q →
    (Ledger.of tr).delivered.map .ok <+: response.body ∧
      ∃ account, Accounted X context.config.maxResponseBytes (Ledger.of tr).delivered account
  /-- The delivered bytes are within the limit. -/
  within : ∀ tr q, (responseTask X context response).Runs tr q →
    (joined (Ledger.of tr).delivered).length ≤ context.config.maxResponseBytes.get
  /-- The last item of a body that ended normally was delivered after the `allowed` append. -/
  lastAudited : ∀ tr q, (responseTask X context response).Runs tr q →
    ∀ chunks, response.body = chunks.map .ok → chunks ≠ [] → (Ledger.of tr).delivered = chunks →
      ∃ event, (Ledger.of tr).appends = [(event, .ok ())] ∧ event.decision = .allowed
  /-- A chunk is sent before the append, or after one that was `allowed` and carried out. -/
  sendsAudited : ∀ tr op k, (responseTask X context response).Runs tr (.call op k) →
    op.SendsChunk → ∀ event result, (event, result) ∈ (Ledger.of tr).appends →
      result = .ok () ∧ event.decision = .allowed
  /-- What is recorded starts with what was delivered, and is the whole body for `allowed`. -/
  recorded : ∀ tr q, (responseTask X context response).Runs tr q →
    ∀ event result, (event, result) ∈ (Ledger.of tr).appends →
      ∃ data, event.responseBody.Records X data ∧ joined (Ledger.of tr).delivered <+: data ∧
        (event.decision = .allowed →
          ∃ chunks, response.body = chunks.map .ok ∧ data = joined chunks)

section Law

variable {X : Crates} {config : GatewayConfig} {requestBody : AccountedBody}
  {requestId : RequestId} {status : StatusCode} {target : AllowedTarget}
  {response : UpstreamResponse} {tr : List (Event Call.Answer)}

/-- The task comes to each of its calls as the rules of the stream say. -/
lemma streamRules_ready {op : Call} {k : op.Answer → Async Unit}
    (hrun : (responseTask X (.initial config requestBody requestId status target) response).Runs tr
      (.call op k)) :
    (streamRules X config.maxResponseBytes response.body True).Ready (Ledger.of tr) op :=
  (safe_responseTask response fun _ _ _ _ => trivial).ready hrun

/-- An event that can be built is built. -/
lemma no_panic (hroom : ∀ query ∈ target.target.query, HasRoom query.value)
    (input : ResponseAuditInput) (timestamp : AuditTimestamp) (htarget : input.target = target)
    (hnone : AuditEvent.forResponse X input timestamp = none) : False := by
  subst htarget
  exact (AuditEvent.forResponse_ne_none_iff input timestamp).mpr hroom hnone

/-- The law holds when the event can be built. -/
lemma streamLaw_of_hasRoom (hroom : ∀ query ∈ target.target.query, HasRoom query.value)
    (response : UpstreamResponse) :
    StreamLaw X (.initial config requestBody requestId status target) response := by
  have hsafe : (streamRules X config.maxResponseBytes response.body False).monitor.Safe
      (responseTask X (.initial config requestBody requestId status target) response)
      (fun _ => StreamExit) Ledger.empty := safe_responseTask response (no_panic hroom)
  refine ⟨?_, ?_, ?_, ?_, ?_, ?_⟩
  · intro tr q hrun
    refine ⟨(streamInv_of_runs response hrun).appends_length_le, ?_⟩
    rintro (⟨_, rfl⟩ | ⟨k, rfl⟩)
    · exact (hsafe.returned hrun).appends_eq_nil_iff
    · exact (hsafe.ready hrun).1.elim
  · intro tr q hrun
    have hinv := streamInv_of_runs response hrun
    exact ⟨hinv.inOrder, hinv.accounted⟩
  · intro tr q hrun
    obtain ⟨account, haccounted⟩ := (streamInv_of_runs response hrun).accounted
    exact haccounted.within
  · intro tr q hrun chunks hbody hchunks hdelivered
    refine (streamInv_of_runs response hrun).lastAudited ?_ ?_
    · simpa [hbody] using hchunks
    · rw [hdelivered, hbody, List.length_map]
  · intro tr op k hrun hsends event result hmem
    have hready := streamRules_ready hrun
    cases op with
    | sendChunk chunk =>
        rw [hready.1] at hmem
        cases hmem
    | sendReserved chunk =>
        obtain ⟨-, -, event', happends, hallowed⟩ := hready
        rw [happends, List.mem_singleton, Prod.mk.injEq] at hmem
        obtain ⟨rfl, rfl⟩ := hmem
        exact ⟨rfl, hallowed⟩
    | _ => exact hsends.elim
  · intro tr q hrun event result hmem
    rcases (streamInv_of_runs response hrun).audited with hnone | ⟨event', result', hone, -, hdata⟩
    · rw [hnone] at hmem
      cases hmem
    · rw [hone, List.mem_singleton, Prod.mk.injEq] at hmem
      obtain ⟨rfl, rfl⟩ := hmem
      exact hdata

/-- What begins with a panic panics. -/
lemma panics_bind {α β : Type} {p : Async α} (h : ∃ k, p = .call .panic k) (f : α → Async β) :
    ∃ k, p >>= f = .call .panic k := by
  obtain ⟨k, rfl⟩ := h
  exact ⟨_, rfl⟩

/-- A task whose event cannot be built panics when the deadline of the stream is up. -/
lemma runs_panic (hnone : ObservedAuditRequestInput.new X target requestId requestBody = none)
    (response : UpstreamResponse) :
    ∃ k, (responseTask X (.initial config requestBody requestId status target) response).Runs
      [⟨.nextItem, .error .elapsed⟩] (.call .panic k) := by
  have hstream : ∀ items, (streamUpstreamResponse X (.new config.maxResponseBytes) none items).Runs
      [⟨.nextItem, .error .elapsed⟩] (.ret (.new config.maxResponseBytes, .error .elapsed)) := by
    rintro (_ | _)
    · exact .step (.refl _)
    · exact .step (.refl _)
  have haudit : ∀ outcome, ∃ k, (ResponseAuditContext.initial config requestBody requestId status
      target).audit X outcome = .call .panic k := by
    intro outcome
    have hexpect : ∃ k, expect (ObservedAuditRequestInput.new X target requestId requestBody) =
        .call .panic k := ⟨_, by rw [hnone]; rfl⟩
    exact panics_bind hexpect _
  have hconclude : ∃ k, concludeStream X (.initial config requestBody requestId status target)
      (.error .elapsed) = .call .panic k :=
    panics_bind (panics_bind (haudit .responseStreamTimeout) _) _
  obtain ⟨k, hpanics⟩ := panics_bind hconclude fun _ => call .releasePermit
  refine ⟨k, .bind (hstream response.body) ?_⟩
  show Program.Runs (concludeStream X (.initial config requestBody requestId status target)
    (.error .elapsed) >>= fun _ => call .releasePermit) [] _
  rw [hpanics]
  exact .refl _

/-- The law fails when the event cannot be built: the task ends in a panic, unaudited. -/
lemma not_streamLaw_of_full (hfull : ¬ ∀ query ∈ target.target.query, HasRoom query.value)
    (response : UpstreamResponse) :
    ¬ StreamLaw X (.initial config requestBody requestId status target) response := by
  have hnone : ObservedAuditRequestInput.new X target requestId requestBody = none := by
    rw [observed_new, Option.map_eq_none_iff, Option.eq_none_iff_forall_ne_some]
    intro upstream hupstream
    exact hfull ((forwardedTarget_eq_some_iff target.target.path _).mp ⟨upstream, hupstream⟩)
  intro hlaw
  obtain ⟨k, hrun⟩ : ∃ k, (responseTask X
      (.initial config requestBody requestId status target) response).Runs _ (.call .panic k) :=
    runs_panic hnone response
  have hunavailable := ((hlaw.auditedOnce _ _ hrun).2 (.inr ⟨k, rfl⟩)).mp rfl
  cases hunavailable

end Law

/-- **The law of a response stream** holds of a task, for every sequence of upstream items, every
interruption, every close of the channel and every result of the append, exactly when the accepted
query has room for its apostrophes. -/
theorem stream_law_iff (X : Crates) (config : GatewayConfig) (requestBody : AccountedBody)
    (requestId : RequestId) (status : StatusCode) (target : AllowedTarget)
    (response : UpstreamResponse) :
    StreamLaw X (.initial config requestBody requestId status target) response ↔
      ∀ query ∈ target.target.query,
        byteLen query.value + 2 * query.value.count '\'' ≤ maxOriginFormQueryBytes := by
  constructor
  · intro hlaw
    by_contra hfull
    exact not_streamLaw_of_full hfull response hlaw
  · exact fun hroom => streamLaw_of_hasRoom hroom response

/-- With an accepted query of 2731 apostrophes, a response task can end in a panic: no audit append
was attempted, and the audit was available. -/
theorem stream_law_violated :
    allowTarget Reference.config Method.get
        ⟨Reference.modelsPath, some (apostrophes 2731 (by decide))⟩ =
      .ok (apostropheTarget 2731 (by decide)) ∧
    ¬ StreamLaw Reference.crates
      (.initial Reference.config emptyBody Reference.requestId ⟨200, by decide⟩
        (apostropheTarget 2731 (by decide)))
      ⟨[], [], ⟨200, by decide⟩⟩ := by
  refine ⟨apostropheTarget_allowed 2731 (by decide), not_streamLaw_of_full ?_ _⟩
  intro hroom
  exact absurd ((apostropheTarget_hasRoom_iff 2731 (by decide)).mp (hroom _ rfl)) (by decide)

/-! ## The final byte -/

/-- The chunk that contains the last byte of the body has been delivered. -/
def LastByteDelivered (chunks : List Bytes) (l : Ledger) : Prop :=
  ∃ before chunk after, chunks = before ++ chunk :: after ∧ chunk.data ≠ [] ∧ joined after = [] ∧
    before ++ [chunk] <+: l.delivered

/-- When the chunk that contains the last byte has been delivered, the `allowed` append has
returned. -/
def FinalByteAudited (X : Crates) (context : ResponseAuditContext) (headers : HeaderMap)
    (chunks : List Bytes) : Prop :=
  ∀ tr q, (responseTask X context ⟨chunks.map .ok, headers, context.status⟩).Runs tr q →
    LastByteDelivered chunks (Ledger.of tr) →
      ∃ event, (event, .ok ()) ∈ (Ledger.of tr).appends ∧ event.decision = .allowed

/-- Every body has a chunk with its last byte. -/
lemma exists_lastByte (chunks : List Bytes) (hbytes : joined chunks ≠ []) :
    ∃ before chunk after, chunks = before ++ chunk :: after ∧ chunk.data ≠ [] ∧
      joined after = [] := by
  induction chunks using List.reverseRecOn with
  | nil => exact absurd joined_nil hbytes
  | append_singleton chunks chunk ih =>
      by_cases hdata : chunk.data = []
      · rw [joined_snoc, hdata, List.append_nil] at hbytes
        obtain ⟨before, lastByte, after, rfl, hlast, hafter⟩ := ih hbytes
        refine ⟨before, lastByte, after ++ [chunk], by simp, hlast, ?_⟩
        rw [joined_snoc, hafter, hdata, List.append_nil]
      · exact ⟨chunks, chunk, [], rfl, hdata, rfl⟩

/-! ### Streaming every chunk -/

/-- The events of a stream in which every wait succeeds, up to the end of these chunks. -/
def streamed : Option Bytes → List Bytes → List (Event Call.Answer)
  | _, [] => []
  | pending, chunk :: chunks =>
      ⟨.nextItem, .ok ()⟩ ::
        (pending.toList.map (fun chunk => ⟨.sendChunk chunk, .ok true⟩) ++
          streamed (some chunk) chunks)

/-- Such a stream delivers all chunks but the last, and audits nothing. -/
lemma observe_streamed (chunks : List Bytes) (pending : Option Bytes) (l : Ledger) :
    ((streamed pending chunks).foldl Ledger.observe l).delivered =
        l.delivered ++ (pending.toList ++ chunks).dropLast ∧
      ((streamed pending chunks).foldl Ledger.observe l).appends = l.appends := by
  induction chunks generalizing pending l with
  | nil =>
      cases pending with
      | none => simp [streamed]
      | some chunk => simp [streamed]
  | cons chunk chunks ih =>
      cases pending with
      | none =>
          obtain ⟨hdelivered, happends⟩ := ih (some chunk) { l with pulled := l.pulled + 1 }
          exact ⟨hdelivered, happends⟩
      | some previous =>
          obtain ⟨hdelivered, happends⟩ := ih (some chunk)
            { l with pulled := l.pulled + 1, delivered := l.delivered ++ [previous] }
          refine ⟨hdelivered.trans ?_, happends⟩
          simp

section Final

variable {X : Crates} {config : GatewayConfig} {requestBody : AccountedBody}
  {requestId : RequestId} {status : StatusCode} {target : AllowedTarget} {headers : HeaderMap}
  {chunks : List Bytes}

/-- Chunks within the limit can all be streamed, up to the end of the body. -/
lemma runs_streamed {maxBytes : ResponseBodyBytes} (chunks : List Bytes) {seen : List Bytes}
    {account : ResponseAccount} (pending : Option Bytes)
    (haccounted : Accounted X maxBytes seen account)
    (hfit : (joined (seen ++ chunks)).length ≤ maxBytes.get) :
    ∃ account' pending', (streamUpstreamResponse X account pending (chunks.map .ok)).Runs
      (streamed pending chunks) (streamUpstreamResponse X account' pending' []) := by
  induction chunks generalizing seen account pending with
  | nil => exact ⟨_, _, .refl _⟩
  | cons chunk chunks ih =>
      obtain ⟨hs, hfed, hmax⟩ := haccounted.spec
      have hadd : account.addChunk X chunk = some (.ok (account.extend chunk)) := by
        apply addChunk_of_fits hs
        rw [hfed, hmax]
        simp only [joined_append, joined_cons, List.length_append] at hfit
        omega
      obtain ⟨account', pending', hrun⟩ :=
        ih (some chunk) (.snoc haccounted hadd) (by simpa using hfit)
      refine ⟨account', pending', .step ?_⟩
      cases pending with
      | none =>
          show Program.Runs (expect (account.addChunk X chunk) >>= _) _ _
          rw [hadd]
          exact hrun
      | some previous =>
          refine .step ?_
          show Program.Runs (expect (account.addChunk X chunk) >>= _) _ _
          rw [hadd]
          exact hrun

/-- A last chunk without bytes lets the last byte of the body out before its audit. -/
lemma not_finalByteAudited {last : Bytes} (hlast : last.data = []) (hbytes : joined chunks ≠ [])
    (hfit : (joined chunks).length ≤ config.maxResponseBytes.get) :
    ¬ FinalByteAudited X (.initial config requestBody requestId status target) headers
      (chunks ++ [last]) := by
  intro haudited
  have hall : (joined ([] ++ (chunks ++ [last]))).length ≤ config.maxResponseBytes.get := by
    rwa [List.nil_append, joined_snoc, hlast, List.append_nil]
  obtain ⟨_, _, hrun⟩ := runs_streamed (X := X) (chunks ++ [last]) none .nil hall
  obtain ⟨hdelivered, happends⟩ := observe_streamed (chunks ++ [last]) none Ledger.empty
  have hnone : (Ledger.of (streamed none (chunks ++ [last]))).appends = [] := happends
  have hsent : (Ledger.of (streamed none (chunks ++ [last]))).delivered = chunks := by
    apply Eq.trans hdelivered
    simp [Ledger.empty]
  obtain ⟨before, chunk, after, rfl, hdata, hafter⟩ := exists_lastByte chunks hbytes
  obtain ⟨event, hmem, -⟩ := haudited _ _ (hrun.bind_left _) ⟨before, chunk, after ++ [last],
    by simp, hdata, by rw [joined_snoc, hafter, hlast]; rfl, by rw [hsent]; simp⟩
  rw [hnone] at hmem
  cases hmem

/-- A body whose last chunk has bytes, or that is over the limit, is audited before its last byte
goes out. -/
lemma finalByteAudited_of (h : (∃ before chunk, chunks = before ++ [chunk] ∧ chunk.data ≠ []) ∨
      config.maxResponseBytes.get < (joined chunks).length) :
    FinalByteAudited X (.initial config requestBody requestId status target) headers chunks := by
  intro tr q hrun hlastByte
  have hinv := streamInv_of_runs _ hrun
  obtain ⟨before, chunk, after, hchunks, hdata, hafter, hsent⟩ := hlastByte
  obtain ⟨account, haccounted⟩ := hinv.accounted
  have hwithin := haccounted.within
  have horder : (Ledger.of tr).delivered <+: chunks :=
    (List.prefix_map_iff_of_injective fun _ _ h => Except.ok.inj h).mp hinv.inOrder
  -- all bytes were delivered
  have hall : (joined chunks).length ≤ (joined (Ledger.of tr).delivered).length := by
    refine le_of_eq_of_le ?_ (joined_mono hsent).length_le
    rw [hchunks, joined_append, joined_snoc, joined_cons, hafter, List.append_nil]
  rcases h with ⟨front, last, rfl, hbytes⟩ | hover
  · rcases List.prefix_concat_iff.mp horder with hwhole | hfront
    · obtain ⟨event, happends, hallowed⟩ :=
        hinv.lastAudited (by simp) (by rw [hwhole, List.length_map])
      exact ⟨event, by rw [happends]; exact List.mem_singleton_self _, hallowed⟩
    · -- the last chunk is missing, and with it bytes of the body
      have hless := (joined_mono hfront).length_le
      have hpos := List.length_pos_iff.mpr hbytes
      rw [joined_snoc, List.length_append] at hall
      omega
  · omega

end Final

/-- **Audit before the final byte.** For a body with bytes that ends normally, the chunk with its
last byte is delivered only after the `allowed` append has returned, in every run of the task,
exactly when the last chunk has bytes or the body is over the limit. -/
theorem audit_before_final_byte_iff (X : Crates) (config : GatewayConfig)
    (requestBody : AccountedBody) (requestId : RequestId) (status : StatusCode)
    (target : AllowedTarget) (headers : HeaderMap) (chunks : List Bytes)
    (hbytes : joined chunks ≠ []) :
    FinalByteAudited X (.initial config requestBody requestId status target) headers chunks ↔
      (∃ before chunk, chunks = before ++ [chunk] ∧ chunk.data ≠ []) ∨
        config.maxResponseBytes.get < (joined chunks).length := by
  refine ⟨fun haudited => ?_, finalByteAudited_of⟩
  by_contra hneither
  rw [not_or, Nat.not_lt] at hneither
  obtain ⟨hempty, hfit⟩ := hneither
  rcases List.eq_nil_or_concat' chunks with rfl | ⟨before, last, rfl⟩
  · exact hbytes joined_nil
  · have hlast : last.data = [] := by
      by_contra hdata
      exact hempty ⟨before, last, rfl, hdata⟩
    rw [joined_snoc, hlast, List.append_nil] at hbytes hfit
    exact not_finalByteAudited hlast hbytes hfit haudited

/-- A body in two chunks with one byte each is audited before the second byte goes out. -/
theorem audit_before_final_byte_twoChunks :
    FinalByteAudited Reference.crates
      (.initial Reference.config emptyBody Reference.requestId ⟨200, by decide⟩
        (apostropheTarget 1 (by decide)))
      [] [⟨[97], by decide⟩, ⟨[98], by decide⟩] :=
  (audit_before_final_byte_iff Reference.crates Reference.config emptyBody Reference.requestId
    ⟨200, by decide⟩ (apostropheTarget 1 (by decide)) []
    [⟨[97], by decide⟩, ⟨[98], by decide⟩] (by decide)).mpr
    (.inl ⟨[⟨[97], by decide⟩], ⟨[98], by decide⟩, rfl, by decide⟩)

/-- A chunk with one byte and an empty chunk after it: the byte goes out before the audit. -/
theorem audit_before_final_byte_violated :
    ¬ FinalByteAudited Reference.crates
      (.initial Reference.config emptyBody Reference.requestId ⟨200, by decide⟩
        (apostropheTarget 1 (by decide)))
      [] [⟨[97], by decide⟩, emptyBody.bytes] := by
  rw [← List.singleton_append]
  exact not_finalByteAudited rfl (by decide) (by decide)

end Custode
