import Custode.System.Answered

/-!
# No append fails for its size

Under every configuration that is accepted, what the gateway appends is no longer than the smallest
limit. So the one failure of an append that does not come from the disk, and would close the gateway
for good, does not happen.

* `Decided.isPlain` — the texts of a decided event are bounded and have no control characters.
* `appends_fit` — in every interleaving, over the writer.
-/

namespace Custode

open Found Found.Text Found.Json Program

section Events

variable {X : Crates} {config : GatewayConfig} {request : HttpRequest} {event : AuditEvent}

/-- The input that a decided event is built from. -/
lemma Decided.exists_input (h : Decided X config request event)
    (hchars : ∀ c ∈ request.uri.text, ¬ IsControl c) :
    ∃ input, AuditEvent.newAt X input event.timestamp = some event ∧
      input.request.target.Recorded ∧ input.request.upstreamOrigin = config.upstreamOrigin := by
  cases h with
  | denied recordable built =>
      rw [timestamp_newAt built]
      exact ⟨_, built, recordable.recorded hchars, rfl⟩
  | @response input timestamp decided built =>
      obtain ⟨observed, hobserved, hevent⟩ := Option.bind_eq_some_iff.mp built
      have hrequest : (input.outcome.eventInput observed).request = observed.request :=
        (eventParts_of_concludes (input.outcome.concludes observed)).1
      rw [timestamp_newAt hevent]
      refine ⟨_, hevent, ?_, ?_⟩
      · rw [hrequest]
        exact ObservedAuditRequestInput.recorded hobserved
      · rw [hrequest, request_of_new hobserved]
        exact (allowTarget_eq_ok (targetDecision_eq_ok decided).2.2.2).2.2

/-- A decided event is plain. -/
lemma Decided.isPlain (h : Decided X config request event)
    (hchars : ∀ c ∈ request.uri.text, ¬ IsControl c) (hX : X.url.PrintsNoControl) {raw : Text}
    (horigin : UpstreamOrigin.parse X raw = .ok config.upstreamOrigin)
    (hlength : byteLen (config.upstreamOrigin.asStr X) ≤ 4096)
    (htime : fits nanosTimestamp event.timestamp.text = true) : event.IsPlain := by
  obtain ⟨input, hbuilt, htarget, hsame⟩ := h.exists_input hchars
  obtain ⟨event', hevent, hplain⟩ := AuditEvent.newAt_isPlain hX (hsame ▸ horigin)
    (hsame ▸ hlength) htarget htime
  obtain rfl : event' = event := Option.some.inj (hevent.symm.trans hbuilt)
  exact hplain

end Events

section Fits

variable {ι : Type} [DecidableEq ι] {X : Crates} {time : Humantime} {life : Life ι} {raw : Text}
  {t : Site ι} {turns : List (Turn (Party ι) Call.Answer)} {c : GatewayState ι}
  {doing : Party ι → List (Event LowCall.Answer)} {event : AuditEvent}

/-- The lines of attempted appends are no longer than the smallest limit. -/
lemma Coupled.length_line_le (h : Coupled time life t c doing) (hX : X.url.PrintsNoControl)
    (horigin : UpstreamOrigin.parse X raw = .ok life.config.upstreamOrigin)
    (hlength : byteLen (life.config.upstreamOrigin.asStr X) ≤ 4096)
    (hchars : ∀ i, ∀ c ∈ (life.requests i).uri.text, ¬ IsControl c)
    (hreach : GatewayReach X life.config life.requests turns c) {p : Party ι}
    (hattempt : Attempts c p event) : event.line.length ≤ minAuditEventBytes := by
  have hfits := (h.clock p _ (hattempt.timestamp hreach)).fits
  exact AuditEvent.length_line_le
    ((hattempt.decided hreach).2.isPlain (hchars p.request) hX horigin hlength hfits)

omit [DecidableEq ι] in
/-- An event that is within the smallest limit was not refused for its size. -/
lemma Coupled.not_tooLarge (h : Coupled time life t c doing)
    (hline : event.line.length ≤ minAuditEventBytes) (bytes max : Nat) :
    (event, .error (.eventTooLarge bytes max)) ∉ t.disk.log.returned := by
  intro hreturned
  have hrefused := h.refused event bytes max hreturned
  have hok : serializeEvent event life.maxEventBytes.get = .ok event.line :=
    if_neg (not_lt.mpr (hline.trans life.maxEventBytes.large))
  rw [hok] at hrefused
  cases hrefused

end Fits

/-- **No append fails for its size.** In every interleaving of a gateway with its adapters, with
requests without control characters in their URIs and an origin of at most 4096 bytes: every event
of which `write_event` has returned is no longer than the smallest limit of a configuration, and
`EventTooLarge` is not what was returned. -/
theorem appends_fit {ι : Type} [DecidableEq ι] (X : Crates) (time : Humantime) (life : Life ι)
    (hX : X.url.PrintsNoControl) (raw : Text)
    (horigin : UpstreamOrigin.parse X raw = .ok life.config.upstreamOrigin)
    (hlength : byteLen (life.config.upstreamOrigin.asStr X) ≤ 4096)
    (hchars : ∀ i, ∀ c ∈ (life.requests i).uri.text, ¬ IsControl c)
    (hsynced : life.synced ≤ life.initial.length) (turns : List (Turn (Party ι) LowCall.Answer))
    (f : DeploymentState ι) (hreach : DeploymentReach X time life turns f) (event : AuditEvent)
    (result : Except AuditError Unit) (hreturned : (event, result) ∈ f.shared.disk.log.returned) :
    event.line.length ≤ minAuditEventBytes ∧
      ∀ bytes max, result ≠ .error (.eventTooLarge bytes max) := by
  obtain ⟨turns', c, doing, hgateway, -, hcoupled⟩ :=
    (deployment_simulation X time life).reach (.start hsynced) hreach
  obtain ⟨p, hmem⟩ := (hcoupled.returned event result).mp hreturned
  have hline := hcoupled.length_line_le hX horigin hlength hchars hgateway (.inl ⟨result, hmem⟩)
  refine ⟨hline, ?_⟩
  rintro bytes max rfl
  exact hcoupled.not_tooLarge hline bytes max hreturned

/-- The append of the denial of a `CONNECT` request. -/
theorem appends_fit_connect : ∃ turns f event,
    DeploymentReach Reference.crates Reference.humantime connectLife turns f ∧
      (event, .ok ()) ∈ f.shared.disk.log.returned ∧ event.line.length ≤ minAuditEventBytes := by
  obtain ⟨event, turns, f, hreach, -, -, hlog, -⟩ := reach_connectLife
  have hreturned : (event, .ok ()) ∈ f.shared.disk.log.returned := by
    rw [hlog]
    exact List.mem_singleton_self _
  have hlength : byteLen (Reference.origin.asStr Reference.crates) ≤ 4096 := by decide
  have hchars : ∀ c ∈ connectRequest.uri.text, ¬ IsControl c := forall_mem_of_all (by decide)
  exact ⟨turns, f, event, hreach, hreturned, (appends_fit Reference.crates Reference.humantime
    connectLife Reference.printsNoControl _ Reference.parse_origin hlength
    (fun _ => hchars) le_rfl turns f hreach event (.ok ()) hreturned).1⟩

end Custode
