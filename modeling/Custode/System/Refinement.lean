import Custode.System.Recorded

/-!
# The gateway with its adapters refines the gateway

Every configuration that the gateway reaches with its adapters is, up to the appends that are under
way, one that the gateway reaches when an append is one call (`GatewayReach`). What was proved over
every interleaving there holds of the deployment.

* `Coupled` — the gateway's shared state is the same; identities are those of the counter, each
  given out once; timestamps are the clock's; what was taken by the audit writer is a `Journal` of
  attempts, each by a different party.
* `deployment_simulation` — every call and every drop keeps it.
* `deployment_refines` — the conclusion.
-/

namespace Custode

open Found Program

section Coupling

variable {ι : Type} [DecidableEq ι]

/-- Attempts stay attempts. -/
lemma Attempts.advance {c : GatewayState ι} {p q : Party ι} {event : AuditEvent} {op : Call}
    {k : op.Answer → Async p.Result} {r : op.Answer} {s : Shared ι} (h : Attempts c q event)
    (hrest : c.rest p = .call op k) : Attempts (c.advance p ⟨op, r⟩ (k r) s) q event := by
  rcases h with ⟨result, hmem⟩ | ⟨k', hstands⟩
  · exact .inl ⟨result, Config.mem_history_advance.mpr (.inl hmem)⟩
  · by_cases hqp : q = p
    · subst hqp
      rw [hrest] at hstands
      cases hstands
      exact .inl ⟨r, Config.mem_history_advance.mpr (.inr ⟨rfl, rfl⟩)⟩
    · refine .inr ⟨k', ?_⟩
      rw [← hstands]
      exact Function.update_of_ne hqp _ _

/-- What was taken was attempted, once by each party. -/
structure TakenFrom (c : GatewayState ι) (doing : Party ι → List (Event LowCall.Answer))
    (took : List (Party ι × AuditEvent)) : Prop where
  attempts : ∀ x ∈ took, Attempts c x.1 x.2
  parties : (took.map Prod.fst).Nodup
  /-- The party is past the write, or its append has returned. -/
  past : ∀ x ∈ took, c.dropped x.1 = false →
    (appendPhase (doing x.1)).Took ∨ ∃ result, ⟨.appendEvent x.2, result⟩ ∈ c.history x.1

/-- The deployment is the gateway, with this in the log. -/
structure Coupled (time : Humantime) (life : Life ι) (t : Site ι) (c : GatewayState ι)
    (doing : Party ι → List (Event LowCall.Answer)) : Prop where
  gateway : t.gateway = c.shared
  allocated : ∀ p id, ⟨.nextRequestId, .ok id⟩ ∈ c.history p →
    id.runToken = life.runToken ∧ id.sequence.get ≤ t.lastAllocated
  distinct : ∀ p q id, ⟨.nextRequestId, .ok id⟩ ∈ c.history p →
    ⟨.nextRequestId, .ok id⟩ ∈ c.history q → p = q
  clock : ∀ p timestamp, ⟨.now, timestamp⟩ ∈ c.history p → time.Shows timestamp
  kept : life.initial.take life.synced <+: t.disk.stored
  returned : ∀ event result, (event, result) ∈ t.disk.log.returned ↔
    ∃ p, ⟨.appendEvent event, result⟩ ∈ c.history p
  /-- Nothing is refused for its size that fits. -/
  refused : ∀ event bytes max, (event, .error (.eventTooLarge bytes max)) ∈ t.disk.log.returned →
    serializeEvent event life.maxEventBytes.get = .error (.eventTooLarge bytes max)
  journal : ∃ took, Journal life.initial t.disk took (fun p => appendPhase (doing p)) ∧
    TakenFrom c doing took

variable {X : Crates} {time : Humantime} {life : Life ι} {t t' : Site ι} {c : GatewayState ι}
  {doing : Party ι → List (Event LowCall.Answer)} {turns : List (Turn (Party ι) Call.Answer)}
  {p : Party ι}

omit [DecidableEq ι] in
/-- Nothing has happened. -/
lemma Coupled.start (hsynced : life.synced ≤ life.initial.length) :
    Coupled time life (.start life.config life.initial life.synced)
      (.start (gatewayPrograms X life.config life.requests) (.start life.config)) fun _ => [] where
  gateway := rfl
  allocated _ _ h := absurd h List.not_mem_nil
  distinct _ _ _ h := absurd h List.not_mem_nil
  clock _ _ h := absurd h List.not_mem_nil
  kept := List.prefix_rfl
  returned _ _ :=
    iff_of_false List.not_mem_nil fun ⟨_, h⟩ => absurd h List.not_mem_nil
  refused _ _ _ h := absurd h List.not_mem_nil
  journal := ⟨[], .opened hsynced, List.forall_mem_nil _, List.nodup_nil, List.forall_mem_nil _⟩

/-! ### Appends -/

section Append

variable {event : AuditEvent} {k : Except AuditError Unit → Async p.Result} {op : WriterCall}
  {r' : op.Answer} {took : List (Party ι × AuditEvent)}

omit [DecidableEq ι] in
/-- The phases after one party's append has gone on. -/
lemma phaseOf_update [DecidableEq ι] (doing : Party ι → List (Event LowCall.Answer)) (p : Party ι)
    (tr : List (Event LowCall.Answer)) :
    (fun q => appendPhase (Function.update doing p tr q)) =
      Function.update (fun q => appendPhase (doing q)) p (appendPhase tr) := by
  funext q
  by_cases hqp : q = p
  · subst hqp
    rw [Function.update_self, Function.update_self]
  · rw [Function.update_of_ne hqp, Function.update_of_ne hqp]

/-- A call of the writer in the middle of an append. -/
lemma TakenFrom.inner (h : TakenFrom c doing took)
    (hreach : GatewayReach X life.config life.requests turns c) (hlive : c.dropped p = false)
    (hrest : c.rest p = .call (.appendEvent event) k)
    (hready : (appendPhase (doing p)).Ready life.maxEventBytes.get op)
    (hnext : ∀ event result, op ≠ .returns event result) {later : List (Party ι × AuditEvent)}
    (hlater : later = [] ∨ later = [(p, event)] ∧ (∃ line, appendPhase (doing p) = .clean line) ∧
      ((appendPhase (doing p)).observe ⟨op, r'⟩).Took) :
    TakenFrom c (Function.update doing p (doing p ++ [⟨.writer op, r'⟩])) (took ++ later) := by
  have hnotPast : ∀ x ∈ took, x.1 = p → (appendPhase (doing p)).Took := by
    rintro x hx rfl
    rcases h.past x hx hlive with htook | ⟨result, hmem⟩
    · exact htook
    · exact (appended_once hreach hmem hrest).elim
  have hattempts : ∀ x ∈ later, x = (p, event) := by
    rcases hlater with rfl | ⟨rfl, -⟩
    · exact List.forall_mem_nil _
    · exact fun x hx => List.mem_singleton.mp hx
  refine ⟨?_, ?_, ?_⟩
  · intro x hx
    rcases List.mem_append.mp hx with hx | hx
    · exact h.attempts x hx
    · obtain rfl := hattempts x hx
      exact .inr ⟨k, hrest⟩
  · rcases hlater with rfl | ⟨rfl, ⟨line, hclean⟩, -⟩
    · simpa using h.parties
    · rw [List.map_append, List.nodup_append]
      refine ⟨h.parties, List.nodup_singleton _, ?_⟩
      rintro q hq _ hlast rfl
      obtain ⟨x, hx, rfl⟩ := List.mem_map.mp hq
      have htook := hnotPast x hx (List.mem_singleton.mp hlast)
      rw [hclean] at htook
      exact htook
  · intro x hx hdropped
    by_cases hxp : x.1 = p
    · rw [hxp, Function.update_self, appendPhase_snoc]
      refine .inl ?_
      rcases List.mem_append.mp hx with hx | hx
      · exact (hnotPast x hx hxp).observe hready hnext
      · rcases hlater with rfl | ⟨-, -, htook⟩
        · cases hx
        · exact htook
    · rw [Function.update_of_ne hxp]
      rcases List.mem_append.mp hx with hx | hx
      · exact h.past x hx hdropped
      · exact absurd (congrArg Prod.fst (hattempts x hx)) hxp

/-- A call of the writer that is not the last of its append. -/
lemma Coupled.inner (h : Coupled time life t c doing)
    (hreach : GatewayReach X life.config life.requests turns c) (hlive : c.dropped p = false)
    (hrest : c.rest p = .call (.appendEvent event) k)
    (hready : (appendPhase (doing p)).Ready life.maxEventBytes.get op)
    (hwrites : op.Writes life.maxEventBytes.get event)
    (hnext : ∀ event result, op ≠ .returns event result)
    (hexec : Site.Exec life.runToken time p t ⟨.writer op, r'⟩ t') :
    Coupled time life t' c (Function.update doing p (doing p ++ [⟨.writer op, r'⟩])) := by
  obtain ⟨disk, hdisk, rfl⟩ := hexec
  obtain ⟨took, hjournal, htaken⟩ := h.journal
  obtain ⟨later, hjournal', hlater⟩ := hjournal.call hready hwrites hdisk
  have hsame : disk.log.returned = t.disk.log.returned := by
    rw [hdisk.returned]
    cases op with
    | returns event result => exact absurd rfl (hnext event result)
    | _ => exact List.append_nil _
  refine ⟨h.gateway, h.allocated, h.distinct, h.clock, h.kept.trans hdisk.stored,
    hsame ▸ h.returned, hsame ▸ h.refused, took ++ later, ?_,
    htaken.inner hreach hlive hrest hready hnext hlater⟩
  rw [phaseOf_update, appendPhase_snoc]
  exact hjournal'

/-- The last one: the append has returned. -/
lemma Coupled.appended {result : Except AuditError Unit} (h : Coupled time life t c doing)
    (hreach : GatewayReach X life.config life.requests turns c)
    (hrest : c.rest p = .call (.appendEvent event) k)
    (hready : (appendPhase (doing p)).Ready life.maxEventBytes.get (.returns event result))
    {u : Unit}
    (hexec : Site.Exec life.runToken time p t ⟨.writer (.returns event result), u⟩ t') :
    Coupled time life t' (c.advance p ⟨.appendEvent event, result⟩ (k result) c.shared)
      (Function.update doing p []) := by
  obtain ⟨disk, hdisk, rfl⟩ := hexec
  obtain ⟨took, hjournal, htaken⟩ := h.journal
  obtain ⟨later, hjournal', hlater⟩ := hjournal.call hready
    (show (WriterCall.returns event result).Writes _ event from rfl) hdisk
  have hidle : (appendPhase (doing p)).observe ⟨.returns event result, u⟩ = .idle := by
    cases appendPhase (doing p) <;> rfl
  rw [hidle] at hjournal' hlater
  obtain rfl : later = [] := hlater.elim id fun h => h.2.2.elim
  rw [List.append_nil] at hjournal'
  refine ⟨h.gateway, ?_, ?_, ?_, h.kept.trans hdisk.stored, ?_, ?_, took, ?_, ?_,
    htaken.parties, ?_⟩
  · intro q id hmem
    rcases Config.mem_history_advance.mp hmem with hmem | ⟨-, hnow⟩
    · exact h.allocated q id hmem
    · cases hnow
  · intro q q' id hmem hmem'
    rcases Config.mem_history_advance.mp hmem with hmem | ⟨-, hnow⟩
    · rcases Config.mem_history_advance.mp hmem' with hmem' | ⟨-, hnow⟩
      · exact h.distinct q q' id hmem hmem'
      · cases hnow
    · cases hnow
  · intro q timestamp hmem
    rcases Config.mem_history_advance.mp hmem with hmem | ⟨-, hnow⟩
    · exact h.clock q timestamp hmem
    · cases hnow
  · intro event' result'
    rw [hdisk.returned, List.mem_append, h.returned]
    simp only [WriterCall.outcomes, List.mem_singleton, Prod.mk.injEq, Config.mem_history_advance,
      exists_or, Sigma.mk.injEq, Call.appendEvent.injEq]
    refine or_congr_right ⟨?_, ?_⟩
    · rintro ⟨rfl, rfl⟩
      exact ⟨p, rfl, rfl, HEq.rfl⟩
    · rintro ⟨_, rfl, rfl, hresult⟩
      exact ⟨rfl, eq_of_heq hresult⟩
  · intro event' bytes max hmem
    rw [hdisk.returned, List.mem_append] at hmem
    rcases hmem with hmem | hmem
    · exact h.refused event' bytes max hmem
    · obtain ⟨rfl, rfl⟩ := Prod.mk.injEq _ _ _ _ ▸ List.mem_singleton.mp hmem
      generalize appendPhase (doing p) = phase at hready
      cases hready with
      | tooLarge size => exact size
  · rw [phaseOf_update]
    exact hjournal'
  · exact fun x hx => (htaken.attempts x hx).advance hrest
  · intro x hx hdropped
    by_cases hxp : x.1 = p
    · -- the only event that the party attempts is the one that was appended
      obtain ⟨-, hevent⟩ := (htaken.attempts x hx).unique hreach
        (.inr (show ∃ k, c.rest p = .call (.appendEvent event) k from ⟨k, hrest⟩))
        (congrArg Party.request hxp)
      refine .inr ⟨result, Config.mem_history_advance.mpr (.inr ⟨hxp, ?_⟩)⟩
      rw [hevent]
    · rw [Function.update_of_ne hxp]
      exact (htaken.past x hx hdropped).imp id fun ⟨result, hmem⟩ =>
        ⟨result, Config.mem_history_advance.mpr (.inl hmem)⟩

/-- A handler is dropped in its append. -/
lemma Coupled.dropAppend (h : Coupled time life t c doing)
    (hready : (appendPhase (doing p)).Ready life.maxEventBytes.get op) (hop : op.Awaited) :
    Coupled time life (t.release p) (c.lose p (c.shared.release p))
      (Function.update doing p []) := by
  obtain ⟨took, hjournal, htaken⟩ := h.journal
  refine ⟨congrArg (Shared.release p) h.gateway, h.allocated, h.distinct, h.clock, ?_, ?_, ?_, took,
    ?_, htaken.attempts, htaken.parties, ?_⟩
  · rw [Site.release, AuditDisk.stored_release]
    exact h.kept
  · rw [Site.release, AuditDisk.returned_release]
    exact h.returned
  · rw [Site.release, AuditDisk.returned_release]
    exact h.refused
  · rw [phaseOf_update]
    exact hjournal.drop hready hop
  · intro x hx hdropped
    have hxp : x.1 ≠ p := by
      intro hxp
      simp [Config.lose, hxp] at hdropped
    rw [Function.update_of_ne hxp]
    refine htaken.past x hx ?_
    simpa [Config.lose, Function.update_of_ne hxp] using hdropped

end Append

/-! ### The other calls -/

section Port

variable {op : Call} {k : op.Answer → Async p.Result} {r : op.Answer} {s : Shared ι}

/-- One call that appends nothing. -/
lemma Coupled.advance (h : Coupled time life t c doing)
    (hop : op.AppendsNothing) (hdoing : doing p = []) (hrest : c.rest p = .call op k)
    (hgateway : t'.gateway = s) (hdisk : t'.disk = t.disk)
    (hcounter : t.lastAllocated ≤ t'.lastAllocated)
    (hid : ∀ id, (⟨op, r⟩ : Event Call.Answer) = ⟨.nextRequestId, .ok id⟩ →
      id.runToken = life.runToken ∧ id.sequence.get ≤ t'.lastAllocated ∧
        t.lastAllocated < id.sequence.get)
    (hnow : ∀ timestamp, (⟨op, r⟩ : Event Call.Answer) = ⟨.now, timestamp⟩ →
      time.Shows timestamp) :
    Coupled time life t' (c.advance p ⟨op, r⟩ (k r) s) (Function.update doing p []) := by
  have hsame : Function.update doing p [] = doing := by
    rw [← hdoing, Function.update_eq_self]
  have hfresh : ∀ q id, ⟨.nextRequestId, .ok id⟩ ∈ c.history q →
      (⟨op, r⟩ : Event Call.Answer) ≠ ⟨.nextRequestId, .ok id⟩ := by
    intro q id hmem heq
    have hold := (h.allocated q id hmem).2
    have hnew := (hid id heq).2.2
    omega
  obtain ⟨took, hjournal, htaken⟩ := h.journal
  rw [hsame]
  refine ⟨hgateway, ?_, ?_, ?_, hdisk ▸ h.kept, ?_, hdisk ▸ h.refused, took, hdisk ▸ hjournal, ?_,
    htaken.parties, ?_⟩
  · intro q id hmem
    rcases Config.mem_history_advance.mp hmem with hmem | ⟨-, hnew⟩
    · exact ⟨(h.allocated q id hmem).1, (h.allocated q id hmem).2.trans hcounter⟩
    · exact ⟨(hid id hnew.symm).1, (hid id hnew.symm).2.1⟩
  · intro q q' id hmem hmem'
    rcases Config.mem_history_advance.mp hmem with hmem | ⟨rfl, hnew⟩
    · rcases Config.mem_history_advance.mp hmem' with hmem' | ⟨-, hnew⟩
      · exact h.distinct q q' id hmem hmem'
      · exact absurd hnew.symm (hfresh q id hmem)
    · rcases Config.mem_history_advance.mp hmem' with hmem' | ⟨rfl, -⟩
      · exact absurd hnew.symm (hfresh q' id hmem')
      · rfl
  · intro q timestamp hmem
    rcases Config.mem_history_advance.mp hmem with hmem | ⟨-, hnew⟩
    · exact h.clock q timestamp hmem
    · exact hnow timestamp hnew.symm
  · intro event result
    rw [hdisk, h.returned]
    refine exists_congr fun q =>
      ⟨fun hmem => Config.mem_history_advance.mpr (.inl hmem), fun hmem => ?_⟩
    rcases Config.mem_history_advance.mp hmem with hmem | ⟨-, hnew⟩
    · exact hmem
    · cases hnew
      exact hop.elim
  · exact fun x hx => (htaken.attempts x hx).advance hrest
  · intro x hx hdropped
    exact (htaken.past x hx hdropped).imp id fun ⟨result, hmem⟩ =>
      ⟨result, Config.mem_history_advance.mpr (.inl hmem)⟩

/-- The counter hands out its next value. -/
lemma exec_nextRequestId {result : Except RequestIdError RequestId}
    (hexec : Site.Exec life.runToken time p t ⟨.port .nextRequestId, result⟩ t') :
    t'.gateway = t.gateway ∧ t'.disk = t.disk ∧ t.lastAllocated ≤ t'.lastAllocated ∧
      ∀ id, result = .ok id → id.runToken = life.runToken ∧
        id.sequence.get = t'.lastAllocated ∧ t.lastAllocated < id.sequence.get := by
  rcases hincrement : SequentialRequestIds.increment t.lastAllocated with _ | next
  · simp only [Site.Exec, hincrement] at hexec
    obtain ⟨rfl, rfl⟩ := hexec
    refine ⟨rfl, rfl, le_rfl, ?_⟩
    rintro _ ⟨⟩
  · simp only [Site.Exec, hincrement] at hexec
    obtain ⟨id, hid, rfl, rfl⟩ := hexec
    obtain ⟨rfl, hbound⟩ := SequentialRequestIds.increment_eq_some_iff.mp hincrement
    rw [SequentialRequestIds.allocate_of_lt _ hbound] at hid
    cases hid
    refine ⟨rfl, rfl, Nat.le_succ _, ?_⟩
    rintro _ ⟨⟩
    exact ⟨rfl, rfl, Nat.lt_succ_self _⟩

/-- Every call that appends nothing is one call of the gateway. -/
lemma Coupled.port (h : Coupled time life t c doing) (hop : op.AppendsNothing)
    (hdoing : doing p = []) (hrest : c.rest p = .call op k)
    (hexec : Site.Exec life.runToken time p t ⟨.port op, r⟩ t') :
    ∃ s, Shared.Exec p c.shared ⟨op, r⟩ s ∧
      Coupled time life t' (c.advance p ⟨op, r⟩ (k r) s) (Function.update doing p []) := by
  have hshared : ∀ gateway, Shared.Exec p t.gateway ⟨op, r⟩ gateway →
      t' = { t with gateway := gateway } → op ≠ .nextRequestId → op ≠ .now →
      ∃ s, Shared.Exec p c.shared ⟨op, r⟩ s ∧
        Coupled time life t' (c.advance p ⟨op, r⟩ (k r) s) (Function.update doing p []) := by
    rintro gateway hgateway rfl hid hnow
    rw [h.gateway] at hgateway
    refine ⟨gateway, hgateway, h.advance hop hdoing hrest rfl rfl le_rfl ?_ ?_⟩
    · exact fun id heq => absurd (congrArg Sigma.fst heq) hid
    · exact fun timestamp heq => absurd (congrArg Sigma.fst heq) hnow
  cases op with
  | appendEvent event => exact hop.elim
  | nextRequestId =>
      obtain ⟨hgateway, hdisk, hcounter, hid⟩ := exec_nextRequestId hexec
      refine ⟨c.shared, rfl, h.advance hop hdoing hrest (hgateway.trans h.gateway) hdisk hcounter
        ?_ (by simp)⟩
      intro id heq
      cases heq
      obtain ⟨htoken, hvalue, hnew⟩ := hid id rfl
      exact ⟨htoken, hvalue.le, hnew⟩
  | now =>
      obtain ⟨hshows, rfl⟩ := hexec
      refine ⟨c.shared, rfl, h.advance hop hdoing hrest h.gateway rfl le_rfl (by simp) ?_⟩
      intro timestamp heq
      cases heq
      exact hshows
  | _ =>
      obtain ⟨gateway, hgateway, ht'⟩ := hexec
      exact hshared gateway hgateway ht' (by simp) (by simp)

/-- A party is dropped in such a call. -/
lemma Coupled.dropPort (h : Coupled time life t c doing) (hdoing : doing p = []) :
    Coupled time life (t.release p) (c.lose p (c.shared.release p))
      (Function.update doing p []) := by
  obtain ⟨took, hjournal, htaken⟩ := h.journal
  have hsame : Function.update doing p [] = doing := by
    rw [← hdoing, Function.update_eq_self]
  have hidle : appendPhase (doing p) = .idle := by
    rw [hdoing]
    rfl
  rw [hsame]
  refine ⟨congrArg (Shared.release p) h.gateway, h.allocated, h.distinct, h.clock, ?_, ?_, ?_, took,
    ?_, htaken.attempts, htaken.parties, ?_⟩
  · rw [Site.release, AuditDisk.stored_release]
    exact h.kept
  · rw [Site.release, AuditDisk.returned_release]
    exact h.returned
  · rw [Site.release, AuditDisk.returned_release]
    exact h.refused
  · rw [Site.release, hjournal.release_idle hidle]
    exact hjournal
  · intro x hx hdropped
    refine htaken.past x hx ?_
    by_cases hxp : x.1 = p
    · simp [Config.lose, hxp] at hdropped
    · simpa [Config.lose, Function.update_of_ne hxp] using hdropped

end Port

/-- Every call appends, or it appends nothing. -/
lemma Call.appends_or (op : Call) : (∃ event, op = .appendEvent event) ∨ op.AppendsNothing := by
  cases op with
  | appendEvent event => exact .inl ⟨event, rfl⟩
  | _ => exact .inr trivial

/-- **Each step** of the gateway with its adapters is unseen by the gateway, or one of its steps. -/
theorem deployment_simulation (X : Crates) (time : Humantime) (life : Life ι) :
    Simulation (adapter life.maxEventBytes) gatewayArena (siteArena life.runToken time)
      (gatewayPrograms X life.config life.requests) (.start life.config) (Coupled time life) where
  calls := adapter_ne_ret life.maxEventBytes
  inner := by
    intro turns c t doing p op k op' k' r' t' hreach h hlive hrest hruns hnext hexec
    rcases op.appends_or with ⟨event, rfl⟩ | hop
    · obtain ⟨op, rfl, hready, hwrites⟩ := append_call hruns
      exact h.inner hreach hlive hrest hready hwrites (append_next hruns hnext) hexec
    · obtain ⟨-, hcall⟩ := port_call hop hruns
      cases hcall
      exact absurd rfl hnext
  done := by
    intro turns c t doing p op k op' k' r' r t' hreach h hlive hrest hruns hlast hexec
    rcases op.appends_or with ⟨event, rfl⟩ | hop
    · obtain ⟨op, rfl, hready, -⟩ := append_call hruns
      obtain rfl := append_last hruns hlast
      exact ⟨c.shared, rfl, h.appended hreach hrest hready hexec⟩
    · obtain ⟨hdoing, hcall⟩ := port_call hop hruns
      cases hcall
      cases hlast
      exact h.port hop hdoing hrest hexec
  drop := by
    intro turns c t doing p op k op' k' hreach h hlive hrest hruns hcancellable
    rcases op.appends_or with ⟨event, rfl⟩ | hop
    · obtain ⟨op, rfl, hready, -⟩ := append_call hruns
      obtain ⟨⟨i, rfl⟩, hawaited⟩ := hcancellable
      exact ⟨trivial, h.dropAppend hready hawaited⟩
    · obtain ⟨hdoing, hcall⟩ := port_call hop hruns
      cases hcall
      exact ⟨hcancellable, h.dropPort hdoing⟩

end Coupling

/-- **Refinement.** What the gateway reaches with its adapters, in a life that starts on a log of
which no more is on stable storage than there is, is up to the appends that are under way what the
gateway reaches. -/
theorem deployment_refines {ι : Type} [DecidableEq ι] (X : Crates) (time : Humantime)
    (life : Life ι) (hsynced : life.synced ≤ life.initial.length)
    (turns : List (Turn (Party ι) LowCall.Answer)) (f : DeploymentState ι)
    (hreach : DeploymentReach X time life turns f) :
    ∃ turns' c doing, GatewayReach X life.config life.requests turns' c ∧
      Matches (adapter life.maxEventBytes) f c doing ∧ Coupled time life f.shared c doing :=
  (deployment_simulation X time life).reach (.start hsynced) hreach

/-- The life that denies a `CONNECT` request, behind the append. -/
theorem deployment_refines_connect : ∃ event turns f turns' c doing,
    DeploymentReach Reference.crates Reference.humantime connectLife turns f ∧
      f.shared.disk.log.returned = [(event, .ok ())] ∧
      GatewayReach Reference.crates connectLife.config connectLife.requests turns' c ∧
      Matches (adapter connectLife.maxEventBytes) f c doing ∧ f.shared.gateway = c.shared := by
  obtain ⟨event, turns, f, hreach, -, -, hlog, -⟩ := reach_connectLife
  obtain ⟨turns', c, doing, hgateway, hmatches, hcoupled⟩ := deployment_refines Reference.crates
    Reference.humantime connectLife le_rfl turns f hreach
  exact ⟨event, turns, f, turns', c, doing, hreach, by rw [hlog], hgateway, hmatches,
    hcoupled.gateway⟩

end Custode
