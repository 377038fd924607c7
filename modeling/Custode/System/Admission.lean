import Custode.Found.Permits
import Custode.System.Gate
import Custode.System.Refused

/-!
# Admission

* `AdmissionInv` — the invariant between the phases of the parties, the permits they own and the
  free ones. `AdmissionInv.move` is what a call does that leaves the tasks alone, and
  `AdmissionInv.spawn` the one that passes a permit on; a drop gives the permit back.
* `admission` — the unfinished requests are those that own a permit, one each, and every other
  permit is free; a refused request is not forwarded and audited once.
-/

namespace Custode

open Found

/-! ## The permits of the parties -/

section Invariant

variable {ι : Type}

/-- The phase in which a party starts. -/
def Party.permitPhase : Party ι → PermitPhase
  | handler _ => .entry
  | task _ => .waiting

/-- The phases of the parties (`m`) and the permits agree; `d` are the dropped parties. -/
structure AdmissionInv (capacity : Nat) (s : Shared ι) (m : Party ι → PermitPhase)
    (d : Party ι → Bool) : Prop where
  permits : ∀ p, s.permits p = true ↔
    d p = false ∧ (m p = .holding ∨ m p = .waiting ∧ (s.spawned p.request).isSome)
  handlers : ∀ i, m (.handler i) ≠ .waiting
  tasks : ∀ i, m (.task i) ≠ .entry ∧ (m (.task i) ≠ .waiting → (s.spawned i).isSome)
  spawned : ∀ i, (s.spawned i).isSome ↔ m (.handler i) = .handedOver
  waiting : ∀ p, m p = .waiting → d p = false
  conserved : Conserved capacity s.available s.permits

variable {capacity : Nat} {s s' : Shared ι} {m : Party ι → PermitPhase} {d : Party ι → Bool}
  {p : Party ι}

/-- The invariant at the start. -/
lemma AdmissionInv.start (config : GatewayConfig) :
    AdmissionInv config.maxConcurrentRequests.get (Shared.start config : Shared ι)
      Party.permitPhase fun _ => false := by
  refine ⟨?_, ?_, ?_, ?_, fun _ _ => rfl, .start _⟩
  · intro p
    cases p <;> simp [Shared.start, Party.permitPhase]
  · rintro i ⟨⟩
  · exact fun i => ⟨by simp [Party.permitPhase], fun hne => absurd rfl hne⟩
  · intro i
    simp [Shared.start, Party.permitPhase]

/-- A party in another phase than these owns no permit. -/
lemma AdmissionInv.unowned (h : AdmissionInv capacity s m d) (hholding : m p ≠ .holding)
    (hwaiting : m p = .waiting → s.spawned p.request = none) : s.permits p = false := by
  rw [← Bool.not_eq_true, h.permits p]
  rintro ⟨-, hphase | ⟨hphase, hspawned⟩⟩
  · exact hholding hphase
  · rw [hwaiting hphase] at hspawned
    cases hspawned

/-- A party that can be dropped has started. -/
lemma started_of_cancellable {late : Call → Prop} {phase : PermitPhase} {op : Call}
    (hready : phase.Ready late op) (hcancellable : Cancellable p op) : phase ≠ .waiting := by
  have hkeeps : ¬ op.MovesPermit := by
    cases p <;> cases op <;> first | exact hcancellable.elim | exact id
  exact ((PermitPhase.ready_keeps hkeeps).mp hready).1

variable [DecidableEq ι]

/-- A party goes to another phase, and its permit with it. -/
lemma AdmissionInv.move (h : AdmissionInv capacity s m d) (hlive : d p = false)
    {phase : PermitPhase} (hphase : phase = .holding ∨ phase = .refused ∨ phase = .released)
    (hbefore : m p ≠ .handedOver) (htask : ∀ i, p = .task i → (s.spawned i).isSome)
    (hspawned : s'.spawned = s.spawned) (hothers : ∀ q, q ≠ p → s'.permits q = s.permits q)
    (howns : s'.permits p = true ↔ phase = .holding)
    (hconserved : Conserved capacity s'.available s'.permits) :
    AdmissionInv capacity s' (Function.update m p phase) d := by
  have hnew : phase ≠ .entry ∧ phase ≠ .waiting ∧ phase ≠ .handedOver := by
    rcases hphase with rfl | rfl | rfl
    · decide
    · decide
    · decide
  refine ⟨?_, ?_, ?_, ?_, ?_, hconserved⟩
  · intro q
    by_cases hqp : q = p
    · subst hqp
      simpa [hlive, hnew.2.1] using howns
    · rw [hothers q hqp, Function.update_of_ne hqp, hspawned]
      exact h.permits q
  · intro i
    by_cases hip : Party.handler i = p
    · subst hip
      rw [Function.update_self]
      exact hnew.2.1
    · rw [Function.update_of_ne hip]
      exact h.handlers i
  · intro i
    rw [hspawned]
    by_cases hip : Party.task i = p
    · subst hip
      rw [Function.update_self]
      exact ⟨hnew.1, fun _ => htask i rfl⟩
    · rw [Function.update_of_ne hip]
      exact h.tasks i
  · intro i
    rw [hspawned, h.spawned i]
    by_cases hip : Party.handler i = p
    · subst hip
      rw [Function.update_self]
      exact iff_of_false hbefore hnew.2.2
    · rw [Function.update_of_ne hip]
  · intro q hq
    by_cases hqp : q = p
    · subst hqp
      exact hlive
    · rw [Function.update_of_ne hqp] at hq
      exact h.waiting q hq

/-! ### The calls that move a permit -/

/-- A handler asks for a permit. -/
lemma AdmissionInv.tryAcquireOwned (h : AdmissionInv capacity s m d) (hlive : d p = false)
    (hphase : m p = .entry) {r : Bool} (hexec : Shared.Exec p s ⟨.tryAcquireOwned, r⟩ s') :
    AdmissionInv capacity s' (Function.update m p ((m p).observe ⟨.tryAcquireOwned, r⟩)) d := by
  have hunowned : s.permits p = false := by
    apply h.unowned
    · rw [hphase]
      decide
    · rw [hphase]
      rintro ⟨⟩
  have hbefore : m p ≠ .handedOver := by
    rw [hphase]
    decide
  have htask : ∀ i, p = .task i → (s.spawned i).isSome := by
    rintro i rfl
    exact absurd hphase (h.tasks i).1
  rw [hphase]
  cases r with
  | true =>
      obtain ⟨hfree, rfl⟩ := hexec
      refine h.move hlive (.inl rfl) hbefore htask rfl ?_ ?_ (h.conserved.take hfree hunowned)
      · exact fun q hqp => Function.update_of_ne hqp _ _
      · exact iff_of_true (Function.update_self _ _ _) rfl
  | false =>
      obtain ⟨-, rfl⟩ := hexec
      refine h.move hlive (.inr (.inl rfl)) hbefore htask rfl (fun _ _ => rfl) ?_ h.conserved
      rw [hunowned]
      exact iff_of_false Bool.false_ne_true (by decide)

/-- A party drops its permit. -/
lemma AdmissionInv.releasePermit (h : AdmissionInv capacity s m d) (hlive : d p = false)
    (hphase : m p = .holding) (hexec : Shared.Exec p s ⟨.releasePermit, ()⟩ s') :
    AdmissionInv capacity s' (Function.update m p .released) d := by
  obtain rfl := hexec
  have howned : s.permits p = true := (h.permits p).mpr ⟨hlive, .inl hphase⟩
  refine h.move hlive (.inr (.inr rfl)) ?_ ?_ rfl ?_ ?_ (h.conserved.give howned)
  · rw [hphase]
    decide
  · rintro i rfl
    apply (h.tasks i).2
    rw [hphase]
    decide
  · exact fun q hqp => Function.update_of_ne hqp _ _
  · simp

/-- A response task starts with the permit that it was given. -/
lemma AdmissionInv.started (h : AdmissionInv capacity s m d) (hlive : d p = false)
    (hphase : m p = .waiting) {task : ResponseAuditContext × UpstreamResponse}
    (hexec : Shared.Exec p s ⟨.started, task⟩ s') :
    AdmissionInv capacity s' (Function.update m p .holding) d := by
  obtain ⟨hspawned, rfl⟩ := hexec
  have howned : s'.permits p = true := by
    rw [h.permits p, hspawned]
    exact ⟨hlive, .inr ⟨hphase, rfl⟩⟩
  refine h.move hlive (.inl rfl) ?_ ?_ rfl (fun _ _ => rfl) (iff_of_true howned rfl) h.conserved
  · rw [hphase]
    decide
  · rintro i rfl
    rw [show s'.spawned i = some task from hspawned]
    rfl

/-- A handler passes its permit on to the response task. -/
lemma AdmissionInv.spawn (h : AdmissionInv capacity s m d) (hlive : d p = false)
    (hphase : m p = .holding) {context : ResponseAuditContext} {response : UpstreamResponse}
    (hexec : Shared.Exec p s ⟨.spawn context response, ()⟩ s') :
    AdmissionInv capacity s' (Function.update m p .handedOver) d := by
  obtain ⟨hhandler, rfl⟩ := hexec
  generalize p.request = i at hhandler
  subst hhandler
  have howned : s.permits (.handler i) = true := (h.permits _).mpr ⟨hlive, .inl hphase⟩
  -- the task of this handler has not been spawned before
  have hnone : s.spawned i = none := by
    rw [← Option.not_isSome_iff_eq_none, h.spawned i, hphase]
    decide
  have htask : m (.task i) = .waiting := by
    by_contra hstarted
    have hspawned := (h.tasks i).2 hstarted
    rw [hnone] at hspawned
    cases hspawned
  have hunowned : s.permits (.task i) = false := by
    apply h.unowned
    · rw [htask]
      decide
    · exact fun _ => hnone
  have hothers : ∀ j, j ≠ i →
      Function.update s.spawned i (some (context, response)) j = s.spawned j :=
    fun j hji => Function.update_of_ne hji _ _
  refine ⟨?_, ?_, ?_, ?_, ?_, ?_⟩
  · rintro (j | j)
    · by_cases hji : j = i
      · subst hji
        simp
      · simpa [hji, hothers j hji, Party.request] using h.permits (.handler j)
    · by_cases hji : j = i
      · subst hji
        simp [howned, htask, h.waiting _ htask, Party.request]
      · simpa [hji, hothers j hji, Party.request] using h.permits (.task j)
  · intro j
    by_cases hji : j = i
    · simp [hji]
    · simpa [hji] using h.handlers j
  · intro j
    by_cases hji : j = i
    · subst hji
      simp [htask]
    · simpa [hji, hothers j hji, Party.request] using h.tasks j
  · intro j
    by_cases hji : j = i
    · subst hji
      simp
    · simpa [hji, hothers j hji, Party.request] using h.spawned j
  · intro q hq
    by_cases hqi : q = .handler i
    · subst hqi
      exact hlive
    · rw [Function.update_of_ne hqi] at hq
      exact h.waiting q hq
  · simp only [howned]
    exact h.conserved.move howned hunowned

/-! ### Every call, every drop -/

/-- Any other call leaves the permits and the tasks as they are. -/
lemma Shared.Exec.keepsPermits {op : Call} {r : op.Answer} (h : Shared.Exec p s ⟨op, r⟩ s')
    (hkeeps : ¬ op.MovesPermit) :
    s'.permits = s.permits ∧ s'.available = s.available ∧ s'.spawned = s.spawned := by
  cases op with
  | storeAuditFailed => obtain rfl := h; exact ⟨rfl, rfl, rfl⟩
  | readGate => obtain ⟨-, rfl⟩ := h; exact ⟨rfl, rfl, rfl⟩
  | releaseReadGate => obtain rfl := h; exact ⟨rfl, rfl, rfl⟩
  | writeGate => obtain ⟨-, -, rfl⟩ := h; exact ⟨rfl, rfl, rfl⟩
  | releaseWriteGate => obtain rfl := h; exact ⟨rfl, rfl, rfl⟩
  | tryAcquireOwned => exact (hkeeps trivial).elim
  | releasePermit => exact (hkeeps trivial).elim
  | spawn context response => exact (hkeeps trivial).elim
  | _ => obtain rfl := h.unchanged id; exact ⟨rfl, rfl, rfl⟩

/-- **Every call** keeps the invariant. -/
lemma AdmissionInv.call (h : AdmissionInv capacity s m d) (hlive : d p = false)
    {late : Call → Prop} {op : Call} {r : op.Answer} (hready : (m p).Ready late op)
    (hexec : Shared.Exec p s ⟨op, r⟩ s') :
    AdmissionInv capacity s' (Function.update m p ((m p).observe ⟨op, r⟩)) d := by
  by_cases hmoves : op.MovesPermit
  · cases op with
    | tryAcquireOwned => exact h.tryAcquireOwned hlive hready hexec
    | releasePermit =>
        rw [show m p = .holding from hready]
        exact h.releasePermit hlive hready hexec
    | spawn context response =>
        rw [show m p = .holding from hready]
        exact h.spawn hlive hready hexec
    | started =>
        rw [show m p = .waiting from hready]
        exact h.started hlive hready hexec
    | _ => exact hmoves.elim
  · obtain ⟨hpermits, havailable, hspawned⟩ := hexec.keepsPermits hmoves
    rw [PermitPhase.observe_keeps hmoves, Function.update_eq_self]
    refine ⟨?_, h.handlers, ?_, ?_, h.waiting, ?_⟩
    · rw [hpermits, hspawned]
      exact h.permits
    · rw [hspawned]
      exact h.tasks
    · rw [hspawned]
      exact h.spawned
    · rw [havailable, hpermits]
      exact h.conserved

/-- **Every drop** keeps the invariant: the permit of the dropped party is given back. -/
lemma AdmissionInv.drop (h : AdmissionInv capacity s m d) (hstarted : m p ≠ .waiting) :
    AdmissionInv capacity (Shared.release p s) m (Function.update d p true) := by
  refine ⟨?_, h.handlers, h.tasks, h.spawned, ?_, ?_⟩
  · intro q
    by_cases hqp : q = p
    · subst hqp
      simp [Shared.release]
    · simp only [Shared.release, Function.update_of_ne hqp]
      exact h.permits q
  · intro q hq
    have hqp : q ≠ p := by
      rintro rfl
      exact hstarted hq
    rw [Function.update_of_ne hqp]
    exact h.waiting q hq
  · cases howned : s.permits p with
    | true => simpa [Shared.release, howned] using h.conserved.give howned
    | false =>
        have hsame : Function.update s.permits p false = s.permits := by
          rw [← howned, Function.update_eq_self]
        simpa [Shared.release, howned, hsame] using h.conserved

end Invariant

/-! ## Runs of the gateway -/

section Runs

variable {ι : Type} [DecidableEq ι] (X : Crates) (config : GatewayConfig)
  (requests : ι → HttpRequest) (c : GatewayState ι)

/-- The request was given a permit. -/
def Admitted (i : ι) : Prop := ⟨.tryAcquireOwned, true⟩ ∈ c.history (.handler i)

/-- The request was refused a permit. -/
def RefusedPermit (i : ι) : Prop := ⟨.tryAcquireOwned, false⟩ ∈ c.history (.handler i)

/-- The request is past admission and unfinished: its response task has not ended or, when there is
none, its handler was not dropped and `handle_request` has not returned. -/
def Unfinished (i : ι) : Prop :=
  Admitted c i ∧
    if (c.shared.spawned i).isSome then c.dropped (.task i) = false ∧ c.rest (.task i) ≠ .ret ()
    else c.dropped (.handler i) = false ∧
      ¬ Handled X config (requests i) (c.history (.handler i))

/-- What is known of a refused request: nothing is sent for it, no task is spawned, and it attempts
one audit, unless it has no identity. -/
structure RefusedLaw (i : ι) : Prop where
  unsent : ∀ upstreamRequest, ⟨.startSend upstreamRequest, ()⟩ ∉ c.history (.handler i) ∧
    (c.rest (.handler i)).next ≠ some (.startSend upstreamRequest)
  unspawned : c.shared.spawned i = none
  once : auditAttempts c (.handler i) = [] ∨
    ∃ event, DeniesTooManyRequests X config (requests i) event ∧
      auditAttempts c (.handler i) = [event]
  ended : Gone c (.handler i) →
    (auditAttempts c (.handler i) = [] ↔ Unidentified (c.history (.handler i)))

variable {X config requests c} {turns : List (Turn (Party ι) Call.Answer)}

omit [DecidableEq ι] in
/-- Every party moves its permit in the right phase. -/
lemma safe_gatewayPrograms_permit (p : Party ι) :
    (permitMonitor Call.Reports).Safe (gatewayPrograms X config requests p) (fun _ _ => True)
      p.permitPhase := by
  cases p with
  | handler i => exact safe_proxy_permit X config (requests i)
  | task i => exact (safe_task_permit X).mono fun _ _ _ => trivial

/-- The phase that a party has come to. -/
def phaseOf (c : GatewayState ι) (p : Party ι) : PermitPhase :=
  (permitMonitor Call.Reports).after p.permitPhase (c.history p)

/-- The invariant holds in every reachable configuration. -/
lemma admissionInv_of_reach (hreach : GatewayReach X config requests turns c) :
    AdmissionInv config.maxConcurrentRequests.get c.shared (phaseOf c) c.dropped :=
  Reach.invariant safe_gatewayPrograms_permit (.start config)
    (fun _ _ _ _ _ _ _ hinv hlive hready hexec => hinv.call hlive hready hexec)
    (fun _ _ _ _ _ hinv _ hready hcancellable =>
      hinv.drop (started_of_cancellable hready hcancellable)) hreach

/-- An admitted request owns its permit or has parted with it. -/
lemma admitted_iff (hreach : GatewayReach X config requests turns c) (i : ι) :
    Admitted c i ↔ phaseOf c (.handler i) = .holding ∨ (phaseOf c (.handler i)).Parted := by
  constructor
  · intro hadmitted
    obtain ⟨post, hpost⟩ := after_asked (Reach.runs hreach (.handler i)) hadmitted
    rw [show phaseOf c (.handler i) = _ from hpost]
    exact after_holding post
  · intro hphase
    by_contra hnot
    rcases after_entry (c.history (.handler i)) hnot with hentry | hrefused
    · rw [show phaseOf c (.handler i) = .entry from hentry] at hphase
      rcases hphase with hphase | hphase
      · cases hphase
      · exact hphase
    · rw [show phaseOf c (.handler i) = .refused from hrefused] at hphase
      rcases hphase with hphase | hphase
      · cases hphase
      · exact hphase

/-- A refused request stays refused. -/
lemma phaseOf_refused (hreach : GatewayReach X config requests turns c) {i : ι}
    (hrefused : RefusedPermit c i) : phaseOf c (.handler i) = .refused := by
  obtain ⟨post, hpost⟩ := after_asked (Reach.runs hreach (.handler i)) hrefused
  exact hpost.trans (after_refused post)

/-- `handle_request` of an admitted request has returned when its permit is gone. -/
lemma handled_iff (hreach : GatewayReach X config requests turns c) (i : ι) :
    Handled X config (requests i) (c.history (.handler i)) ↔
      (phaseOf c (.handler i)).Parted :=
  ⟨Handled.parted, handled_of_parted (Reach.runs hreach (.handler i))⟩

/-- A response task has returned when it has dropped its permit. -/
lemma task_returned_iff (hreach : GatewayReach X config requests turns c) (i : ι) :
    c.rest (.task i) = .ret () ↔ (phaseOf c (.task i)).Parted := by
  have hsafe : (permitMonitor fun _ => False).Safe (c.rest (.task i))
      (fun _ phase => phase = .released) (phaseOf c (.task i)) :=
    (safe_task_permit X).runs (Reach.runs hreach (.task i))
  constructor
  · intro hreturned
    rw [hreturned, Monitor.safe_ret] at hsafe
    rw [hsafe]
    trivial
  · intro hparted
    cases hrest : c.rest (.task i) with
    | ret _ => rfl
    | call op k =>
        rw [hrest] at hsafe
        exact (hparted.not_ready hsafe.1).elim

/-! ### Owners -/

/-- The handler of an unfinished request without a task owns a permit, and no other handler does. -/
lemma handler_owns_iff (hreach : GatewayReach X config requests turns c) (i : ι) :
    c.shared.permits (.handler i) = true ↔ Admitted c i ∧ c.shared.spawned i = none ∧
      c.dropped (.handler i) = false ∧
        ¬ Handled X config (requests i) (c.history (.handler i)) := by
  have hinv := admissionInv_of_reach hreach
  rw [hinv.permits, admitted_iff hreach, handled_iff hreach]
  constructor
  · rintro ⟨hlive, hphase | ⟨hphase, -⟩⟩
    · refine ⟨.inl hphase, ?_, hlive, ?_⟩
      · rw [← Option.not_isSome_iff_eq_none, hinv.spawned, hphase]
        decide
      · rw [hphase]
        exact id
    · exact (hinv.handlers i hphase).elim
  · rintro ⟨hphase, -, hlive, hunhandled⟩
    exact ⟨hlive, .inl (hphase.resolve_right hunhandled)⟩

/-- A response task that was spawned owns a permit until it ends. -/
lemma task_owns_iff (hreach : GatewayReach X config requests turns c) (i : ι) :
    c.shared.permits (.task i) = true ↔ (c.shared.spawned i).isSome ∧
      c.dropped (.task i) = false ∧ c.rest (.task i) ≠ .ret () := by
  have hinv := admissionInv_of_reach hreach
  rw [hinv.permits, ne_eq, task_returned_iff hreach]
  constructor
  · rintro ⟨hlive, hphase | ⟨hphase, hspawned⟩⟩
    · refine ⟨(hinv.tasks i).2 ?_, hlive, ?_⟩
      · rw [hphase]
        decide
      · rw [hphase]
        exact id
    · refine ⟨hspawned, hlive, ?_⟩
      rw [hphase]
      exact id
  · rintro ⟨hspawned, hlive, hunparted⟩
    refine ⟨hlive, ?_⟩
    rcases after_waiting (c.history (.task i)) with hphase | hphase | hparted
    · exact .inr ⟨hphase, hspawned⟩
    · exact .inl hphase
    · exact (hunparted hparted).elim

/-- The unfinished requests are those that own a permit. -/
lemma unfinished_iff (hreach : GatewayReach X config requests turns c) (i : ι) :
    Unfinished X config requests c i ↔
      c.shared.permits (.handler i) = true ∨ c.shared.permits (.task i) = true := by
  have hinv := admissionInv_of_reach hreach
  rw [handler_owns_iff hreach, task_owns_iff hreach, Unfinished]
  cases hspawned : c.shared.spawned i with
  | none => simp
  | some task =>
      have hadmitted : Admitted c i := by
        rw [admitted_iff hreach, (hinv.spawned i).mp (by rw [hspawned]; rfl)]
        exact .inr trivial
      simp [hadmitted]

/-- A request owns one permit only. -/
lemma owns_once (hreach : GatewayReach X config requests turns c) (i : ι) :
    ¬ (c.shared.permits (.handler i) = true ∧ c.shared.permits (.task i) = true) := by
  rw [handler_owns_iff hreach, task_owns_iff hreach]
  rintro ⟨⟨-, hnone, -⟩, hspawned, -⟩
  rw [hnone] at hspawned
  cases hspawned

/-- The unfinished requests and the free permits add up. -/
lemma exists_unfinished (hreach : GatewayReach X config requests turns c) :
    ∃ unfinished : Finset ι, (∀ i, i ∈ unfinished ↔ Unfinished X config requests c i) ∧
      unfinished.card + c.shared.available = config.maxConcurrentRequests.get := by
  obtain ⟨owners, howners, hcard⟩ := (admissionInv_of_reach hreach).conserved
  have hinjective : Set.InjOn Party.request (owners : Set (Party ι)) := by
    rintro (i | i) hi (j | j) hj (rfl : i = j)
    · rfl
    · exact (owns_once hreach i ⟨(howners _).mp hi, (howners _).mp hj⟩).elim
    · exact (owns_once hreach i ⟨(howners _).mp hj, (howners _).mp hi⟩).elim
    · rfl
  refine ⟨owners.image Party.request, ?_, ?_⟩
  · intro i
    rw [unfinished_iff hreach, ← howners, ← howners, Finset.mem_image]
    constructor
    · rintro ⟨j | j, hj, rfl⟩
      · exact .inl hj
      · exact .inr hj
    · rintro (hi | hi)
      · exact ⟨_, hi, rfl⟩
      · exact ⟨_, hi, rfl⟩
  · rw [Finset.card_image_of_injOn hinjective]
    exact hcard

/-- A party of an admitted request owns a permit for everything that it does but reports. -/
lemma owns_of_call (hreach : GatewayReach X config requests turns c) {p : Party ι}
    (hadmitted : Admitted c p.request) (hlive : c.dropped p = false) {op : Call}
    {k : op.Answer → Async p.Result} (hrest : c.rest p = .call op k) (hreports : ¬ op.Reports)
    (hstarted : op ≠ .started) : c.shared.permits p = true := by
  have hruns := Reach.runs hreach p
  rw [hrest] at hruns
  have hready : (phaseOf c p).Ready Call.Reports op :=
    (safe_gatewayPrograms_permit p).ready hruns
  have hinv := admissionInv_of_reach hreach
  refine (hinv.permits p).mpr
    ⟨hlive, .inl (PermitPhase.holding_of_ready hready ?_ hreports hstarted)⟩
  cases p with
  | handler i => exact .inr ((admitted_iff hreach i).mp hadmitted)
  | task i => exact after_waiting (c.history (.task i))

/-! ### Refused requests -/

/-- The handler of a refused request has done nothing but reject it. -/
lemma runs_of_refused (hreach : GatewayReach X config requests turns c) {i : ι}
    (hrefused : RefusedPermit c i) :
    ∃ mid, c.history (.handler i) = asked false ++ mid ∧
      (rejectTooManyRequests X config (requests i)).Runs mid (c.rest (.handler i)) := by
  rcases runs_proxy (Reach.runs hreach (.handler i)) with hnone | ⟨mid, f, hhistory, -⟩ | hrejects
  · exact (hnone false hrefused).elim
  · have hadmitted : Admitted c i := by
      rw [Admitted, hhistory]
      simp [asked]
    have hphase := (admitted_iff hreach i).mp hadmitted
    rw [phaseOf_refused hreach hrefused] at hphase
    rcases hphase with hphase | hphase
    · cases hphase
    · exact hphase.elim
  · exact hrejects

/-- A refused request is rejected from its first two calls on. -/
lemma safe_refused (request : HttpRequest) :
    (refusedMonitor X config request).Safe (rejectTooManyRequests X config request)
      (fun _ tr => audited tr ≠ [] ∨ Unidentified tr) (asked false) :=
  safe_rejectTooManyRequests_refused rfl (by simp [asked])

/-- What a refused request has done and what it is about to do. -/
lemma refusedLaw (hreach : GatewayReach X config requests turns c) {i : ι}
    (hrefused : RefusedPermit c i) : RefusedLaw X config requests c i := by
  obtain ⟨mid, hhistory, hruns⟩ := runs_of_refused hreach hrefused
  have hafter : (refusedMonitor X config (requests i)).after (asked false) mid =
      c.history (.handler i) := by
    rw [Monitor.after_recorder, hhistory]
  have hinv : RefusedInv X config (requests i) (c.history (.handler i)) := by
    rw [← hafter]
    refine (safe_refused (requests i)).invariant ⟨.inl rfl, fun _ => rfl, by simp [asked]⟩ ?_ hruns
    exact fun tr op r h hready => h.step r hready
  have hsafe := (safe_refused (requests i)).runs hruns
  rw [hafter] at hsafe
  have hunspawned : c.shared.spawned i = none := by
    rw [← Option.not_isSome_iff_eq_none, (admissionInv_of_reach hreach).spawned,
      phaseOf_refused hreach hrefused]
    decide
  cases hrest : c.rest (.handler i) with
  | ret response =>
      rw [hrest, Monitor.safe_ret] at hsafe
      have hattempts : auditAttempts c (.handler i) = audited (c.history (.handler i)) := by
        rw [auditAttempts, hrest]
        exact List.append_nil _
      refine ⟨fun upstreamRequest => ⟨hinv.unsent upstreamRequest, ?_⟩, hunspawned, ?_, fun _ => ?_⟩
      · rw [hrest]
        rintro ⟨⟩
      · rw [hattempts]
        exact hinv.once
      · rw [hattempts]
        exact ⟨fun hnone => hsafe.resolve_left fun haudited => haudited hnone, hinv.unidentified⟩
  | call op k =>
      rw [hrest] at hsafe
      have hready : RefusedReady X config (requests i) (c.history (.handler i)) op := hsafe.1
      have hattempts : auditAttempts c (.handler i) =
          audited (c.history (.handler i)) ++ op.audited.toList := by
        rw [auditAttempts, hrest]
        rfl
      refine ⟨fun upstreamRequest => ⟨hinv.unsent upstreamRequest, ?_⟩, hunspawned, ?_, ?_⟩
      · rw [hrest]
        intro hsends
        cases hsends
        exact hready
      · rw [hattempts]
        exact hinv.attempts hready
      · rw [hattempts]
        rintro (hdropped | ⟨response, hreturned⟩)
        · obtain ⟨op', k', -, hrest', hcancellable⟩ := Reach.dropped_at hreach hdropped
          rw [hrest] at hrest'
          cases hrest'
          exact hinv.attempted_of_cancellable hready hcancellable
        · rw [hrest] at hreturned
          cases hreturned

end Runs

/-- **Admission.** In every interleaving: the unfinished requests and the free permits add up to
`max_concurrent_requests`; the unfinished requests are those that own a permit, with their handler
or with their response task, and they own it for everything that they do. A refused request is not
sent, and it attempts one audit, unless it has no identity. -/
theorem admission {ι : Type} [DecidableEq ι] (X : Crates) (config : GatewayConfig)
    (requests : ι → HttpRequest) (turns : List (Turn (Party ι) Call.Answer)) (c : GatewayState ι)
    (hreach : GatewayReach X config requests turns c) :
    (∃ unfinished : Finset ι, (∀ i, i ∈ unfinished ↔ Unfinished X config requests c i) ∧
        unfinished.card + c.shared.available = config.maxConcurrentRequests.get) ∧
      (∀ i, Unfinished X config requests c i ↔
        c.shared.permits (.handler i) = true ∨ c.shared.permits (.task i) = true) ∧
      (∀ i, ¬ (c.shared.permits (.handler i) = true ∧ c.shared.permits (.task i) = true)) ∧
      (∀ p op k, Admitted c p.request → c.dropped p = false → c.rest p = .call op k →
        ¬ op.Reports → op ≠ .started → c.shared.permits p = true) ∧
      ∀ i, RefusedPermit c i → RefusedLaw X config requests c i :=
  ⟨exists_unfinished hreach, unfinished_iff hreach, owns_once hreach,
    fun _ _ _ hadmitted hlive hrest hreports hstarted =>
      owns_of_call hreach hadmitted hlive hrest hreports hstarted,
    fun _ hrefused => refusedLaw hreach hrefused⟩

/-! ## A refused request -/

/-- The calls of a handler that is refused a permit, with the append of the denial. -/
def refused (requestId : RequestId) (timestamp : AuditTimestamp) (event : AuditEvent) :
    List (Event Call.Answer) :=
  [⟨.loadAuditFailed, false⟩, ⟨.tryAcquireOwned, false⟩, ⟨.nextRequestId, .ok requestId⟩,
    ⟨.now, timestamp⟩, ⟨.appendEvent event, .ok ()⟩]

/-- A refused request is denied and answered. -/
lemma runs_refused {X : Crates} {config : GatewayConfig} {request : HttpRequest}
    {target : PreparsedAuditTarget} {requestId : RequestId} {timestamp : AuditTimestamp}
    {event : AuditEvent}
    (htarget : PreparsedAuditTarget.fromRequestUri request.uri = some target)
    (hevent : AuditEvent.forDenial X (.tooManyRequests request.method target) requestId none
      config.upstreamOrigin timestamp = some event) :
    (proxy X config request).Runs (refused requestId timestamp event)
      (.ret (statusResponse AuditDenialReason.tooManyRequests.status)) := by
  have hdenial : (Gateway.auditDenial X config requestId (.tooManyRequests request.method target)
      none).Runs ((refused requestId timestamp event).drop 3) (.ret (.ok ())) := by
    refine .step ?_
    show Program.Runs (expect (AuditEvent.forDenial X _ requestId none config.upstreamOrigin
      timestamp) >>= Gateway.appendRequiredAuditEvent) _ _
    rw [hevent]
    exact .step (.refl _)
  refine .step (.step (.step ?_))
  show Program.Runs (expect (PreparsedAuditTarget.fromRequestUri request.uri) >>= _) _ _
  rw [htarget]
  exact hdenial.bind_left _

/-- One request at a time is a limit that may be configured. -/
lemma one_le_maxConcurrentRequests : 1 ≤ maxConcurrentRequests := by decide

/-- A gateway that takes one request at a time. -/
def oneRequest : GatewayConfig :=
  { Reference.config with
    maxConcurrentRequests := ⟨1, Nat.one_pos, one_le_maxConcurrentRequests⟩ }

/-- While one request has the only permit, another one is refused and denied. -/
lemma reach_refused :
    ∃ event turns c, GatewayReach Reference.crates oneRequest (fun _ : Bool => modelsRequest)
        turns c ∧
      c.history (.handler false) = refused Reference.requestId Reference.timestamp event ∧
      c.rest (.handler false) =
        .ret (statusResponse AuditDenialReason.tooManyRequests.status) ∧
      c.shared.permits = Function.update (fun _ => false) (.handler true) true := by
  obtain ⟨target, htarget⟩ := Option.ne_none_iff_exists'.mp
    (PreparsedAuditTarget.fromRequestUri_ne_none modelsRequest.uri)
  obtain ⟨event, hevent⟩ := Option.ne_none_iff_exists'.mp
    (AuditEvent.forDenial_ne_none Reference.crates (.tooManyRequests modelsRequest.method target)
      Reference.requestId none oneRequest.upstreamOrigin Reference.timestamp)
  have hstart : GatewayReach Reference.crates oneRequest (fun _ : Bool => modelsRequest) []
      (.start _ _) := .start
  have hadmitted : ∃ q, (proxy Reference.crates oneRequest modelsRequest).Runs
      [⟨.loadAuditFailed, false⟩, ⟨.tryAcquireOwned, true⟩] q := ⟨_, .step (.step (.refl _))⟩
  obtain ⟨_, hadmitted⟩ := hadmitted
  -- the first request takes the permit
  obtain ⟨c, hreach, hshared, -, hhistory, hdropped⟩ :=
    Reach.call_run (i := Party.handler true) hstart rfl hadmitted
      (.cons ⟨rfl, rfl⟩ (.cons ⟨oneRequest.maxConcurrentRequests.nonZero, rfl⟩ (.nil _)))
  -- the second one is refused
  have hrefused := runs_refused htarget hevent
  have hfresh : c.rest (.handler false) =
      proxy Reference.crates oneRequest modelsRequest := by
    apply Reach.rest_of_runs hreach
    rw [hhistory, Function.update_of_ne (by decide)]
    exact .refl _
  rw [← hfresh] at hrefused
  have hexecs : Arena.Execs gatewayArena (Party.handler false) c.shared
      (refused Reference.requestId Reference.timestamp event) c.shared := by
    rw [hshared]
    exact .cons ⟨rfl, rfl⟩ (.cons ⟨rfl, rfl⟩ (.cons rfl (.cons rfl (.cons rfl (.nil _)))))
  obtain ⟨c₂, hreach₂, hshared₂, hrest₂, hhistory₂, -⟩ :=
    Reach.call_run hreach (by rw [hdropped]; rfl) hrefused hexecs
  refine ⟨event, _, c₂, hreach₂, ?_, hrest₂, ?_⟩
  · rw [hhistory₂, Function.update_self, hhistory, Function.update_of_ne (by decide)]
    rfl
  · rw [hshared₂, hshared]
    rfl

/-- A request that is refused while another one has the only permit is audited once and not sent,
and the other one is unfinished alone. -/
theorem admission_tooManyRequests :
    ∃ turns c event, GatewayReach Reference.crates oneRequest (fun _ : Bool => modelsRequest)
        turns c ∧
      RefusedLaw Reference.crates oneRequest (fun _ : Bool => modelsRequest) c false ∧
      auditAttempts c (.handler false) = [event] ∧ Gone c (.handler false) ∧
      Unfinished Reference.crates oneRequest (fun _ : Bool => modelsRequest) c true ∧
      ¬ Unfinished Reference.crates oneRequest (fun _ : Bool => modelsRequest) c false ∧
      ∃ unfinished : Finset Bool, true ∈ unfinished ∧
        unfinished.card + c.shared.available = 1 := by
  obtain ⟨event, turns, c, hreach, hhistory, hrest, hpermits⟩ := reach_refused
  obtain ⟨⟨unfinished, hmem, hcard⟩, howners, -, -, hrefusals⟩ :=
    admission Reference.crates oneRequest _ turns c hreach
  have hrefused : RefusedPermit c false := by
    rw [RefusedPermit, hhistory]
    exact List.mem_cons_of_mem _ List.mem_cons_self
  have hunfinished := (howners true).mpr (.inl (by rw [hpermits, Function.update_self]))
  refine ⟨turns, c, event, hreach, hrefusals false hrefused, ?_, .inr ⟨_, hrest⟩, hunfinished, ?_,
    unfinished, (hmem true).mpr hunfinished, hcard⟩
  · rw [auditAttempts, hhistory, hrest]
    rfl
  · rw [howners false, hpermits]
    decide

end Custode
