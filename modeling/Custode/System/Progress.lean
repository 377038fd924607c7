import Custode.Http.Guards
import Custode.System.Admission
import Custode.System.Answered

/-!
# The gateway goes on

Handlers and response tasks wait for three locks: the read guard and the write guard of the
forwarding gate, and the mutex of the audit writer. A party holds at most one of them, takes it when
it holds none, and waits for no other while it holds it (`Holding`, `LocksInv`). So nothing is held
for ever:

* `no_deadlock` — in every configuration that the gateway reaches with its adapters, some party can
  go on without a lock, or no lock is held and each party that is left can take the one that it
  waits for. When none is left, every permit is back.
-/

namespace Custode

open Found Program

/-! ## What a party holds below the ports -/

namespace Holding

/-- What it holds after one more call of the writer. -/
def observeWriter : Holding → Event WriterCall.Answer → Holding
  | _, ⟨.lock _, _⟩ => mutex
  | held, ⟨.returns _ (.error (.eventTooLarge _ _)), _⟩ => held
  | _, ⟨.returns _ _, _⟩ => nothing
  | held, _ => held

/-- What it holds when it calls the writer. -/
def ReadyWriter (held : Holding) : WriterCall → Prop
  | .lock _ => held = nothing
  | .returns _ (.error (.eventTooLarge _ _)) => held = nothing
  | _ => held = mutex

end Holding

/-- Follows what a task at the writer holds. -/
def mutexMonitor : Monitor WriterCall.Answer Holding := ⟨Holding.observeWriter, Holding.ReadyWriter⟩

/-- Follows what a party holds below the ports. -/
def lockMonitor : Monitor LowCall.Answer Holding where
  observe
    | held, ⟨.port op, r⟩ => held.observe ⟨op, r⟩
    | held, ⟨.writer op, r⟩ => held.observeWriter ⟨op, r⟩
  Ready
    | held, .port op => held.Ready op
    | held, .writer op => held.ReadyWriter op

/-- An append takes the mutex and gives it back. -/
lemma safe_writeEvent_mutex (maxEventBytes : Nat) (event : AuditEvent) :
    mutexMonitor.Safe (writeEvent maxEventBytes event) (fun _ held => held = .nothing)
      .nothing := by
  unfold writeEvent
  cases hsize : serializeEvent event maxEventBytes with
  | error error =>
      obtain ⟨rfl, -⟩ := serializeEvent_eq_error hsize
      exact ⟨rfl, fun _ => rfl⟩
  | ok line =>
      have hfails : mutexMonitor.Safe (do
            perform WriterCall.storePoisoned
            perform (WriterCall.returns event (.error .write))
            return (.error .write : Except AuditError Unit))
          (fun _ held => held = .nothing) .mutex :=
        ⟨rfl, fun _ => ⟨rfl, fun _ => rfl⟩⟩
      refine ⟨rfl, fun _ => ⟨rfl, ?_⟩⟩
      rintro (_ | _)
      · refine ⟨rfl, ?_⟩
        rintro (_ | _)
        · exact hfails
        · refine ⟨rfl, ?_⟩
          rintro (_ | _)
          · exact hfails
          · refine ⟨rfl, ?_⟩
            rintro (_ | _)
            · exact hfails
            · exact ⟨rfl, fun _ => rfl⟩
      · exact ⟨rfl, fun _ => rfl⟩

/-- Each call leaves a party with what its program leaves it with. -/
lemma safe_adapter_lock (maxEventBytes : AuditEventBytes) (held : Holding) (op : Call)
    (h : guardMonitor.Ready held op) :
    lockMonitor.Safe (adapter maxEventBytes op)
      (fun r held' => held' = guardMonitor.observe held ⟨op, r⟩) held := by
  rcases op.appends_or with ⟨event, rfl⟩ | hop
  · obtain rfl : held = .nothing := h
    have hcalls : ∀ held op, mutexMonitor.Ready held op →
        lockMonitor.Safe (perform (LowCall.writer op))
          (fun r held' => held' = mutexMonitor.observe held ⟨op, r⟩) held :=
      fun _ _ hready => ⟨hready, fun _ => rfl⟩
    exact Monitor.Safe.implement hcalls (safe_writeEvent_mutex maxEventBytes.get event)
  · rw [adapter_port hop]
    exact ⟨h, fun _ => rfl⟩

section Deployment

variable {ι : Type} {X : Crates} {time : Humantime} {life : Life ι}

/-- Handlers and response tasks hold a guard only where they may. -/
lemma guarded_gatewayPrograms (config : GatewayConfig) (requests : ι → HttpRequest) (p : Party ι) :
    Guarded (gatewayPrograms X config requests p) := by
  cases p with
  | handler i => exact guarded_proxy (requests i)
  | task i => exact ⟨rfl, fun task => guarded_responseTask task.1 task.2⟩

/-- Every party of the deployment gives its locks back. -/
lemma safe_deployment_lock (p : Party ι) :
    lockMonitor.Safe ((gatewayPrograms X life.config life.requests p).implement
      (adapter life.maxEventBytes)) (fun _ held => held = .nothing) .nothing :=
  Monitor.Safe.implement (safe_adapter_lock life.maxEventBytes)
    (guarded_gatewayPrograms life.config life.requests p)

end Deployment

/-! ## Who holds a lock -/

section Invariant

variable {ι : Type}

/-- What the parties hold (`m`) and what they share agree; `d` are the dropped parties. -/
structure LocksInv (s : Site ι) (m : Party ι → Holding) (d : Party ι → Bool) : Prop where
  readers : ∀ p, s.gateway.readers p = true ↔ d p = false ∧ m p = .reading
  writer : ∀ p, s.gateway.writer = some p ↔ d p = false ∧ m p = .writing
  owner : ∀ p, s.disk.owner = some p ↔ d p = false ∧ m p = .mutex
  holder : s.disk.owner = none ↔ s.disk.log.holder = none

variable {s s' : Site ι} {m : Party ι → Holding} {d : Party ι → Bool} {p : Party ι}

/-- The invariant at the start. -/
lemma LocksInv.start (config : GatewayConfig) (initial : List UInt8) (synced : Nat) :
    LocksInv (.start config initial synced : Site ι) (fun _ => .nothing) fun _ => false := by
  refine ⟨?_, ?_, ?_, iff_of_true rfl rfl⟩
  · intro p
    simp [Site.start, Shared.start]
  · intro p
    simp [Site.start, Shared.start]
  · intro p
    simp [Site.start, AuditDisk.opened]

/-- A call that takes no lock and gives none back. -/
lemma LocksInv.keep (h : LocksInv s m d) (hreaders : s'.gateway.readers = s.gateway.readers)
    (hwriter : s'.gateway.writer = s.gateway.writer) (howner : s'.disk.owner = s.disk.owner)
    (hholder : s'.disk.log.holder = s.disk.log.holder) : LocksInv s' m d := by
  refine ⟨?_, ?_, ?_, ?_⟩
  · rw [hreaders]
    exact h.readers
  · rw [hwriter]
    exact h.writer
  · rw [howner]
    exact h.owner
  · rw [howner, hholder]
    exact h.holder

/-- A party that holds nothing has no lock. -/
lemma LocksInv.nothing (h : LocksInv s m d) (hp : m p = .nothing) :
    s.gateway.readers p = false ∧ s.gateway.writer ≠ some p ∧ s.disk.owner ≠ some p := by
  rw [← Bool.not_eq_true, h.readers p, ne_eq, h.writer p, ne_eq, h.owner p, hp]
  simp

variable [DecidableEq ι]

/-- One party takes a lock or gives it back. -/
lemma LocksInv.move (h : LocksInv s m d) (hlive : d p = false) {held : Holding}
    (hreaders : ∀ q, q ≠ p → s'.gateway.readers q = s.gateway.readers q)
    (hreads : s'.gateway.readers p = true ↔ held = .reading)
    (hwriters : ∀ q, q ≠ p → (s'.gateway.writer = some q ↔ s.gateway.writer = some q))
    (hwrites : s'.gateway.writer = some p ↔ held = .writing)
    (howners : ∀ q, q ≠ p → (s'.disk.owner = some q ↔ s.disk.owner = some q))
    (howns : s'.disk.owner = some p ↔ held = .mutex)
    (hholder : s'.disk.owner = none ↔ s'.disk.log.holder = none) :
    LocksInv s' (Function.update m p held) d := by
  refine ⟨?_, ?_, ?_, hholder⟩
  · intro q
    by_cases hqp : q = p
    · subst hqp
      simpa [hlive] using hreads
    · rw [hreaders q hqp, Function.update_of_ne hqp]
      exact h.readers q
  · intro q
    by_cases hqp : q = p
    · subst hqp
      simpa [hlive] using hwrites
    · rw [hwriters q hqp, Function.update_of_ne hqp]
      exact h.writer q
  · intro q
    by_cases hqp : q = p
    · subst hqp
      simpa [hlive] using howns
    · rw [howners q hqp, Function.update_of_ne hqp]
      exact h.owner q

/-- One party takes a guard of the gate or gives it back. -/
lemma LocksInv.moveGuard (h : LocksInv s m d) (hlive : d p = false) {held : Holding}
    (hdisk : s'.disk = s.disk) (hbefore : m p ≠ .mutex) (hafter : held ≠ .mutex)
    (hreaders : ∀ q, q ≠ p → s'.gateway.readers q = s.gateway.readers q)
    (hreads : s'.gateway.readers p = true ↔ held = .reading)
    (hwriters : ∀ q, q ≠ p → (s'.gateway.writer = some q ↔ s.gateway.writer = some q))
    (hwrites : s'.gateway.writer = some p ↔ held = .writing) :
    LocksInv s' (Function.update m p held) d := by
  apply h.move hlive hreaders hreads hwriters hwrites
  · intro q _
    rw [hdisk]
  · rw [hdisk, h.owner p]
    exact iff_of_false (fun howner => hbefore howner.2) hafter
  · rw [hdisk]
    exact h.holder

/-- A call of the gateway keeps the invariant. -/
lemma LocksInv.port (h : LocksInv s m d) (hlive : d p = false) {op : Call} {r : op.Answer}
    (hready : (m p).Ready op) (hexec : Shared.Exec p s.gateway ⟨op, r⟩ s'.gateway)
    (hdisk : s'.disk = s.disk) :
    LocksInv s' (Function.update m p ((m p).observe ⟨op, r⟩)) d := by
  by_cases hmoves : Shared.MovesGuard op
  · have hbefore : m p ≠ .mutex := by
      intro hmutex
      rw [hmutex] at hready
      cases op <;> first | exact hmoves.elim | cases hready
    have hafter : (m p).observe ⟨op, r⟩ ≠ .mutex := by
      cases op <;> first | exact hmoves.elim | nofun
    cases op with
    | readGate =>
        obtain ⟨hfree, hgateway⟩ := hexec
        apply h.moveGuard hlive hdisk hbefore hafter
        · intro q hqp
          rw [hgateway]
          exact Function.update_of_ne hqp _ _
        · rw [hgateway]
          exact iff_of_true (Function.update_self _ _ _) rfl
        · intro q _
          rw [hgateway]
        · rw [hgateway]
          exact iff_of_false (by simp [hfree]) nofun
    | releaseReadGate =>
        have hgateway : s'.gateway = { s.gateway with
            readers := Function.update s.gateway.readers p false } := hexec
        have hreading : m p = .reading := hready
        apply h.moveGuard hlive hdisk hbefore hafter
        · intro q hqp
          rw [hgateway]
          exact Function.update_of_ne hqp _ _
        · rw [hgateway]
          exact iff_of_false (by simp) nofun
        · intro q _
          rw [hgateway]
        · rw [hgateway, h.writer p, hreading]
          simp [Holding.observe]
    | writeGate =>
        obtain ⟨hfree, hreaders, hgateway⟩ := hexec
        apply h.moveGuard hlive hdisk hbefore hafter
        · intro q _
          rw [hgateway]
        · rw [hgateway]
          exact iff_of_false (by simp [hreaders]) nofun
        · intro q hqp
          rw [hgateway, hfree]
          exact iff_of_false (by simpa using Ne.symm hqp) nofun
        · rw [hgateway]
          exact iff_of_true rfl rfl
    | releaseWriteGate =>
        have hgateway : s'.gateway = { s.gateway with writer := none } := hexec
        have hwriting : m p = .writing := hready
        have hwriter : s.gateway.writer = some p := (h.writer p).mpr ⟨hlive, hwriting⟩
        apply h.moveGuard hlive hdisk hbefore hafter
        · intro q _
          rw [hgateway]
        · rw [hgateway, h.readers p, hwriting]
          simp [Holding.observe]
        · intro q hqp
          rw [hgateway, hwriter]
          exact iff_of_false (Option.some_ne_none q).symm (by simpa using Ne.symm hqp)
        · rw [hgateway]
          exact iff_of_false nofun nofun
    | _ => exact hmoves.elim
  · have hsame : (m p).observe ⟨op, r⟩ = m p := by
      cases op <;> first | exact (hmoves trivial).elim | rfl
    rw [hsame, Function.update_eq_self]
    obtain ⟨hreaders, hwriter⟩ := hexec.effect.guards.resolve_right hmoves
    exact h.keep hreaders hwriter (by rw [hdisk]) (by rw [hdisk])

/-- A call of the writer keeps the invariant. -/
lemma LocksInv.write (h : LocksInv s m d) (hlive : d p = false) {op : WriterCall} {r : op.Answer}
    (hready : (m p).ReadyWriter op) (hexec : AuditDisk.Exec p s.disk ⟨op, r⟩ s'.disk)
    (hgateway : s'.gateway = s.gateway) :
    LocksInv s' (Function.update m p ((m p).observeWriter ⟨op, r⟩)) d := by
  obtain ⟨log, hlog, hdisk⟩ := hexec
  have hkeeps : (m p).observeWriter ⟨op, r⟩ = m p →
      AuditDisk.ownerAfter p s.disk.owner op = s.disk.owner → log.holder = s.disk.log.holder →
      LocksInv s' (Function.update m p ((m p).observeWriter ⟨op, r⟩)) d := by
    intro hsame howner hholder
    rw [hsame, Function.update_eq_self]
    exact h.keep (by rw [hgateway]) (by rw [hgateway]) (by rw [hdisk, howner])
      (by rw [hdisk, hholder])
  cases op with
  | lock line =>
      obtain ⟨hfree, rfl⟩ := hlog
      obtain ⟨hreads, hwriter, -⟩ := h.nothing hready
      have howner : s.disk.owner = none := h.holder.mpr hfree
      apply h.move hlive
      · intro q _
        rw [hgateway]
      · rw [hgateway]
        exact iff_of_false (by simp [hreads]) nofun
      · intro q _
        rw [hgateway]
      · rw [hgateway]
        exact iff_of_false hwriter nofun
      · intro q hqp
        rw [hdisk, howner]
        exact iff_of_false (by simpa [AuditDisk.ownerAfter] using Ne.symm hqp) nofun
      · rw [hdisk]
        exact iff_of_true rfl rfl
      · rw [hdisk]
        exact iff_of_false nofun nofun
  | loadPoisoned => exact hkeeps rfl rfl (by rw [hlog.2])
  | writeAll line =>
      rcases r with error | _
      · obtain ⟨passed, -, rfl⟩ := hlog
        exact hkeeps rfl rfl rfl
      · obtain ⟨passed, rest, -, rfl⟩ := hlog
        exact hkeeps rfl rfl rfl
  | flush =>
      rcases r with error | _
      · obtain ⟨passed, -, rfl⟩ := hlog
        exact hkeeps rfl rfl rfl
      · obtain rfl := hlog
        exact hkeeps rfl rfl rfl
  | commit =>
      obtain rfl := hlog
      exact hkeeps rfl rfl rfl
  | storePoisoned =>
      obtain rfl := hlog
      exact hkeeps rfl rfl rfl
  | returns event result =>
      obtain rfl := hlog
      have hreleases : m p = .mutex → (m p).observeWriter ⟨.returns event result, r⟩ = .nothing →
          AuditDisk.ownerAfter p s.disk.owner (.returns event result) = none →
          s'.disk.log.holder = none →
          LocksInv s' (Function.update m p ((m p).observeWriter ⟨.returns event result, r⟩)) d := by
        intro hmutex hnothing hnone hholder
        have howner : s.disk.owner = some p := (h.owner p).mpr ⟨hlive, hmutex⟩
        have howner' : s'.disk.owner = none := by rw [hdisk, hnone]
        rw [hnothing]
        apply h.move hlive
        · intro q _
          rw [hgateway]
        · rw [hgateway, h.readers p, hmutex]
          simp
        · intro q _
          rw [hgateway]
        · rw [hgateway, h.writer p, hmutex]
          simp
        · intro q hqp
          rw [howner', howner]
          exact iff_of_false (Option.some_ne_none q).symm (by simpa using Ne.symm hqp)
        · rw [howner']
          exact iff_of_false nofun nofun
        · exact iff_of_true howner' hholder
      rcases result with error | _
      · cases error with
        | eventTooLarge bytes max => exact hkeeps rfl rfl rfl
        | _ => exact hreleases hready rfl rfl (by rw [hdisk])
      · exact hreleases hready rfl rfl (by rw [hdisk])

/-- A dropped party gives back what it holds. -/
lemma LocksInv.drop (h : LocksInv s m d) (p : Party ι) :
    LocksInv (s.release p) m (Function.update d p true) := by
  refine ⟨?_, ?_, ?_, ?_⟩
  · intro q
    by_cases hqp : q = p
    · subst hqp
      simp [Site.release, Shared.release]
    · simp only [Site.release, Shared.release, Function.update_of_ne hqp]
      exact h.readers q
  · intro q
    by_cases hqp : q = p
    · subst hqp
      simp [Site.release, Shared.release]
    · rw [Function.update_of_ne hqp, ← h.writer q]
      simp only [Site.release, Shared.release]
      split_ifs with hwriter
      · rw [hwriter]
        exact iff_of_false not_false (by simpa using Ne.symm hqp)
      · exact Iff.rfl
  · intro q
    by_cases hqp : q = p
    · subst hqp
      simp only [Site.release, AuditDisk.release, Function.update_self]
      split_ifs with howner
      · simp
      · simpa using howner
    · rw [Function.update_of_ne hqp, ← h.owner q]
      simp only [Site.release, AuditDisk.release]
      split_ifs with howner
      · rw [howner]
        exact iff_of_false not_false (by simpa using Ne.symm hqp)
      · exact Iff.rfl
  · simp only [Site.release, AuditDisk.release]
    split_ifs with howner
    · exact iff_of_true rfl rfl
    · exact h.holder

end Invariant

/-! ## What a party can do -/

/-- The calls that take a lock. -/
def LowCall.Acquires : LowCall → Prop
  | port .readGate | port .writeGate | writer (.lock _) => True
  | _ => False

section Calls

variable {ι : Type} [DecidableEq ι] {runToken : RunToken} {time : Humantime} {p : Party ι}
  {s s' : Site ι}

variable (runToken) in
/-- A call at a port that takes no lock is answered at once, or by the harness, the upstream or the
clock. -/
lemma exists_exec_port {op : Call} (hop : ¬ (LowCall.port op).Acquires) (hpanic : op ≠ .panic)
    (hshows : ∃ timestamp, time.Shows timestamp)
    (hstarted : op = .started → s.gateway.spawned p.request ≠ none)
    (hspawn : ∀ context response, op = .spawn context response → p = .handler p.request) :
    ∃ r s', Site.Exec runToken time p s ⟨.port op, r⟩ s' := by
  cases op with
  | readGate => exact (hop trivial).elim
  | writeGate => exact (hop trivial).elim
  | panic => exact absurd rfl hpanic
  | now =>
      obtain ⟨timestamp, hshows⟩ := hshows
      exact ⟨timestamp, s, hshows, rfl⟩
  | nextRequestId =>
      rcases hincrement : SequentialRequestIds.increment s.lastAllocated with _ | next
      · exact ⟨.error .sequenceExhausted, s, by simp [Site.Exec, hincrement]⟩
      · obtain ⟨-, hbound⟩ := SequentialRequestIds.increment_eq_some_iff.mp hincrement
        refine ⟨.ok (.fromParts runToken ⟨s.lastAllocated + 1, Nat.succ_pos _, hbound⟩),
          { s with lastAllocated := next }, ?_⟩
        simp only [Site.Exec, hincrement]
        exact ⟨_, SequentialRequestIds.allocate_of_lt _ hbound, rfl, trivial⟩
  | started =>
      obtain ⟨task, htask⟩ := Option.ne_none_iff_exists'.mp (hstarted rfl)
      exact ⟨task, _, _, ⟨htask, rfl⟩, rfl⟩
  | spawn context response => exact ⟨(), _, _, ⟨hspawn context response rfl, rfl⟩, rfl⟩
  | loadAuditFailed => exact ⟨_, _, _, ⟨rfl, rfl⟩, rfl⟩
  | tryAcquireOwned =>
      by_cases hfree : s.gateway.available = 0
      · exact ⟨false, _, _, ⟨hfree, rfl⟩, rfl⟩
      · exact ⟨true, _, _, ⟨Nat.pos_of_ne_zero hfree, rfl⟩, rfl⟩
  | appendEvent event => exact ⟨.ok (), _, _, rfl, rfl⟩
  | readRequest limit => exact ⟨none, _, _, rfl, rfl⟩
  | awaitSend => exact ⟨.error .timeout, _, _, rfl, rfl⟩
  | nextItem => exact ⟨.ok (), _, _, rfl, rfl⟩
  | sendChunk chunk => exact ⟨.ok true, _, _, rfl, rfl⟩
  | reserve => exact ⟨.ok true, _, _, rfl, rfl⟩
  | sendError graced => exact ⟨true, _, _, rfl, rfl⟩
  | _ => exact ⟨(), _, _, rfl, rfl⟩

variable (runToken time p s) in
/-- A call of the writer that does not take the mutex is answered. -/
lemma exists_exec_writer {op : WriterCall} (hop : ¬ (LowCall.writer op).Acquires) :
    ∃ r s', Site.Exec runToken time p s ⟨.writer op, r⟩ s' := by
  cases op with
  | lock line => exact (hop trivial).elim
  | loadPoisoned => exact ⟨_, _, _, ⟨_, ⟨rfl, rfl⟩, rfl⟩, rfl⟩
  | writeAll line => exact ⟨.ok (), _, _, ⟨_, ⟨_, [], (List.append_nil _).symm, rfl⟩, rfl⟩, rfl⟩
  | flush => exact ⟨.ok (), _, _, ⟨_, rfl, rfl⟩, rfl⟩
  | commit => exact ⟨.ok (), _, _, ⟨_, rfl, rfl⟩, rfl⟩
  | storePoisoned => exact ⟨(), _, _, ⟨_, rfl, rfl⟩, rfl⟩
  | returns event result => exact ⟨(), _, _, ⟨_, rfl, rfl⟩, rfl⟩

end Calls

/-! ## No deadlock -/

section Deadlock

variable {ι : Type} {X : Crates} {time : Humantime} {life : Life ι}

/-- The party has nothing left to do: it was dropped, or returned, or is a task that nobody has
spawned. -/
inductive AtEnd (f : DeploymentState ι) : Party ι → Prop
  | dropped {p : Party ι} (dropped : f.dropped p = true) : AtEnd f p
  | returned {p : Party ι} (result : p.Result) (returned : f.rest p = .ret result) : AtEnd f p
  | unspawned {i : ι} (unspawned : f.shared.gateway.spawned i = none) : AtEnd f (.task i)

/-- A party goes on without a lock, or unwinds. -/
def GoesOn : Turn (Party ι) LowCall.Answer → Prop
  | .call _ e => ¬ e.1.Acquires
  | .drop _ op => op = .port .panic

/-- No lock is held. -/
structure Unlocked (s : Site ι) : Prop where
  readers : ∀ p, s.gateway.readers p = false
  writer : s.gateway.writer = none
  mutex : s.disk.log.holder = none

variable [DecidableEq ι]

/-- The party takes a lock in its next step. -/
def TakesLock (life : Life ι) (time : Humantime) (f : DeploymentState ι) (p : Party ι) : Prop :=
  ∃ e f', e.1.Acquires ∧ Step (siteArena life.runToken time) f (.call p e) f'

variable {turns : List (Turn (Party ι) LowCall.Answer)} {f : DeploymentState ι}
  {turns' : List (Turn (Party ι) Call.Answer)} {c : GatewayState ι}

/-- What a party holds in a configuration. -/
def holdingOf (f : DeploymentState ι) (p : Party ι) : Holding :=
  lockMonitor.after .nothing (f.history p)

/-- **Every configuration** that is reached keeps the invariant. -/
lemma locksInv_of_reach (hreach : DeploymentReach X time life turns f) :
    LocksInv f.shared (holdingOf f) f.dropped := by
  refine Reach.invariant safe_deployment_lock (.start _ _ _) ?_
    (fun _ _ _ p _ hinv _ _ _ => hinv.drop p) hreach
  rintro s m d p (op | op) r s' hinv hlive hready hexec
  · exact hinv.port hlive hready hexec.port.1 hexec.port.2
  · obtain ⟨disk, hdisk, rfl⟩ := hexec
    exact hinv.write hlive hready hdisk rfl

/-- A handler is not started by another party. -/
lemma not_started (hreach : GatewayReach X life.config life.requests turns' c) {i : ι}
    {k : ResponseAuditContext × UpstreamResponse → Async Response} :
    c.rest (.handler i) ≠ .call .started k := by
  intro hrest
  have hruns := Reach.runs hreach (.handler i)
  rw [hrest] at hruns
  exact (admissionInv_of_reach hreach).handlers i
    ((safe_gatewayPrograms_permit (Party.handler i)).ready hruns)

/-- A response task spawns no other. -/
lemma not_spawn (hreach : GatewayReach X life.config life.requests turns' c) {i : ι}
    {context : ResponseAuditContext} {response : UpstreamResponse} {k : Unit → Async Unit} :
    c.rest (.task i) ≠ .call (.spawn context response) k := by
  intro hrest
  have hruns := Reach.runs hreach (.task i)
  rw [hrest] at hruns
  have hready : (Duty.waiting.after (c.history (.task i))).Ready X life.config (life.requests i)
      (.spawn context response) := (safe_gatewayPrograms (.task i)).ready hruns
  rcases task_duty (c.history (.task i)) with hduty | ⟨_, _, hduty, -⟩ | ⟨_, hduty⟩
  · rw [hduty] at hready
    cases hready with
    | other keeps => exact keeps
  · rw [hduty] at hready
    cases hready with
    | other keeps => exact keeps
  · rw [hduty] at hready
    cases hready with
    | other keeps => exact keeps

/-- `handle_request` of a handler that returned has returned. -/
lemma handled_of_returned (hreach : GatewayReach X life.config life.requests turns' c) {i : ι}
    {response : Response} (hreturned : c.rest (.handler i) = .ret response)
    (hadmitted : Admitted c i) :
    Handled X life.config (life.requests i) (c.history (.handler i)) := by
  have hruns := Reach.runs hreach (.handler i)
  rw [hreturned] at hruns
  rcases runs_proxy hruns with hnever | ⟨mid, rest, htr, hmid⟩ | ⟨mid, htr, -⟩
  · exact absurd hadmitted (hnever true)
  · rcases Runs.of_bind hmid with ⟨p, hhandle, hend⟩ | ⟨result, before, after, rfl, hhandle, -⟩
    · cases p with
      | ret result => exact ⟨mid, [], result, by rw [htr, List.append_nil], hhandle⟩
      | call op k => cases hend
    · exact ⟨before, after, result, htr, hhandle⟩
  · have hrefused : RefusedPermit c i := by
      rw [RefusedPermit, htr]
      simp [asked]
    have hphase := (admitted_iff hreach i).mp hadmitted
    rw [phaseOf_refused hreach hrefused] at hphase
    rcases hphase with hphase | hphase
    · cases hphase
    · exact hphase.elim

/-- A party that takes no lock can go on, if it was not spawned in vain. -/
lemma exists_goesOn (hsynced : life.synced ≤ life.initial.length)
    (hshows : ∃ timestamp, time.Shows timestamp) (hreach : DeploymentReach X time life turns f)
    {p : Party ι} (hlive : f.dropped p = false) {op : LowCall}
    {k : op.Answer → Program LowCall.Answer p.Result} (hrest : f.rest p = .call op k)
    (hop : ¬ op.Acquires)
    (hspawned : ∀ i, p = .task i → op = .port .started → f.shared.gateway.spawned i ≠ none) :
    ∃ t f', Step (siteArena life.runToken time) f t f' ∧ GoesOn t := by
  cases op with
  | writer op =>
      obtain ⟨r, s', hexec⟩ := exists_exec_writer life.runToken time p f.shared hop
      exact ⟨_, _, .call hlive hrest hexec, hop⟩
  | port op =>
      by_cases hpanic : op = .panic
      · subst hpanic
        exact ⟨_, _, .drop hlive hrest trivial, rfl⟩
      · obtain ⟨turns', c, doing, hgateway, hmatches, -⟩ :=
          (deployment_simulation X time life).reach (.start hsynced) hreach
        obtain ⟨low, part, hcarries, -⟩ := hmatches.party p
        rw [hrest] at hcarries
        obtain ⟨k', hstands⟩ := stands_of_carries hcarries
        have hstarted : op = .started → f.shared.gateway.spawned p.request ≠ none := by
          rintro rfl
          cases p with
          | handler i => exact (not_started hgateway hstands).elim
          | task i => exact hspawned i rfl rfl
        have hspawn : ∀ context response, op = .spawn context response →
            p = .handler p.request := by
          rintro context response rfl
          cases p with
          | handler i => rfl
          | task i => exact (not_spawn hgateway hstands).elim
        obtain ⟨r, s', hexec⟩ :=
          exists_exec_port life.runToken hop hpanic hshows hstarted hspawn
        exact ⟨_, _, .call hlive hrest hexec, hop⟩

/-- A party that holds a lock goes on. -/
lemma goesOn_of_holding (hsynced : life.synced ≤ life.initial.length)
    (hshows : ∃ timestamp, time.Shows timestamp) (hreach : DeploymentReach X time life turns f)
    {p : Party ι} (hlive : f.dropped p = false) (hholding : holdingOf f p ≠ .nothing) :
    ∃ t f', Step (siteArena life.runToken time) f t f' ∧ GoesOn t := by
  have hsafe := (safe_deployment_lock p).runs (Reach.runs hreach p)
  rcases hrest : f.rest p with result | ⟨op, k⟩
  · rw [hrest] at hsafe
    exact absurd hsafe hholding
  · rw [hrest] at hsafe
    have hready : lockMonitor.Ready (holdingOf f p) op := hsafe.1
    refine exists_goesOn hsynced hshows hreach hlive hrest ?_ ?_
    · intro hacquires
      cases op with
      | port op =>
          cases op with
          | readGate => exact hholding hready
          | writeGate => exact hholding hready
          | _ => exact hacquires
      | writer op =>
          cases op with
          | lock line => exact hholding hready
          | _ => exact hacquires
    · rintro i - rfl
      exact absurd hready hholding

omit [DecidableEq ι] in
/-- When no party holds a lock, no lock is held. -/
lemma LocksInv.unlocked {s : Site ι} {m : Party ι → Holding} {d : Party ι → Bool}
    (h : LocksInv s m d) (hnothing : ∀ p, d p = false → m p = .nothing) : Unlocked s := by
  refine ⟨?_, ?_, ?_⟩
  · intro p
    rw [← Bool.not_eq_true, h.readers p]
    rintro ⟨hlive, hreading⟩
    rw [hnothing p hlive] at hreading
    cases hreading
  · rcases hwriter : s.gateway.writer with _ | p
    · rfl
    · obtain ⟨hlive, hwriting⟩ := (h.writer p).mp hwriter
      rw [hnothing p hlive] at hwriting
      cases hwriting
  · rw [← h.holder]
    rcases howner : s.disk.owner with _ | p
    · rfl
    · obtain ⟨hlive, hmutex⟩ := (h.owner p).mp howner
      rw [hnothing p hlive] at hmutex
      cases hmutex

/-- A party takes the lock that it waits for when no lock is held. -/
lemma takesLock_of_unlocked {p : Party ι} (hlive : f.dropped p = false) {op : LowCall}
    {k : op.Answer → Program LowCall.Answer p.Result} (hrest : f.rest p = .call op k)
    (hop : op.Acquires) (hunlocked : Unlocked f.shared) : TakesLock life time f p := by
  obtain ⟨r, s', hexec⟩ : ∃ r s', Site.Exec life.runToken time p f.shared ⟨op, r⟩ s' := by
    cases op with
    | port op =>
        cases op with
        | readGate => exact ⟨(), _, _, ⟨hunlocked.writer, rfl⟩, rfl⟩
        | writeGate => exact ⟨(), _, _, ⟨hunlocked.writer, hunlocked.readers, rfl⟩, rfl⟩
        | _ => exact hop.elim
    | writer op =>
        cases op with
        | lock line => exact ⟨(), _, _, ⟨_, ⟨hunlocked.mutex, rfl⟩, rfl⟩, rfl⟩
        | _ => exact hop.elim
  exact ⟨⟨op, r⟩, _, hop, .call hlive hrest hexec⟩

/-- When every party is at its end, every permit is back. -/
lemma available_of_atEnd (hsynced : life.synced ≤ life.initial.length)
    (hreach : DeploymentReach X time life turns f) (hend : ∀ p, AtEnd f p) :
    f.shared.gateway.available = life.config.maxConcurrentRequests.get := by
  obtain ⟨turns', c, doing, hgateway, hmatches, hcoupled⟩ :=
    (deployment_simulation X time life).reach (.start hsynced) hreach
  have hreturned : ∀ p a, f.rest p = .ret a → c.rest p = .ret a := by
    intro p a hrest
    obtain ⟨low, part, hcarries, -⟩ := hmatches.party p
    rw [hrest] at hcarries
    exact returned_of_carries hcarries
  obtain ⟨unfinished, hmem, hcard⟩ := exists_unfinished hgateway
  have hnone : unfinished = ∅ := by
    refine Finset.eq_empty_of_forall_notMem fun i hi => ?_
    rcases (unfinished_iff hgateway i).mp ((hmem i).mp hi) with hhandler | htask
    · obtain ⟨hadmitted, -, hlive, hunhandled⟩ := (handler_owns_iff hgateway i).mp hhandler
      cases hend (.handler i) with
      | dropped hdropped =>
          rw [hmatches.dropped, hlive] at hdropped
          cases hdropped
      | returned response hrest =>
          exact hunhandled (handled_of_returned hgateway (hreturned _ _ hrest) hadmitted)
    · obtain ⟨hspawned, hlive, hrunning⟩ := (task_owns_iff hgateway i).mp htask
      cases hend (.task i) with
      | dropped hdropped =>
          rw [hmatches.dropped, hlive] at hdropped
          cases hdropped
      | returned result hrest => exact hrunning (hreturned _ _ hrest)
      | unspawned hnone =>
          rw [hcoupled.gateway] at hnone
          rw [hnone] at hspawned
          cases hspawned
  rw [hnone, Finset.card_empty, Nat.zero_add] at hcard
  rw [hcoupled.gateway, hcard]

end Deadlock

/-- **No deadlock.** In every configuration that the gateway reaches with its adapters, some party
can go on without taking a lock, or no lock is held, and every party that is not at its end can take
the one that it waits for. When every party is at its end, every permit is back. -/
theorem no_deadlock {ι : Type} [DecidableEq ι] (X : Crates) (time : Humantime)
    (hshows : ∃ timestamp, time.Shows timestamp) (life : Life ι)
    (hsynced : life.synced ≤ life.initial.length) (turns : List (Turn (Party ι) LowCall.Answer))
    (f : DeploymentState ι) (hreach : DeploymentReach X time life turns f) :
    ((∃ t f', Step (siteArena life.runToken time) f t f' ∧ GoesOn t) ∨
        Unlocked f.shared ∧ ∀ p, AtEnd f p ∨ TakesLock life time f p) ∧
      ((∀ p, AtEnd f p) →
        f.shared.gateway.available = life.config.maxConcurrentRequests.get) := by
  refine ⟨?_, available_of_atEnd hsynced hreach⟩
  by_cases hgoes : ∃ t f', Step (siteArena life.runToken time) f t f' ∧ GoesOn t
  · exact .inl hgoes
  have hunlocked : Unlocked f.shared := by
    refine (locksInv_of_reach hreach).unlocked fun p hlive => ?_
    by_contra hholding
    exact hgoes (goesOn_of_holding hsynced hshows hreach hlive hholding)
  refine .inr ⟨hunlocked, fun p => ?_⟩
  cases hlive : f.dropped p with
  | true => exact .inl (.dropped hlive)
  | false =>
      rcases hrest : f.rest p with result | ⟨op, k⟩
      · exact .inl (.returned result hrest)
      · by_cases hop : op.Acquires
        · exact .inr (takesLock_of_unlocked hlive hrest hop hunlocked)
        · left
          -- what else stops a party is that nobody has spawned it
          by_contra hend
          refine hgoes (exists_goesOn hsynced hshows hreach hlive hrest hop ?_)
          rintro i rfl - hnone
          exact hend (.unspawned hnone)

/-- Behind the denial of a `CONNECT` request every party is at its end, and the permit is back. -/
theorem no_deadlock_connect : ∃ turns f,
    DeploymentReach Reference.crates Reference.humantime connectLife turns f ∧
      (∀ p, AtEnd f p) ∧
      f.shared.gateway.available = connectLife.config.maxConcurrentRequests.get := by
  obtain ⟨_, turns, f, hreach, hreturned, hspawned, -⟩ := reach_connectLife
  have hend : ∀ p, AtEnd f p := by
    rintro (_ | _)
    · exact .returned _ hreturned
    · exact .unspawned (by rw [hspawned])
  exact ⟨turns, f, hreach, hend, (no_deadlock Reference.crates Reference.humantime
    ⟨_, Reference.shows_timestamp⟩ connectLife le_rfl turns f hreach).2 hend⟩

end Custode
