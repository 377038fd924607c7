import Custode.System.Contact
import Custode.System.GatePhases

/-!
# The forwarding gate

* `GateInv` — the invariant between the phases of the parties and what they share. `GateInv.move` is
  what one party may do to it; every call of the gate's code is such a move (`GateInv.call`), and a
  drop gives the guards back (`GateInv.drop`).
* `forwarding_gate` — after a required append has returned an error, nothing is sent any more, and
  nobody waits for the write guard with a read guard of its own.
-/

namespace Custode

open Found

section Invariant

variable {ι : Type}

/-- The phases of the parties (`m`) and what they share agree; `d` are the dropped parties. -/
structure GateInv (s : Shared ι) (m : Party ι → GatePhase) (d : Party ι → Bool) : Prop where
  readers : ∀ p, s.readers p = true ↔ d p = false ∧ (m p).Reads
  writer : ∀ p, s.writer = some p ↔ d p = false ∧ m p = .writing
  excluded : ∀ p q, s.writer = some p → s.readers q = false
  failed : ∀ p, (m p).HasStored → s.auditFailed = true
  shut : ∀ p q, (m p).HasShut → d q = false → m q ≠ .forwarding

variable {s s' : Shared ι} {m : Party ι → GatePhase} {d : Party ι → Bool} {i : Party ι}

/-- The invariant at the start. -/
lemma GateInv.start (config : GatewayConfig) :
    GateInv (Shared.start config : Shared ι) (fun _ => .outside) fun _ => false := by
  refine ⟨?_, ?_, ?_, fun p h => h.elim, fun p q h => h.elim⟩
  · intro p
    simp [Shared.start, GatePhase.Reads]
  · intro p
    simp [Shared.start]
  · intro p q h
    simp [Shared.start] at h

/-- The invariant is about the flag and the lock only. -/
lemma GateInv.keep (h : GateInv s m d) (hreaders : s'.readers = s.readers)
    (hwriter : s'.writer = s.writer) (hfailed : s'.auditFailed = s.auditFailed) :
    GateInv s' m d := by
  refine ⟨?_, ?_, ?_, ?_, h.shut⟩
  · rw [hreaders]
    exact h.readers
  · rw [hwriter]
    exact h.writer
  · rw [hreaders, hwriter]
    exact h.excluded
  · rw [hfailed]
    exact h.failed

variable [DecidableEq ι]

/-- A party goes to another phase: its guards follow, and it neither takes a forwarding permit after
the flag was set, nor the write guard while another has a permit. -/
lemma GateInv.move (h : GateInv s m d) (hlive : d i = false) {phase : GatePhase}
    (hothers : ∀ q, q ≠ i → s'.readers q = s.readers q)
    (hreads : s'.readers i = true ↔ phase.Reads)
    (hwriters : ∀ q, q ≠ i → (s'.writer = some q ↔ s.writer = some q))
    (hwrites : s'.writer = some i ↔ phase = .writing)
    (hexcluded : ∀ p q, s'.writer = some p → s'.readers q = false)
    (hflag : s.auditFailed = true → s'.auditFailed = true)
    (hstored : phase.HasStored → s'.auditFailed = true)
    (hshut : phase.HasShut → ∀ q, q ≠ i → d q = false → m q ≠ .forwarding)
    (hforwarding : phase = .forwarding → s.auditFailed = false) :
    GateInv s' (Function.update m i phase) d := by
  refine ⟨?_, ?_, hexcluded, ?_, ?_⟩
  · intro p
    by_cases hpi : p = i
    · subst hpi
      simpa [hlive] using hreads
    · rw [hothers p hpi, Function.update_of_ne hpi]
      exact h.readers p
  · intro p
    by_cases hpi : p = i
    · subst hpi
      simpa [hlive] using hwrites
    · rw [hwriters p hpi, Function.update_of_ne hpi]
      exact h.writer p
  · intro p hp
    by_cases hpi : p = i
    · subst hpi
      rw [Function.update_self] at hp
      exact hstored hp
    · rw [Function.update_of_ne hpi] at hp
      exact hflag (h.failed p hp)
  · intro p q hp hq
    by_cases hqi : q = i
    · subst hqi
      rw [Function.update_self]
      rintro rfl
      by_cases hpq : p = q
      · subst hpq
        rw [Function.update_self] at hp
        exact hp.elim
      · -- the party in `p` has set the flag, so `q` was refused
        rw [Function.update_of_ne hpq] at hp
        have hset := h.failed p hp.hasStored
        rw [hforwarding rfl] at hset
        cases hset
    · rw [Function.update_of_ne hqi]
      by_cases hpi : p = i
      · subst hpi
        rw [Function.update_self] at hp
        exact hshut hp q hqi hq
      · rw [Function.update_of_ne hpi] at hp
        exact h.shut p q hp hq

/-- A party that stays outside of the lock goes to another phase. -/
lemma GateInv.move_unlocked (h : GateInv s m d) (hlive : d i = false) {phase : GatePhase}
    (hbefore : ¬ (m i).Reads ∧ m i ≠ .writing) (hafter : ¬ phase.Reads ∧ ¬ phase.HasShut)
    (hreaders : s'.readers = s.readers) (hwriter : s'.writer = s.writer)
    (hflag : s.auditFailed = true → s'.auditFailed = true)
    (hstored : phase.HasStored → s'.auditFailed = true) :
    GateInv s' (Function.update m i phase) d := by
  have hnowriting : phase ≠ .writing := by
    rintro rfl
    exact hafter.2 trivial
  have hnoforwarding : phase ≠ .forwarding := by
    rintro rfl
    exact hafter.1 trivial
  apply h.move hlive
  · intro q _
    rw [hreaders]
  · rw [hreaders, h.readers i]
    exact iff_of_false (fun hread => hbefore.1 hread.2) hafter.1
  · intro q _
    rw [hwriter]
  · rw [hwriter, h.writer i]
    exact iff_of_false (fun hwrite => hbefore.2 hwrite.2) hnowriting
  · rw [hreaders, hwriter]
    exact h.excluded
  · exact hflag
  · exact hstored
  · exact fun hshut => (hafter.2 hshut).elim
  · exact fun hforwarding => (hnoforwarding hforwarding).elim

/-! ### The calls of the gate's code -/

/-- A party looks at the flag: before it takes a guard, or with a read guard. -/
lemma GateInv.loadAuditFailed (h : GateInv s m d) (hlive : d i = false) {r : Bool}
    (hready : m i = .outside ∨ m i = .reading)
    (hexec : Shared.Exec i s ⟨.loadAuditFailed, r⟩ s') :
    GateInv s' (Function.update m i ((m i).observe ⟨.loadAuditFailed, r⟩)) d := by
  obtain ⟨hanswer, rfl⟩ := hexec
  rcases hready with hphase | hphase
  · have hsame : (m i).observe ⟨.loadAuditFailed, r⟩ = m i := by
      rw [hphase]
      rfl
    rw [hsame, Function.update_eq_self]
    exact h
  · have hguards : s'.readers i = true ∧ s'.writer ≠ some i := by
      rw [h.readers i, ne_eq, h.writer i, hphase]
      exact ⟨⟨hlive, trivial⟩, by simp⟩
    have hafter : ((m i).observe ⟨.loadAuditFailed, r⟩).Reads := by
      rw [hphase]
      cases r <;> exact trivial
    have hnotStored : ¬ ((m i).observe ⟨.loadAuditFailed, r⟩).HasStored := by
      rw [hphase]
      cases r <;> exact id
    apply h.move hlive
    · exact fun _ _ => rfl
    · exact iff_of_true hguards.1 hafter
    · exact fun _ _ => Iff.rfl
    · refine iff_of_false hguards.2 ?_
      intro hwriting
      rw [hwriting] at hafter
      exact hafter
    · exact h.excluded
    · exact id
    · exact fun hs => (hnotStored hs).elim
    · exact fun hs => (hnotStored hs.hasStored).elim
    · -- it takes a permit only when it has seen the flag unset
      intro hforwarding
      rw [hphase] at hforwarding
      cases r with
      | true => cases hforwarding
      | false => exact hanswer.symm

/-- A party takes a read guard. -/
lemma GateInv.readGate (h : GateInv s m d) (hlive : d i = false)
    (hexec : Shared.Exec i s ⟨.readGate, ()⟩ s') :
    GateInv s' (Function.update m i .reading) d := by
  obtain ⟨hfree, rfl⟩ := hexec
  replace hfree : s.writer = none := hfree
  apply h.move hlive
  · exact fun q hqi => Function.update_of_ne hqi _ _
  · exact iff_of_true (Function.update_self _ _ _) trivial
  · exact fun _ _ => Iff.rfl
  · simp [hfree]
  · intro p q hwriter
    rw [show s.writer = some p from hwriter] at hfree
    cases hfree
  · exact id
  · exact fun hs => hs.elim
  · exact fun hs => hs.elim
  · exact fun hne => by cases hne

/-- A party gives its read guard back. -/
lemma GateInv.releaseReadGate (h : GateInv s m d) (hlive : d i = false) (hbefore : (m i).Reads)
    (hexec : Shared.Exec i s ⟨.releaseReadGate, ()⟩ s') :
    GateInv s' (Function.update m i .outside) d := by
  obtain rfl := hexec
  apply h.move hlive
  · exact fun q hqi => Function.update_of_ne hqi _ _
  · simp [GatePhase.Reads]
  · exact fun _ _ => Iff.rfl
  · refine iff_of_false ?_ (by simp)
    intro hwriter
    rw [((h.writer i).mp hwriter).2] at hbefore
    exact hbefore
  · intro p q hwriter
    by_cases hqi : q = i
    · rw [hqi]
      exact Function.update_self _ _ _
    · exact (Function.update_of_ne hqi _ _).trans (h.excluded p q hwriter)
  · exact id
  · exact fun hs => hs.elim
  · exact fun hs => hs.elim
  · exact fun hne => by cases hne

/-- A required append fails, or changes nothing. -/
lemma GateInv.appendEvent (h : GateInv s m d) (hlive : d i = false) (hphase : m i = .outside)
    {event : AuditEvent} {r : Except AuditError Unit}
    (hexec : Shared.Exec i s ⟨.appendEvent event, r⟩ s') :
    GateInv s' (Function.update m i ((m i).observe ⟨.appendEvent event, r⟩)) d := by
  obtain rfl := hexec
  cases r with
  | ok _ =>
      have hsame : (m i).observe ⟨.appendEvent event, .ok ()⟩ = m i := by
        rw [hphase]
        rfl
      rw [hsame, Function.update_eq_self]
      exact h
  | error error =>
      rw [hphase]
      refine h.move_unlocked hlive ?_ ⟨id, id⟩ rfl rfl id fun hs => hs.elim
      rw [hphase]
      exact ⟨id, by simp⟩

/-- A party sets the flag. -/
lemma GateInv.storeAuditFailed (h : GateInv s m d) (hlive : d i = false) (hphase : m i = .failing)
    (hexec : Shared.Exec i s ⟨.storeAuditFailed, ()⟩ s') :
    GateInv s' (Function.update m i .stored) d := by
  obtain rfl := hexec
  refine h.move_unlocked hlive ?_ ⟨id, id⟩ rfl rfl (fun _ => rfl) fun _ => rfl
  rw [hphase]
  exact ⟨id, by simp⟩

/-- A party takes the write guard, when nobody has a read guard. -/
lemma GateInv.writeGate (h : GateInv s m d) (hlive : d i = false) (hphase : m i = .stored)
    (hexec : Shared.Exec i s ⟨.writeGate, ()⟩ s') :
    GateInv s' (Function.update m i .writing) d := by
  obtain ⟨hfree, hreaders, rfl⟩ := hexec
  apply h.move hlive
  · exact fun _ _ => rfl
  · exact iff_of_false (by simp [hreaders]) id
  · intro q hqi
    simp [hfree, Ne.symm hqi]
  · simp
  · exact fun _ q _ => hreaders q
  · exact id
  · exact fun _ => h.failed i (by rw [hphase]; trivial)
  · -- a party with a permit holds a read guard
    intro _ q _ hq hforwarding
    have hread := (h.readers q).mpr ⟨hq, by rw [hforwarding]; trivial⟩
    rw [hreaders q] at hread
    cases hread
  · exact fun hne => by cases hne

/-- A party gives the write guard back. -/
lemma GateInv.releaseWriteGate (h : GateInv s m d) (hlive : d i = false) (hphase : m i = .writing)
    (hexec : Shared.Exec i s ⟨.releaseWriteGate, ()⟩ s') :
    GateInv s' (Function.update m i .closed) d := by
  obtain rfl := hexec
  have hwriter : s.writer = some i := (h.writer i).mpr ⟨hlive, hphase⟩
  apply h.move hlive
  · exact fun _ _ => rfl
  · exact iff_of_false (by simp [h.excluded i i hwriter]) id
  · intro q hqi
    simp [hwriter, Ne.symm hqi]
  · simp
  · intro p q hnone
    cases hnone
  · exact id
  · exact fun _ => h.failed i (by rw [hphase]; trivial)
  · exact fun _ q _ hq => h.shut i q (by rw [hphase]; trivial) hq
  · exact fun hne => by cases hne

/-- The calls of the gate's code that change the phase or the shared state. -/
def Call.OfGate : Call → Prop
  | loadAuditFailed | readGate | releaseReadGate | appendEvent _ | storeAuditFailed | writeGate
  | releaseWriteGate => True
  | _ => False

/-- Any other call leaves the phase, the flag and the lock as they are. -/
lemma GateInv.call_other (h : GateInv s m d) {op : Call} {r : op.Answer} (hop : ¬ op.OfGate)
    (hexec : Shared.Exec i s ⟨op, r⟩ s') :
    GateInv s' (Function.update m i ((m i).observe ⟨op, r⟩)) d := by
  have hphase : (m i).observe ⟨op, r⟩ = m i := by
    cases op <;> first | exact (hop trivial).elim | (cases m i <;> rfl)
  have hguards : ¬ Shared.MovesGuard op := by
    cases op <;> first | exact (hop trivial).elim | exact id
  have hstore : op ≠ .storeAuditFailed := by
    rintro rfl
    exact hop trivial
  rw [hphase, Function.update_eq_self]
  obtain ⟨hreaders, hwriter⟩ := hexec.effect.guards.resolve_right hguards
  exact h.keep hreaders hwriter (hexec.effect.flag.resolve_right fun hflag => hstore hflag.1)

/-- **Every call** keeps the invariant. -/
lemma GateInv.call (h : GateInv s m d) (hlive : d i = false) {op : Call} {r : op.Answer}
    (hready : (m i).Ready op) (hexec : Shared.Exec i s ⟨op, r⟩ s') :
    GateInv s' (Function.update m i ((m i).observe ⟨op, r⟩)) d := by
  cases op with
  | loadAuditFailed => exact h.loadAuditFailed hlive hready hexec
  | readGate =>
      rw [show m i = .outside from hready]
      exact h.readGate hlive hexec
  | releaseReadGate =>
      have hreads : (m i).Reads ∧ (m i).observe ⟨.releaseReadGate, r⟩ = .outside := by
        rcases hready with hphase | hphase
        · rw [hphase]
          exact ⟨trivial, rfl⟩
        · rw [hphase]
          exact ⟨trivial, rfl⟩
      rw [hreads.2]
      exact h.releaseReadGate hlive hreads.1 hexec
  | appendEvent event => exact h.appendEvent hlive hready hexec
  | storeAuditFailed =>
      rw [show m i = .failing from hready]
      exact h.storeAuditFailed hlive hready hexec
  | writeGate =>
      rw [show m i = .stored from hready]
      exact h.writeGate hlive hready hexec
  | releaseWriteGate =>
      rw [show m i = .writing from hready]
      exact h.releaseWriteGate hlive hready hexec
  | _ => exact h.call_other id hexec

/-- **Every drop** keeps the invariant: the guards of the dropped party are given back. -/
lemma GateInv.drop (h : GateInv s m d) :
    GateInv (Shared.release i s) m (Function.update d i true) := by
  refine ⟨?_, ?_, ?_, h.failed, ?_⟩
  · intro p
    by_cases hpi : p = i
    · subst hpi
      simp [Shared.release]
    · simp only [Shared.release, Function.update_of_ne hpi]
      exact h.readers p
  · intro p
    by_cases hpi : p = i
    · subst hpi
      by_cases hwriter : s.writer = some p
      · simp [Shared.release, hwriter]
      · simp [Shared.release, hwriter]
    · simp only [Function.update_of_ne hpi]
      rw [← h.writer p]
      by_cases hwriter : s.writer = some i
      · simp [Shared.release, hwriter, Ne.symm hpi]
      · simp [Shared.release, hwriter]
  · intro p q hwriter
    have hbefore : s.writer = some p := by
      by_cases hi : s.writer = some i
      · simp [Shared.release, hi] at hwriter
      · simpa [Shared.release, hi] using hwriter
    by_cases hqi : q = i
    · subst hqi
      simp [Shared.release]
    · simp only [Shared.release, Function.update_of_ne hqi]
      exact h.excluded p q hbefore
  · intro p q hp hq
    by_cases hqi : q = i
    · subst hqi
      simp at hq
    · rw [Function.update_of_ne hqi] at hq
      exact h.shut p q hp hq

end Invariant

/-! ## Runs of the gateway -/

section Runs

variable {ι : Type} [DecidableEq ι] {X : Crates} {config : GatewayConfig}
  {requests : ι → HttpRequest} {turns : List (Turn (Party ι) Call.Answer)} {c : GatewayState ι}

/-- The invariant holds in every reachable configuration. -/
lemma gateInv_of_reach (hreach : GatewayReach X config requests turns c) :
    GateInv c.shared (fun p => gateMonitor.after .outside (c.history p)) c.dropped :=
  Reach.invariant (safe_gatewayPrograms_gate X config requests) (.start config)
    (fun _ _ _ _ _ _ _ hinv hlive hready hexec => hinv.call hlive hready hexec)
    (fun _ _ _ _ _ hinv _ _ _ => hinv.drop) hreach

/-- The phase of a party that has come to a call. -/
lemma gate_ready {p : Party ι} (hreach : GatewayReach X config requests turns c) {op : Call}
    {k : op.Answer → Async p.Result} (hrest : c.rest p = .call op k) :
    (gateMonitor.after .outside (c.history p)).Ready op := by
  have hruns := Reach.runs hreach p
  rw [hrest] at hruns
  exact (safe_gatewayPrograms_gate X config requests p).ready hruns

/-- A call of `append_required_audit_event` has returned an error. -/
def AuditAppendFailed (tr : List (Event Call.Answer)) : Prop :=
  ∃ pre e post event error, tr = pre ++ e :: post ∧
    (Gateway.appendRequiredAuditEvent event).Finishes (.error error) pre e

/-- The party is in `client.send`. -/
def SendInProgress (c : GatewayState ι) (p : Party ι) : Prop :=
  c.dropped p = false ∧ ∃ k, c.rest p = .call .awaitSend k

/-- The calls of `close_forwarding`. -/
def Call.ClosesForwarding : Call → Prop
  | storeAuditFailed | notifyWaiters | writeGate | releaseWriteGate => True
  | _ => False

/-- A party whose required append has returned an error has closed the gate. -/
lemma closed_of_failed {p : Party ι} (hreach : GatewayReach X config requests turns c)
    (hfailed : AuditAppendFailed (c.history p)) :
    gateMonitor.after .outside (c.history p) = .closed := by
  obtain ⟨_, e, post, event, error, hhistory, pre, mid, rfl, hmid⟩ := hfailed
  rcases Program.Runs.of_call hmid with ⟨hnil, -⟩ | ⟨r, rest, hfirst, -⟩
  · simp at hnil
  · have hsplit : c.history p = pre ++ ⟨.appendEvent event, r⟩ :: (rest ++ post) := by
      rw [hhistory, ← List.cons_append, ← hfirst]
      simp
    have hruns := Reach.runs hreach p
    rw [hsplit] at hruns
    obtain ⟨k, hpre, -⟩ := hruns.split
    have hphase : gateMonitor.after .outside pre = .outside :=
      (safe_gatewayPrograms_gate X config requests p).ready hpre
    have hreturned : gateMonitor.after .outside (mid ++ [e]) = .closed :=
      (safe_append_gate event).returned hmid
    rw [hhistory, show pre ++ mid ++ e :: post = pre ++ ((mid ++ [e]) ++ post) by simp,
      Monitor.after_append, hphase, Monitor.after_append, hreturned, gateMonitor_closed]

/-- `begin_forwarding` returns `Ok` when it has seen the flag unset. -/
lemma beginForwarding_ok {tr : List (Event Call.Answer)} {e : Event Call.Answer}
    (h : Gateway.beginForwarding.Finishes (.ok ()) tr e) : e = ⟨.loadAuditFailed, false⟩ := by
  obtain ⟨pre, mid, -, hruns⟩ := h
  rcases Program.Runs.of_call hruns with ⟨hnil, -⟩ | ⟨_, rest, hread, hloads⟩
  · simp at hnil
  rcases Program.Runs.of_call hloads with ⟨-, hcall⟩ | ⟨failed, rest', rfl, hanswered⟩
  · cases hcall
  cases failed with
  | false =>
      obtain ⟨rfl, -⟩ := Program.Runs.of_ret hanswered
      have hlast := congrArg List.getLast? hread
      simpa using hlast
  | true =>
      rcases Program.Runs.of_call hanswered with ⟨-, hcall⟩ | ⟨_, rest'', rfl, hreleased⟩
      · cases hcall
      · cases (Program.Runs.of_ret hreleased).2

end Runs

/-- **The forwarding gate.** In every interleaving: once a required append has returned an error, no
upstream send is in progress, `begin_forwarding` does not return `Ok` and no upstream send starts;
and a party in `close_forwarding` holds no read guard. -/
theorem forwarding_gate {ι : Type} [DecidableEq ι] (X : Crates) (config : GatewayConfig)
    (requests : ι → HttpRequest) (turns : List (Turn (Party ι) Call.Answer)) (c : GatewayState ι)
    (hreach : GatewayReach X config requests turns c) :
    ((∃ p, AuditAppendFailed (c.history p)) →
      (∀ q, ¬ SendInProgress c q) ∧
        ∀ q e c', Step gatewayArena c (.call q e) c' →
          ¬ Gateway.beginForwarding.Finishes (.ok ()) (c.history q) e ∧
            ∀ request, e ≠ ⟨.startSend request, ()⟩) ∧
      ∀ q op k, c.dropped q = false → c.rest q = .call op k → op.ClosesForwarding →
        c.shared.readers q = false := by
  have hinv := gateInv_of_reach hreach
  constructor
  · rintro ⟨p, hfailed⟩
    have hclosed := closed_of_failed hreach hfailed
    have hset : c.shared.auditFailed = true := hinv.failed p (by rw [hclosed]; trivial)
    have hshut : ∀ q, c.dropped q = false →
        gateMonitor.after .outside (c.history q) ≠ .forwarding :=
      fun q => hinv.shut p q (by rw [hclosed]; trivial)
    constructor
    · rintro q ⟨hlive, k, hrest⟩
      exact hshut q hlive (gate_ready hreach hrest)
    · intro q e c' hstep
      cases hstep with
      | @call _ op k r s live head answer =>
          constructor
          · intro hbegins
            -- the flag is set, so it is not read as unset
            have hload := beginForwarding_ok hbegins
            cases hload
            have hanswer : false = c.shared.auditFailed := answer.1
            rw [hset] at hanswer
            cases hanswer
          · intro request hsend
            cases hsend
            exact hshut q live (gate_ready hreach head)
  · intro q op k hlive hrest hcloses
    have hready := gate_ready hreach hrest
    rw [← Bool.not_eq_true, hinv.readers q]
    rintro ⟨-, hreads⟩
    cases op with
    | storeAuditFailed =>
        rw [show _ = GatePhase.failing from hready] at hreads
        exact hreads
    | notifyWaiters =>
        rw [show _ = GatePhase.stored from hready] at hreads
        exact hreads
    | writeGate =>
        rw [show _ = GatePhase.stored from hready] at hreads
        exact hreads
    | releaseWriteGate =>
        rw [show _ = GatePhase.writing from hready] at hreads
        exact hreads
    | _ => exact hcloses.elim

/-! ## A failed append -/

/-- The calls of a handler whose denial cannot be recorded, up to the error. -/
def failedDenial (requestId : RequestId) (timestamp : AuditTimestamp) (event : AuditEvent)
    (error : AuditError) : List (Event Call.Answer) :=
  [⟨.loadAuditFailed, false⟩, ⟨.tryAcquireOwned, true⟩, ⟨.nextRequestId, .ok requestId⟩,
    ⟨.now, timestamp⟩, ⟨.appendEvent event, .error error⟩, ⟨.storeAuditFailed, ()⟩,
    ⟨.notifyWaiters, ()⟩, ⟨.writeGate, ()⟩, ⟨.releaseWriteGate, ()⟩]

section Failed

variable {X : Crates} {config : GatewayConfig} {request : HttpRequest} {denial : AuditDenial}
  {requestId : RequestId} {timestamp : AuditTimestamp} {event : AuditEvent}

/-- A denied request comes to its append, which can fail. -/
lemma runs_failedDenial
    (hdecided : targetDecision config request.method request.uri = some (.error denial))
    (hevent : AuditEvent.forDenial X denial requestId none config.upstreamOrigin timestamp =
      some event) (error : AuditError) :
    ∃ q, (proxy X config request).Runs (failedDenial requestId timestamp event error) q := by
  have hdenial : (Gateway.auditDenial X config requestId denial none).Runs
      ((failedDenial requestId timestamp event error).drop 3) (.ret (.error (.audit error))) := by
    refine .step ?_
    show Program.Runs (expect (AuditEvent.forDenial X denial requestId none config.upstreamOrigin
      timestamp) >>= Gateway.appendRequiredAuditEvent) _ _
    rw [hevent]
    exact .step (.step (.step (.step (.step (.refl _)))))
  have hstatus : (auditDenialStatus X config requestId denial none).Runs
      ((failedDenial requestId timestamp event error).drop 3) (.ret (.error (.audit error))) :=
    hdenial.bind_left _
  have htarget : (acceptAllowedTarget X config requestId request.method request.uri).Runs
      ((failedDenial requestId timestamp event error).drop 3) (.ret (.error (.audit error))) := by
    rw [acceptAllowedTarget, hdecided]
    exact hstatus.bind_left _
  exact ⟨_, .step (.step (.step ((htarget.bind_left _).bind_left _)))⟩

/-- Nothing stands in the way of such a run while the gate is open and nobody forwards. -/
lemma execs_failedDenial {ι : Type} [DecidableEq ι] (i : ι) {s : Shared ι}
    (hopen : s.auditFailed = false) (hpermit : 0 < s.available) (hwriter : s.writer = none)
    (hreaders : ∀ q, s.readers q = false) (requestId : RequestId) (timestamp : AuditTimestamp)
    (event : AuditEvent) (error : AuditError) :
    ∃ s', Arena.Execs gatewayArena (Party.handler i) s
        (failedDenial requestId timestamp event error) s' ∧ s'.writer = none :=
  ⟨_, .cons ⟨hopen.symm, rfl⟩ (.cons ⟨hpermit, rfl⟩ (.cons rfl (.cons rfl (.cons rfl (.cons rfl
    (.cons rfl (.cons ⟨hwriter, hreaders, rfl⟩ (.cons rfl (.nil _))))))))), rfl⟩

end Failed

/-- A `CONNECT` request. -/
def connectRequest : HttpRequest where
  method := Method.connect
  uri := ⟨⟨none, some "h".toList, [], none⟩, by decide⟩
  headers := []

/-- The append of such a run has failed. -/
lemma failedDenial_failed (requestId : RequestId) (timestamp : AuditTimestamp) (event : AuditEvent)
    (error : AuditError) : AuditAppendFailed (failedDenial requestId timestamp event error) :=
  ⟨(failedDenial requestId timestamp event error).take 8, ⟨.releaseWriteGate, ()⟩, [], event,
    .audit error, rfl, (failedDenial requestId timestamp event error).take 4, _, rfl,
    .step (.step (.step (.step (.step (.refl _)))))⟩

/-- A request that is denied, and one that is allowed. -/
def deniedAndAllowed : Bool → HttpRequest
  | true => connectRequest
  | false => modelsRequest

/-- `CONNECT` is denied, with an event that can be built. -/
lemma connectRequest_denied :
    ∃ denial event, targetDecision Reference.config connectRequest.method connectRequest.uri =
        some (.error denial) ∧
      AuditEvent.forDenial Reference.crates denial Reference.requestId none
        Reference.config.upstreamOrigin Reference.timestamp = some event := by
  obtain ⟨target, htarget⟩ := Option.ne_none_iff_exists'.mp
    (PreparsedAuditTarget.fromRequestUri_ne_none connectRequest.uri)
  obtain ⟨event, hevent⟩ := Option.ne_none_iff_exists'.mp
    (AuditEvent.forDenial_ne_none Reference.crates (.connectUnsupported target) Reference.requestId
      none Reference.config.upstreamOrigin Reference.timestamp)
  refine ⟨.connectUnsupported target, event, ?_, hevent⟩
  rw [targetDecision, if_pos (show connectRequest.method = Method.connect from rfl), htarget]
  rfl

/-- The handler of an allowed request comes to the forwarding gate, and then to the flag behind
it. -/
lemma runs_toGate :
    ∃ k k', (proxy Reference.crates Reference.config modelsRequest).Runs
        ((sent Reference.config Reference.requestId emptyBody modelsUpstream).take 4)
        (.call .readGate k) ∧ k () = .call .loadAuditFailed k' := by
  obtain ⟨_, hruns, -⟩ := runs_sent Reference.crates Reference.requestId emptyBody
    modelsRequest_allowed modelsRequest_headers
  have hsent : (proxy Reference.crates Reference.config modelsRequest).Runs
      ((sent Reference.config Reference.requestId emptyBody modelsUpstream).take 4 ++
        ⟨.readGate, ()⟩ :: [⟨.loadAuditFailed, false⟩, ⟨.startSend modelsUpstream, ()⟩]) _ := hruns
  obtain ⟨k, hgate, hbehind⟩ := hsent.split
  have hflag : (k ()).Runs ([] ++
      ⟨.loadAuditFailed, false⟩ :: [⟨.startSend modelsUpstream, ()⟩]) _ := hbehind
  obtain ⟨k', hflag, -⟩ := hflag.split
  exact ⟨k, k', hgate, Program.Runs.unique (.refl _) hflag⟩

/-- The gateway comes to a failed denial while an allowed request waits for the forwarding gate,
which it then gets. -/
lemma reach_failedDenial :
    ∃ event turns c k, GatewayReach Reference.crates Reference.config deniedAndAllowed turns c ∧
      c.history (.handler true) =
        failedDenial Reference.requestId Reference.timestamp event .write ∧
      c.dropped (.handler false) = false ∧
      c.rest (.handler false) = .call .loadAuditFailed k ∧
      c.shared.readers (.handler false) = true := by
  obtain ⟨denial, event, hdecided, hevent⟩ := connectRequest_denied
  obtain ⟨_, hdenial⟩ := runs_failedDenial hdecided hevent .write
  obtain ⟨k, k', hgate, hbehind⟩ := runs_toGate
  have hstart : GatewayReach Reference.crates Reference.config deniedAndAllowed [] (.start _ _) :=
    .start
  -- the allowed request comes to the gate
  obtain ⟨c, hreach, hshared, hrest, hhistory, hdropped⟩ :=
    Reach.call_run (i := Party.handler false) hstart rfl hgate
      (.cons ⟨rfl, rfl⟩ (.cons ⟨Reference.config.maxConcurrentRequests.nonZero, rfl⟩ (.cons rfl
        (.cons rfl (.nil _)))))
  -- the denied one closes it
  have hfresh : c.rest (.handler true) =
      proxy Reference.crates Reference.config connectRequest := by
    apply Reach.rest_of_runs hreach
    rw [hhistory, Function.update_of_ne (by decide)]
    exact .refl _
  rw [← hfresh] at hdenial
  obtain ⟨s, hexecs, hwriter⟩ := execs_failedDenial true (s := c.shared) (by rw [hshared]; rfl)
    (by rw [hshared]; decide) (by rw [hshared]; rfl) (fun q => by rw [hshared]; rfl)
    Reference.requestId Reference.timestamp event .write
  obtain ⟨c₂, hreach₂, hshared₂, -, hhistory₂, hdropped₂⟩ :=
    Reach.call_run hreach (by rw [hdropped]; rfl) hdenial hexecs
  -- and the allowed one gets it
  have hrest₂ : c₂.rest (.handler false) = .call .readGate k := by
    apply Reach.rest_of_runs hreach₂
    rw [hhistory₂, Function.update_of_ne (by decide), hhistory, Function.update_self]
    exact hgate
  have hlive₂ : c₂.dropped (.handler false) = false := by
    rw [hdropped₂, hdropped]
    rfl
  have hgets : (c₂.rest (.handler false)).Runs [⟨.readGate, ()⟩] (k ()) := by
    rw [hrest₂]
    exact .step (.refl _)
  obtain ⟨c₃, hreach₃, hshared₃, hrest₃, hhistory₃, hdropped₃⟩ :=
    Reach.call_run hreach₂ hlive₂ hgets (.cons ⟨hshared₂ ▸ hwriter, rfl⟩ (.nil _))
  refine ⟨event, _, c₃, k', hreach₃, ?_, ?_, hrest₃.trans hbehind, ?_⟩
  · rw [hhistory₃, Function.update_of_ne (by decide), hhistory₂, Function.update_self, hhistory,
      Function.update_of_ne (by decide)]
    rfl
  · rw [hdropped₃]
    exact hlive₂
  · rw [hshared₃]
    exact Function.update_self (Party.handler false) true c₂.shared.readers

/-- The gate is closed after the denial of a `CONNECT` request could not be recorded: a request that
waited for it is not sent. -/
theorem forwarding_gate_failedDenial :
    ∃ turns c k, GatewayReach Reference.crates Reference.config deniedAndAllowed turns c ∧
      AuditAppendFailed (c.history (.handler true)) ∧
      c.rest (.handler false) = .call .loadAuditFailed k ∧
      c.shared.readers (.handler false) = true ∧ (∀ q, ¬ SendInProgress c q) ∧
      ∀ q e c', Step gatewayArena c (.call q e) c' →
        ¬ Gateway.beginForwarding.Finishes (.ok ()) (c.history q) e ∧
          ∀ request, e ≠ ⟨.startSend request, ()⟩ := by
  obtain ⟨event, turns, c, k, hreach, hhistory, -, hrest, hreads⟩ := reach_failedDenial
  have hfailed : AuditAppendFailed (c.history (.handler true)) := by
    rw [hhistory]
    exact failedDenial_failed _ _ _ _
  exact ⟨_, c, k, hreach, hfailed, hrest, hreads,
    (forwarding_gate Reference.crates Reference.config _ _ c hreach).1 ⟨_, hfailed⟩⟩

end Custode
