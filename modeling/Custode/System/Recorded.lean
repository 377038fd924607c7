import Custode.Audit.EventSize
import Custode.Audit.Startup
import Custode.System.Deployment
import Custode.System.Gate

/-!
# A denial that is recorded

The gateway with its adapters can record any denial: the handler of a denied request comes to its
append and through it, and the line is in the file and on stable storage
(`Life.reach_recordedDenial`).
-/

namespace Custode

open Found Found.Text Program

/-- The calls of an append that succeeds. -/
def appendCalls (event : AuditEvent) : List (Event LowCall.Answer) :=
  [⟨.writer (.lock event.line), ()⟩, ⟨.writer .loadPoisoned, false⟩,
    ⟨.writer (.writeAll event.line), .ok ()⟩, ⟨.writer .flush, .ok ()⟩, ⟨.writer .commit, .ok ()⟩,
    ⟨.writer (.returns event (.ok ())), ()⟩]

/-- The calls of a handler that denies its request, up to the denial's append. -/
def deniedCalls (requestId : RequestId) (timestamp : AuditTimestamp) :
    List (Event LowCall.Answer) :=
  [⟨.port .loadAuditFailed, false⟩, ⟨.port .tryAcquireOwned, true⟩,
    ⟨.port .nextRequestId, .ok requestId⟩, ⟨.port .now, timestamp⟩]

section Recorded

variable {ι : Type} [DecidableEq ι] {X : Crates} {time : Humantime} {life : Life ι}
  {maxEventBytes : AuditEventBytes} {denial : AuditDenial} {requestId : RequestId}
  {timestamp : AuditTimestamp} {event : AuditEvent}

/-- An append whose writes go well returns `Ok`. -/
lemma runs_append (hsize : serializeEvent event maxEventBytes.get = .ok event.line) :
    (adapter maxEventBytes (.appendEvent event)).Runs (appendCalls event) (.ret (.ok ())) := by
  show ((writeEvent maxEventBytes.get event).implement _).Runs _ _
  rw [writeEvent, hsize]
  exact .step (.step (.step (.step (.step (.step (.refl _))))))

/-- A call of the gateway that is no append is carried out as itself. -/
lemma carried_port (op : Call) (h : op.AppendsNothing) (r : op.Answer)
    {tr : List (Event Call.Answer)} {low : List (Event LowCall.Answer)}
    (hrest : Carried (adapter maxEventBytes) tr low) :
    Carried (adapter maxEventBytes) (⟨op, r⟩ :: tr) (⟨.port op, r⟩ :: low) := by
  have hruns : (adapter maxEventBytes op).Runs [⟨.port op, r⟩] (.ret r) := by
    rw [adapter_port h]
    exact .step (.refl _)
  exact .cons hruns hrest

/-- A denied request is answered with the denial's status when its append succeeds. -/
lemma runs_denial {config : GatewayConfig} {request : HttpRequest}
    (hdecided : targetDecision config request.method request.uri = some (.error denial))
    (hevent : AuditEvent.forDenial X denial requestId none config.upstreamOrigin timestamp =
      some event) :
    (proxy X config request).Runs
      [⟨.loadAuditFailed, false⟩, ⟨.tryAcquireOwned, true⟩, ⟨.nextRequestId, .ok requestId⟩,
        ⟨.now, timestamp⟩, ⟨.appendEvent event, .ok ()⟩, ⟨.releasePermit, ()⟩]
      (.ret (statusResponse denial.status)) := by
  have hdenial : (Gateway.auditDenial X config requestId denial none).Runs
      [⟨.now, timestamp⟩, ⟨.appendEvent event, .ok ()⟩] (.ret (.ok ())) := by
    refine .step ?_
    show Program.Runs (expect (AuditEvent.forDenial X denial requestId none config.upstreamOrigin
      timestamp) >>= Gateway.appendRequiredAuditEvent) _ _
    rw [hevent]
    exact .step (.refl _)
  have htarget : (acceptAllowedTarget X config requestId request.method request.uri).Runs
      [⟨.now, timestamp⟩, ⟨.appendEvent event, .ok ()⟩]
      (.ret (.ok (.error (statusResponse denial.status)))) := by
    rw [acceptAllowedTarget, hdecided]
    exact (hdenial.bind_left _).bind_left _
  have hrest : (droppingPermit (return .ok (statusResponse denial.status))).Runs
      [⟨.releasePermit, ()⟩] (.ret (.ok (statusResponse denial.status))) := .step (.refl _)
  have hhandled : (handleRequest X config request).Runs
      [⟨.nextRequestId, .ok requestId⟩, ⟨.now, timestamp⟩, ⟨.appendEvent event, .ok ()⟩,
        ⟨.releasePermit, ()⟩] (.ret (.ok (statusResponse denial.status))) :=
    .step (htarget.bind hrest)
  exact .step (.step (hhandled.bind_left _))

/-- So it is with the adapters. -/
lemma runs_recordedDenial {config : GatewayConfig} {request : HttpRequest}
    (hdecided : targetDecision config request.method request.uri = some (.error denial))
    (hevent : AuditEvent.forDenial X denial requestId none config.upstreamOrigin timestamp =
      some event) (hsize : serializeEvent event maxEventBytes.get = .ok event.line) :
    ((proxy X config request).implement (adapter maxEventBytes)).Runs
      (deniedCalls requestId timestamp ++ appendCalls event ++ [⟨.port .releasePermit, ()⟩])
      (.ret (statusResponse denial.status)) := by
  have happend : Carried (adapter maxEventBytes)
      [⟨.appendEvent event, .ok ()⟩, ⟨.releasePermit, ()⟩]
      (appendCalls event ++ [⟨.port .releasePermit, ()⟩]) :=
    .cons (runs_append hsize) (carried_port .releasePermit trivial () .nil)
  exact (runs_denial hdecided hevent).implement <|
    carried_port .loadAuditFailed trivial false <| carried_port .tryAcquireOwned trivial true <|
      carried_port .nextRequestId trivial (.ok requestId) <|
        carried_port .now trivial timestamp happend

/-- An append can succeed when the writer is free and nothing failed. -/
lemma execs_append {s : Site ι} {runToken : RunToken} (p : Party ι) {content : List UInt8}
    {returned : List (AuditEvent × Except AuditError Unit)}
    (hlog : s.disk.log = ⟨content, [], false, none, returned⟩) (event : AuditEvent) :
    ∃ s', Arena.Execs (siteArena runToken time) p s (appendCalls event) s' ∧
      s'.disk.log =
        ⟨content ++ event.line, [], false, none, returned ++ [(event, .ok ())]⟩ ∧
      s'.disk.synced = (content ++ event.line).length ∧ s'.gateway = s.gateway := by
  obtain ⟨gateway, lastAllocated, log, owner, synced⟩ := s
  obtain rfl : log = ⟨content, [], false, none, returned⟩ := hlog
  refine ⟨⟨gateway, lastAllocated, ⟨⟨content ++ event.line ++ [], [], false, none,
    returned ++ [(event, .ok ())]⟩, none, (content ++ event.line ++ []).length⟩⟩, ?_, by simp,
    by simp, rfl⟩
  refine .cons ⟨_, ⟨_, ⟨rfl, rfl⟩, rfl⟩, rfl⟩ ?_
  refine .cons ⟨_, ⟨_, ⟨rfl, rfl⟩, rfl⟩, rfl⟩ ?_
  refine .cons ⟨_, ⟨_, ⟨event.line, [], (List.append_nil _).symm, rfl⟩, rfl⟩, rfl⟩ ?_
  refine .cons ⟨_, ⟨_, rfl, rfl⟩, rfl⟩ ?_
  refine .cons ⟨_, ⟨_, rfl, rfl⟩, rfl⟩ ?_
  exact .cons ⟨_, ⟨_, rfl, rfl⟩, rfl⟩ (.nil _)

variable (life) in
/-- A handler can come to its append. -/
lemma execs_denied (i : ι) (hid : SequentialRequestIds.allocate life.runToken 0 = some requestId)
    (htime : time.Shows timestamp) :
    ∃ s, Arena.Execs (siteArena life.runToken time) (Party.handler i)
        (.start life.config life.initial life.synced) (deniedCalls requestId timestamp) s ∧
      s.disk = .opened life.initial life.synced ∧ s.gateway.spawned = fun _ => none := by
  obtain ⟨gateway, hacquire⟩ : ∃ gateway, Shared.Exec (Party.handler i) (.start life.config)
      ⟨.tryAcquireOwned, true⟩ gateway := ⟨_, life.config.maxConcurrentRequests.nonZero, rfl⟩
  have hspawned : gateway.spawned = fun _ => none := by
    obtain ⟨-, rfl⟩ := hacquire
    rfl
  refine ⟨⟨gateway, 1, .opened life.initial life.synced⟩, ?_, rfl, hspawned⟩
  refine .cons ⟨_, ⟨rfl, rfl⟩, rfl⟩ ?_
  refine .cons ⟨gateway, hacquire, rfl⟩ ?_
  exact .cons ⟨requestId, hid, rfl, rfl⟩ (.cons ⟨htime, rfl⟩ (.nil _))

variable (life) in
/-- The handler of a denied request can record it and answer it before anything else happens in the
life. -/
lemma Life.reach_recordedDenial (i : ι)
    (hdecided : targetDecision life.config (life.requests i).method (life.requests i).uri =
      some (.error denial))
    (hid : SequentialRequestIds.allocate life.runToken 0 = some requestId)
    (htime : time.Shows timestamp)
    (hevent : AuditEvent.forDenial X denial requestId none life.config.upstreamOrigin timestamp =
      some event) (hsize : serializeEvent event life.maxEventBytes.get = .ok event.line) :
    ∃ turns f, DeploymentReach X time life turns f ∧
      f.rest (.handler i) = .ret (statusResponse denial.status) ∧
      f.shared.gateway.spawned = (fun _ => none) ∧
      f.shared.disk.log = ⟨life.initial ++ event.line, [], false, none, [(event, .ok ())]⟩ ∧
      f.shared.disk.synced = (life.initial ++ event.line).length := by
  have hruns := runs_recordedDenial hdecided hevent hsize
  have hstart : DeploymentReach X time life [] (.start _ _) := .start
  obtain ⟨s, hdenied, hdisk, hspawned⟩ := execs_denied life i hid htime
  obtain ⟨s', happend, hlog, hsynced, hgateway⟩ :=
    execs_append (Party.handler i) (congrArg AuditDisk.log hdisk) event
  have hrelease : Arena.Execs (siteArena life.runToken time) (Party.handler i) s'
      [⟨.port .releasePermit, ()⟩] { s' with gateway := _ } := .cons ⟨_, rfl, rfl⟩ (.nil _)
  obtain ⟨f, hreach, hshared, hreturned, -⟩ :=
    Reach.call_run (i := Party.handler i) hstart rfl hruns
    ((hdenied.append happend).append hrelease)
  refine ⟨_, f, hreach, hreturned, ?_, ?_, ?_⟩
  · rw [hshared, ← hspawned, ← hgateway]
  · rw [hshared]
    exact hlog
  · rw [hshared]
    exact hsynced

end Recorded

/-! ## The denial of a `CONNECT` request -/

/-- One `CONNECT` request, on an empty log. -/
def connectLife : Life Unit where
  config := Reference.config
  maxEventBytes := ⟨minAuditEventBytes, le_rfl, by decide⟩
  runToken := Reference.requestId.runToken
  requests _ := connectRequest
  initial := []
  synced := 0

/-- The reference clock shows the reference timestamp. -/
lemma Reference.shows_timestamp : Reference.humantime.Shows Reference.timestamp := by
  refine ⟨1767225600000000000, rfl, ?_⟩
  simp only [Reference.humantime, if_true]

/-- The reference `url` crate prints no control character. -/
lemma Reference.printsNoControl : Reference.crates.url.PrintsNoControl := by
  intro raw url h
  unfold Reference.crates Reference.url at h
  dsimp only at h
  split at h
  · obtain rfl := Option.some.inj h
    exact forall_mem_of_all (by decide)
  · cases h

/-- The reference origin is read from its text. -/
lemma Reference.parse_origin :
    UpstreamOrigin.parse Reference.crates "https://api.openai.com".toList = .ok Reference.origin :=
  UpstreamOrigin.parse_eq_ok_iff.mpr ⟨by decide, rfl⟩

/-- What is recorded of it. -/
lemma connectLife_denial : ∃ denial event,
    targetDecision connectLife.config connectRequest.method connectRequest.uri =
        some (.error denial) ∧
      denial.status = .methodNotAllowed ∧
      AuditEvent.forDenial Reference.crates denial Reference.requestId none
        connectLife.config.upstreamOrigin Reference.timestamp = some event ∧
      event.line.length ≤ minAuditEventBytes := by
  obtain ⟨target, htarget⟩ := Option.ne_none_iff_exists'.mp
    (PreparsedAuditTarget.fromRequestUri_ne_none connectRequest.uri)
  have hdecided : targetDecision Reference.config connectRequest.method connectRequest.uri =
      some (.error (.connectUnsupported target)) := by
    rw [targetDecision, if_pos (show connectRequest.method = Method.connect from rfl), htarget]
    rfl
  have hrecorded := (RecordableDenial.target hdecided).recorded (forall_mem_of_all (by decide))
  have hlength : byteLen (Reference.origin.asStr Reference.crates) ≤ 4096 := by decide
  obtain ⟨event, hevent, hplain⟩ : ∃ event, AuditEvent.forDenial Reference.crates
      (.connectUnsupported target) Reference.requestId none Reference.config.upstreamOrigin
      Reference.timestamp = some event ∧ event.IsPlain :=
    AuditEvent.newAt_isPlain Reference.printsNoControl Reference.parse_origin hlength hrecorded
      (by decide)
  exact ⟨_, event, hdecided, rfl, hevent, AuditEvent.length_line_le hplain⟩

/-- The denial is recorded, and answered with 405. -/
lemma reach_connectLife : ∃ event turns f,
    DeploymentReach Reference.crates Reference.humantime connectLife turns f ∧
      f.rest (.handler ()) = .ret (statusResponse .methodNotAllowed) ∧
      f.shared.gateway.spawned = (fun _ => none) ∧
      f.shared.disk.log = ⟨event.line, [], false, none, [(event, .ok ())]⟩ ∧
      f.shared.disk.synced = event.line.length ∧ event.line.length ≤ minAuditEventBytes := by
  obtain ⟨denial, event, hdecided, hstatus, hevent, hline⟩ := connectLife_denial
  obtain ⟨turns, f, hreach, hreturned, hspawned, hlog, hsynced⟩ :=
    connectLife.reach_recordedDenial () hdecided rfl Reference.shows_timestamp hevent
      (if_neg (not_lt.mpr hline))
  rw [hstatus] at hreturned
  exact ⟨event, turns, f, hreach, hreturned, hspawned, hlog, hsynced, hline⟩

end Custode
