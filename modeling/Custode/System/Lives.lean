import Custode.Audit.Restart
import Custode.Found.JsonReader
import Custode.System.Refinement

/-!
# The audit log over the lives of a gateway

A gateway runs until it stops, in the middle of any appends; what was not on stable storage may be
lost, from the end of the file. The next gateway starts on what is left, if it accepts it, with a
run token of its own.

* `Life.Wrote` — the events of a life: decided for its requests, with identities of its own.
* `Lives` — any number of lives, one after another; `LivesInv` is what holds of what they leave.
* `log_over_lives` — a start never finds the log corrupt, if the requests read back, and it holds
  the line of every event whose append returned `Ok` in any of the lives.
-/

namespace Custode

open Found Program

/-! ## The JSON of events -/

/-- The parser reads what the gateway serialized. -/
def ReadsEvents (parse : JsonParser) : Prop :=
  ∀ event : AuditEvent, parse (serializeJsonEvent event) = some (event.json, [])

/-- The summary of a body is a plain value. -/
lemma AuditBodySummary.json_plain (summary : AuditBodySummary) : summary.json.Plain := by
  cases summary with
  | empty => exact ⟨trivial, trivial⟩
  | nonEmpty blake3 bytes => exact ⟨trivial, trivial, trivial, trivial⟩
  | notObserved => exact ⟨trivial, trivial⟩

/-- Optional text is a plain value. -/
lemma optionalText_plain (text : Option Text) : (optionalText text).Plain := by
  cases text <;> trivial

/-- Every number of an event is a literal of digits. -/
lemma AuditEvent.json_plain (event : AuditEvent) : event.json.Plain :=
  ⟨trivial, optionalText_plain _, trivial, trivial, optionalText_plain _,
    event.requestBody.json_plain, trivial, event.responseBody.json_plain, trivial, trivial, trivial,
    optionalText_plain _, optionalText_plain _, trivial, trivial⟩

/-- A reader of JSON texts reads events. -/
lemma readsEvents_readBytes : ReadsEvents Json.readBytes :=
  fun event => Json.readBytes_compact event.json_plain

/-- One line has one value. -/
lemma json_eq_of_line_eq {event event' : AuditEvent} (h : event.line = event'.line) :
    event.json = event'.json := by
  have htext : serializeJsonEvent event = serializeJsonEvent event' := List.append_cancel_right h
  have hvalue := readsEvents_readBytes event
  rw [htext, readsEvents_readBytes event'] at hvalue
  exact (congrArg Prod.fst (Option.some.inj hvalue)).symm

/-- One line has one identity. -/
lemma requestId_eq_of_line_eq {event event' : AuditEvent} (h : event.line = event'.line) :
    event.requestId = event'.requestId := by
  have hfield : event.json.field "request_id" = event'.json.field "request_id" := by
    rw [json_eq_of_line_eq h]
  exact RequestId.display_injective (Json.string.inj hfield)

/-- The lines of events with an identity each. -/
lemma nodup_lines {events : List AuditEvent}
    (h : (events.map fun event => event.requestId).Nodup) : (events.map AuditEvent.line).Nodup := by
  rw [List.Nodup, List.pairwise_map] at h ⊢
  exact h.imp fun hne hline => hne (requestId_eq_of_line_eq hline)

/-! ## One life -/

section Life

variable {ι : Type} [DecidableEq ι] {X : Crates} {time : Humantime} {parse : JsonParser}
  {life : Life ι} {t : Site ι} {c : GatewayState ι}
  {doing : Party ι → List (Event LowCall.Answer)} {turns : List (Turn (Party ι) Call.Answer)}
  {p : Party ι} {event : AuditEvent}

omit [DecidableEq ι] in
/-- A party appends with the timestamp it read. -/
lemma timed_gatewayPrograms (config : GatewayConfig) (requests : ι → HttpRequest) (p : Party ι) :
    Timed (gatewayPrograms X config requests p) := by
  cases p with
  | handler i => exact timed_proxy (requests i)
  | task i => exact .bind (.call trivial) fun task => timed_responseTask task.1 task.2

/-- The timestamp of an attempt was shown by the clock. -/
lemma Attempts.timestamp {config : GatewayConfig} {requests : ι → HttpRequest}
    (hreach : GatewayReach X config requests turns c) (h : Attempts c p event) :
    ⟨.now, event.timestamp⟩ ∈ c.history p := by
  have htimed := timed_gatewayPrograms (X := X) config requests p
  have hruns := Reach.runs hreach p
  rcases h with ⟨result, hmem⟩ | ⟨k, hrest⟩
  · obtain ⟨pre, post, hhistory⟩ := List.append_of_mem hmem
    rw [hhistory] at hruns ⊢
    obtain ⟨k, hpre, -⟩ := hruns.split
    exact List.mem_append_left _ (htimed.read hpre)
  · rw [hrest] at hruns
    exact htimed.read hruns

/-- The identity of an attempt is the life's, and no other request's. -/
lemma Coupled.identity (h : Coupled time life t c doing)
    (hreach : GatewayReach X life.config life.requests turns c) {q : Party ι} {event' : AuditEvent}
    (hattempt : Attempts c p event) (hattempt' : Attempts c q event')
    (hid : event.requestId = event'.requestId) : p = q ∧ event = event' := by
  have hgiven := (hattempt.decided hreach).1
  have hgiven' := (hattempt'.decided hreach).1
  rw [← hid] at hgiven'
  exact hattempt.unique hreach hattempt' (Party.handler.inj (h.distinct _ _ _ hgiven hgiven'))

/-- The identities of a life. -/
def Life.Allocates (life : Life ι) (id : Text) : Prop :=
  ∃ sequence, id = (RequestId.fromParts life.runToken sequence).display

/-- An event of the life: decided for one of its requests, under an identity with its run token, at
a time that its clock showed. -/
structure Life.Wrote (X : Crates) (time : Humantime) (life : Life ι) (event : AuditEvent) :
    Prop where
  decided : ∃ i, Decided X life.config (life.requests i) event
  identity : event.requestId.runToken = life.runToken
  shown : time.Shows event.timestamp

/-- What is attempted in a life is an event of it. -/
lemma Coupled.wrote (h : Coupled time life t c doing)
    (hreach : GatewayReach X life.config life.requests turns c) (hattempt : Attempts c p event) :
    life.Wrote X time event := by
  obtain ⟨hgiven, hdecided⟩ := hattempt.decided hreach
  exact ⟨⟨p.request, hdecided⟩, (h.allocated _ _ hgiven).1,
    h.clock p _ (hattempt.timestamp hreach)⟩

/-- Every request of the life reads back, and so does its origin. -/
structure Life.ReadsBack (X : Crates) (life : Life ι) : Prop where
  targets : ∀ i, TargetReadsBack X (life.requests i).method (life.requests i).uri
  origin : UpstreamOrigin.RoundTrips X life.config.upstreamOrigin

omit [DecidableEq ι] in
/-- The next start accepts the events of a life whose requests read back. -/
lemma Life.Wrote.recorded (h : life.Wrote X time event) (hparse : ReadsEvents parse)
    (hlife : life.ReadsBack X) : event.Recorded X time parse := by
  obtain ⟨i, hdecided⟩ := h.decided
  obtain ⟨instant, hformat, hread⟩ := h.shown
  refine ⟨hparse event, hdecided.readsBack (hlife.targets i) hlife.origin ?_⟩
  rw [deserializeExistingTimestamp, hread]
  exact if_pos hformat

/-- The events that were taken have an identity each. -/
lemma TakenFrom.distinct (h : Coupled time life t c doing)
    (hreach : GatewayReach X life.config life.requests turns c)
    {took : List (Party ι × AuditEvent)} (htaken : TakenFrom c doing took) :
    (took.map fun x => x.2.requestId).Nodup := by
  refine List.Nodup.map_on ?_ (List.Nodup.of_map _ htaken.parties)
  intro x hx y hy hid
  obtain ⟨hparty, hevent⟩ := h.identity hreach (htaken.attempts x hx) (htaken.attempts y hy) hid
  exact Prod.ext hparty hevent

omit [DecidableEq ι] in
/-- The line of an acknowledged event is on stable storage, behind whole lines. -/
lemma Coupled.stored (h : Coupled time life t c doing) (hends : EndsLine life.initial)
    (hevent : (event, .ok ()) ∈ t.disk.log.returned) :
    ∃ front, EndsLine front ∧ front ++ event.line <+: t.disk.stored := by
  obtain ⟨took, hjournal, -⟩ := h.journal
  obtain ⟨before, hstored⟩ := hjournal.stored hevent
  refine ⟨_, hends.append ?_, hstored⟩
  clear hstored
  induction before with
  | nil => exact .inl rfl
  | cons x before ih => exact (endsLine_line x.2).append ih

/-- An acknowledged event was taken. -/
lemma Coupled.taken (h : Coupled time life t c doing)
    (hreach : GatewayReach X life.config life.requests turns c)
    {took : List (Party ι × AuditEvent)} {phases : Party ι → Phase}
    (hjournal : Journal life.initial t.disk took phases) (htaken : TakenFrom c doing took)
    (hevent : (event, .ok ()) ∈ t.disk.log.returned) : event ∈ took.map Prod.snd := by
  obtain ⟨before, x, after, rfl, hline, -⟩ := hjournal.acknowledged event hevent
  have hx : x ∈ before ++ x :: after := List.mem_append_right _ List.mem_cons_self
  obtain ⟨p, hmem⟩ := (h.returned event (.ok ())).mp hevent
  obtain ⟨-, rfl⟩ := h.identity hreach (htaken.attempts x hx) (.inl ⟨_, hmem⟩)
    (requestId_eq_of_line_eq hline)
  exact List.mem_map_of_mem hx

end Life

/-! ## Any number of lives -/

/-- The events whose appends returned `Ok`. -/
def LogFile.acknowledged (s : LogFile) : List AuditEvent :=
  s.returned.filterMap fun call => match call.2 with
    | .ok _ => some call.1
    | .error _ => none

/-- An event is acknowledged when its call returned `Ok`. -/
lemma LogFile.mem_acknowledged {s : LogFile} {event : AuditEvent} :
    event ∈ s.acknowledged ↔ (event, .ok ()) ∈ s.returned := by
  rw [acknowledged, List.mem_filterMap]
  constructor
  · rintro ⟨⟨event', _ | _⟩, hmem, hevent⟩
    · cases hevent
    · cases hevent
      exact hmem
  · exact fun hmem => ⟨_, hmem, rfl⟩

section Lives

variable {P : Type} (ι : Type) [DecidableEq ι] (X : Crates) (time : Humantime) (parse : JsonParser)
  (path : P)

/-- What any number of lives leave, one after another: the file, how much of it is on stable
storage, the events whose appends returned `Ok`, and the lives, the last one first. A life starts
when the inspection of the file accepts it, with a run token that no life before had; it stops
anywhere. -/
inductive Lives : FileBytes → Nat → List AuditEvent → List (Life ι) → Prop
  | fresh : Lives ⟨[], Nat.zero_le _⟩ 0 [] []
  | life {content : FileBytes} {synced : Nat} {acknowledged : List AuditEvent}
      {lives : List (Life ι)} (before : Lives content synced acknowledged lives)
      (life : Life ι) (initial : life.initial = content.data) (stored : life.synced = synced)
      (token : life.runToken ∉ lives.map fun life => life.runToken)
      {faults : Faults} {reader : LogReader}
      (accepted : inspectAuditLog X time parse faults path content.data = some (.ok reader))
      {turns : List (Turn (Party ι) LowCall.Answer)} {f : DeploymentState ι}
      (reach : DeploymentReach X time life turns f) {left : FileBytes}
      (survives : f.shared.disk.Survives left.data) :
      Lives left f.shared.disk.synced (acknowledged ++ f.shared.disk.log.acknowledged)
        (life :: lives)

variable {ι X time parse path}

variable (X time) in
/-- What the lives leave is a cut of the lines of these events, each of one of the lives and with an
identity of its own; what was acknowledged is among them, and on stable storage. -/
structure LivesInv (content : List UInt8) (synced : Nat) (acknowledged : List AuditEvent)
    (lives : List (Life ι)) (events : List AuditEvent) : Prop where
  fits : synced ≤ content.length
  cut : content <+: events.flatMap AuditEvent.line
  distinct : (events.map fun event => event.requestId).Nodup
  wrote : ∀ event ∈ events, ∃ life ∈ lives, life.Wrote X time event
  kept : ∀ event ∈ acknowledged, event ∈ events
  stored : ∀ event ∈ acknowledged, ∃ front, EndsLine front ∧
    front ++ event.line <+: content.take synced

omit [DecidableEq ι] in
/-- Nothing is left of no lives. -/
lemma LivesInv.nil : LivesInv X time [] 0 [] ([] : List (Life ι)) [] where
  fits := le_rfl
  cut := List.prefix_rfl
  distinct := List.nodup_nil
  wrote := List.forall_mem_nil _
  kept := List.forall_mem_nil _
  stored := List.forall_mem_nil _

variable {content : FileBytes} {synced : Nat} {acknowledged : List AuditEvent}
  {lives : List (Life ι)} {life : Life ι} {events kept : List AuditEvent}

omit [DecidableEq ι] in
/-- An acknowledged event is among those whose lines are left. -/
lemma LivesInv.mem_kept (h : LivesInv X time content.data synced acknowledged lives events)
    (hkept : kept <+: events) (hcontent : content.data = kept.flatMap AuditEvent.line)
    {event : AuditEvent} (hevent : event ∈ acknowledged) : event ∈ kept := by
  obtain ⟨front, hfront, hline⟩ := h.stored event hevent
  have hmem := line_mem_readLines hfront (hline.trans (List.take_prefix _ _))
  rw [hcontent, readLines_lines] at hmem
  obtain ⟨event', hevent', hsame⟩ := List.mem_map.mp hmem
  have hid := requestId_eq_of_line_eq hsame
  obtain rfl := List.inj_on_of_nodup_map h.distinct (hkept.subset hevent')
    (h.kept event hevent) hid
  exact hevent'

/-- One more life. -/
lemma LivesInv.next (h : LivesInv X time content.data synced acknowledged lives events)
    (hinitial : life.initial = content.data) (hsynced : life.synced = synced)
    (htoken : life.runToken ∉ lives.map fun life => life.runToken) (hends : EndsLine content.data)
    {turns : List (Turn (Party ι) LowCall.Answer)} {f : DeploymentState ι}
    (hreach : DeploymentReach X time life turns f) {left : List UInt8}
    (hleft : f.shared.disk.Survives left) :
    ∃ events', LivesInv X time left f.shared.disk.synced
      (acknowledged ++ f.shared.disk.log.acknowledged) (life :: lives) events' := by
  obtain ⟨turns', c, doing, hgateway, -, hcoupled⟩ :=
    (deployment_simulation X time life).reach (.start (by rw [hinitial, hsynced]; exact h.fits))
      hreach
  obtain ⟨took, hjournal, htaken⟩ := hcoupled.journal
  obtain ⟨kept, hkept, hcontent⟩ := events_of_cut h.cut hends
  have hnew : ∀ event ∈ took.map Prod.snd, life.Wrote X time event := by
    intro event hevent
    obtain ⟨x, hx, rfl⟩ := List.mem_map.mp hevent
    exact hcoupled.wrote hgateway (htaken.attempts x hx)
  have hlength : f.shared.disk.stored.length = f.shared.disk.synced := by
    rw [AuditDisk.stored, List.length_take, Nat.min_eq_left hjournal.synced]
  have hstored : left.take f.shared.disk.synced = f.shared.disk.stored := by
    rw [← hlength]
    exact (List.prefix_iff_eq_take.mp hleft.stored).symm
  refine ⟨kept ++ took.map Prod.snd, ?_, ?_, ?_, ?_, ?_, ?_⟩
  · rw [← hlength]
    exact hleft.stored.length_le
  · rw [List.flatMap_append, List.flatMap_map, ← hcontent, ← hinitial]
    exact hleft.taken.trans hjournal.part
  · rw [List.map_append, List.nodup_append, List.map_map]
    refine ⟨h.distinct.sublist (hkept.sublist.map _), TakenFrom.distinct hcoupled hgateway htaken,
      ?_⟩
    rintro id hold _ hlast rfl
    obtain ⟨event, hevent, rfl⟩ := List.mem_map.mp hold
    obtain ⟨x, hx, hsame⟩ := List.mem_map.mp hlast
    obtain ⟨life', hlife', hwrote⟩ := h.wrote event (hkept.subset hevent)
    have hidentity : life'.runToken = life.runToken := by
      rw [← hwrote.identity, ← hsame]
      exact (hnew x.2 (List.mem_map_of_mem hx)).identity
    exact htoken (hidentity ▸ List.mem_map_of_mem hlife')
  · intro event hevent
    rcases List.mem_append.mp hevent with hold | hnow
    · obtain ⟨life', hlife', hwrote⟩ := h.wrote event (hkept.subset hold)
      exact ⟨life', List.mem_cons_of_mem _ hlife', hwrote⟩
    · exact ⟨life, List.mem_cons_self, hnew event hnow⟩
  · intro event hevent
    rcases List.mem_append.mp hevent with hold | hnow
    · exact List.mem_append_left _ (h.mem_kept hkept hcontent hold)
    · exact List.mem_append_right _
        (hcoupled.taken hgateway hjournal htaken (LogFile.mem_acknowledged.mp hnow))
  · intro event hevent
    rw [hstored]
    rcases List.mem_append.mp hevent with hold | hnow
    · obtain ⟨front, hfront, hline⟩ := h.stored event hold
      rw [← hinitial, ← hsynced] at hline
      exact ⟨front, hfront, hline.trans hcoupled.kept⟩
    · exact hcoupled.stored (hinitial ▸ hends) (LogFile.mem_acknowledged.mp hnow)

/-- The invariant holds over any number of lives. -/
lemma Lives.inv (h : Lives ι X time parse path content synced acknowledged lives) :
    ∃ events, LivesInv X time content.data synced acknowledged lives events := by
  induction h with
  | fresh => exact ⟨[], .nil⟩
  | life before life initial stored token accepted reach survives ih =>
      obtain ⟨events, hinv⟩ := ih
      obtain ⟨ids, hsound⟩ := soundLog_of_accepted accepted
      exact hinv.next initial stored token hsound.ends reach survives

omit [DecidableEq ι] in
/-- The lines of the events are a sound log, if the requests of the lives read back. -/
lemma LivesInv.sound (h : LivesInv X time content.data synced acknowledged lives events)
    (hparse : ReadsEvents parse) (hlives : ∀ life ∈ lives, life.ReadsBack X) :
    ∃ ids, SoundLog X time parse (events.flatMap AuditEvent.line) ids := by
  have hrecorded : ∀ event ∈ events, event.Recorded X time parse := by
    intro event hevent
    obtain ⟨life, hlife, hwrote⟩ := h.wrote event hevent
    exact hwrote.recorded hparse (hlives life hlife)
  have hshown := h.distinct.map RequestId.display_injective
  rw [List.map_map] at hshown
  exact ⟨_, SoundLog.nil.appendEvents hrecorded hshown⟩

omit [DecidableEq ι] in
/-- A line that was acknowledged stands once. -/
lemma LivesInv.count_line (h : LivesInv X time content.data synced acknowledged lives events)
    {event : AuditEvent} (hevent : event ∈ acknowledged) :
    (readLines content.data).count event.line = 1 := by
  obtain ⟨front, hfront, hline⟩ := h.stored event hevent
  have hmem := line_mem_readLines hfront (hline.trans (List.take_prefix _ _))
  obtain ⟨done, rest, hlines, hdone, hrest⟩ := readLines_cut h.cut
  rw [readLines_lines] at hdone
  rw [hlines] at hmem ⊢
  have hnotRest : event.line ∉ rest := fun hmem => hrest _ hmem List.getLast?_concat
  have hinDone : event.line ∈ done := (List.mem_append.mp hmem).resolve_right hnotRest
  rw [List.count_append, List.count_eq_zero.mpr hnotRest,
    List.count_eq_one_of_mem ((nodup_lines h.distinct).sublist hdone.sublist) hinDone]

end Lives

/-- **The audit log over the lives of a gateway.** Gateways run one after another, each with a run
token of its own, on what the one before left; each stops anywhere, with handlers dropped and writes
failing at any call before, and loses any of the file that is not on stable storage. If the targets
of their requests and their origins read back, the next start accepts what is left where it ends in
a newline; where it does not, the next start finds it torn; and the line of every event whose append
returned `Ok`, in any of the lives, stands in it once. -/
theorem log_over_lives {P ι : Type} [DecidableEq ι] (X : Crates) (time : Humantime)
    (parse : JsonParser) (hparse : ReadsEvents parse) (path : P) (content : FileBytes)
    (synced : Nat) (acknowledged : List AuditEvent) (lives : List (Life ι))
    (hlives : Lives ι X time parse path content synced acknowledged lives) :
    ((∀ life ∈ lives, life.ReadsBack X) → EndsLine content.data → ∃ reader,
        inspectAuditLog X time parse (fun _ => none) path content.data = some (.ok reader)) ∧
      (¬ EndsLine content.data →
        inspectAuditLog X time parse (fun _ => none) path content.data =
          some (.error (.tornLog path))) ∧
      ∀ event ∈ acknowledged, (readLines content.data).count event.line = 1 := by
  obtain ⟨events, hinv⟩ := hlives.inv
  refine ⟨fun hreadsBack hends => ?_, startVerdict_of_torn, fun event => hinv.count_line⟩
  obtain ⟨ids, hsound⟩ := hinv.sound hparse hreadsBack
  have hverdict : AcceptedOrTorn X time parse path content.data :=
    hsound.acceptedOrTorn hinv.cut content.fits
  exact hverdict.1 hends

/-- The life that denies a `CONNECT` request, on an empty log; it stops behind the append. -/
lemma lives_connect : ∃ event content,
    Lives Unit Reference.crates Reference.humantime Json.readBytes () content event.line.length
      [event] [connectLife] ∧ content.data = event.line := by
  obtain ⟨event, turns, f, hreach, -, -, hlog, hsynced, hline⟩ := reach_connectLife
  have hfits : event.line.length ≤ Text.isizeMax := hline.trans (by decide)
  have hstored : f.shared.disk.stored = event.line := by
    rw [AuditDisk.stored, hlog, hsynced]
    exact List.take_length
  have hsurvives : f.shared.disk.Survives event.line := by
    refine ⟨hstored ▸ List.prefix_rfl, ?_⟩
    rw [hlog]
    exact List.prefix_append _ _
  have haccepted : inspectAuditLog Reference.crates Reference.humantime Json.readBytes
      (fun _ => none) () [] = some (.ok _) := rfl
  have hlives : Lives Unit Reference.crates Reference.humantime Json.readBytes ()
      ⟨event.line, hfits⟩ _ _ [connectLife] :=
    .life .fresh connectLife rfl rfl List.not_mem_nil haccepted hreach hsurvives
  rw [hsynced] at hlives
  rw [LogFile.acknowledged, hlog] at hlives
  exact ⟨event, _, hlives, rfl⟩

/-- It is accepted, and the denial stands in it once. -/
theorem log_over_lives_connect : ∃ event content,
    Lives Unit Reference.crates Reference.humantime Json.readBytes () content event.line.length
      [event] [connectLife] ∧
      (∃ reader, inspectAuditLog Reference.crates Reference.humantime Json.readBytes
        (fun _ => none) () content.data = some (.ok reader)) ∧
      (readLines content.data).count event.line = 1 := by
  obtain ⟨event, content, hlives, hcontent⟩ := lives_connect
  obtain ⟨haccepted, -, honce⟩ := log_over_lives Reference.crates Reference.humantime
    Json.readBytes readsEvents_readBytes () content _ _ _ hlives
  have hreadsBack : connectLife.ReadsBack Reference.crates :=
    ⟨fun _ => .connect rfl, UpstreamOrigin.roundTrips_of_parsed Reference.parse_origin⟩
  refine ⟨event, content, hlives, haccepted (List.forall_mem_singleton.mpr hreadsBack) ?_,
    honce event List.mem_cons_self⟩
  rw [hcontent]
  exact endsLine_line event

end Custode
