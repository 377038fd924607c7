import Custode.Audit.Verifiable
import Custode.System.Lives

/-!
# The script on the log of the lives

What the lives of a gateway leave is checked by `scripts/verify-audit-log.sh` before the next start,
or in place of it. The script has a JSON parser of its own.

* `verifyFile_lines` — the lines of events pass the checks that their values pass.
* `lives_verified` — the script accepts the file if it ends in a newline, having read every event
  whose append returned `Ok`, and says that it does not end in one otherwise. Unlike the startup
  validation it does so for every request and origin.
-/

namespace Custode

open Found

/-! ## What the script reads -/

section Script

variable {parse : JsonParser} {jq : Jq}

/-- The values of the lines of events. -/
lemma isLineValue_lines (hparse : ReadsEvents parse) (events : List AuditEvent) :
    List.Forall₂ (Script.IsLineValue parse) (events.map AuditEvent.line)
      (events.map AuditEvent.json) := by
  rw [List.forall₂_map_left_iff, List.forall₂_map_right_iff, List.forall₂_same]
  intro event _
  refine ⟨[], ?_, rfl⟩
  rw [AuditEvent.line, List.dropLast_concat]
  exact hparse event

/-- The script reads the JSON of the events. -/
lemma readObjects_lines (hparse : ReadsEvents parse) (events : List AuditEvent) :
    Script.readObjects parse (events.map AuditEvent.line) 1 = .ok (events.map AuditEvent.json) := by
  rw [Script.readObjects_eq (isLineValue_lines hparse events),
    requireValidNdjson_of_plain (plain_of_mem_json events)]
  rfl

/-- The lines of events pass the checks that their values pass. -/
lemma verifyFile_lines (hparse : ReadsEvents parse) {events : List AuditEvent}
    (h : Script.verifyAuditLog jq (events.map AuditEvent.json) = .ok ()) :
    Script.verifyFile jq parse (events.flatMap AuditEvent.line) = .ok () := by
  have hvalues := isLineValue_lines hparse events
  rw [← readLines_lines] at hvalues
  rw [Script.verifyFile_eq (endsLine_lines events) hvalues, h]
  rfl

end Script

/-- **The script verifies what the gateway wrote.** Over any number of lives, with any requests and
origins, each stopped anywhere and with writes failing at any call, the file that is left is
verified by the script if it ends in a newline, and only then: its lines are those of events that
the gateway built for requests of the lives, each under an identity with the run token of its life
and at a time that the clock showed, and the script reads all of them, those whose append returned
`Ok` among them. A file that is torn fails the script's first check. -/
theorem lives_verified {P ι : Type} [DecidableEq ι] (X : Crates) (time : Humantime) (jq : Jq)
    (parse : JsonParser) (read : JsonParser) (hread : ReadsEvents read) (path : P)
    (content : FileBytes) (synced : Nat) (acknowledged : List AuditEvent) (lives : List (Life ι))
    (hlives : Lives ι X time parse path content synced acknowledged lives) :
    (EndsLine content.data →
      Script.verifyFile jq read content.data = .ok () ∧ ∃ events : List AuditEvent,
        content.data = events.flatMap AuditEvent.line ∧
        (∀ event ∈ events, ∃ life ∈ lives, life.Wrote X time event) ∧
        Script.readObjects read (readLines content.data) 1 = .ok (events.map AuditEvent.json) ∧
        ∀ event ∈ acknowledged, event ∈ events) ∧
      (¬ EndsLine content.data →
        Script.verifyFile jq read content.data = .error .notNewlineTerminated) := by
  refine ⟨?_, Script.verifyFile_of_torn⟩
  intro hends
  obtain ⟨events, hinv⟩ := hlives.inv
  obtain ⟨kept, hkept, hcontent⟩ := events_of_cut hinv.cut hends
  have hwrote : ∀ event ∈ kept, ∃ life ∈ lives, life.Wrote X time event := fun event hevent =>
    hinv.wrote event (hkept.subset hevent)
  have hverified : Script.verifyAuditLog jq (kept.map AuditEvent.json) = .ok () := by
    refine verifyAuditLog_json ?_ (hinv.distinct.sublist (hkept.sublist.map _))
    intro event hevent
    obtain ⟨life, -, ⟨i, hdecided⟩, -, hshown⟩ := hwrote event hevent
    exact ⟨hdecided.concluded, hshown.fits⟩
  refine ⟨?_, kept, hcontent, hwrote, ?_, fun event => hinv.mem_kept hkept hcontent⟩
  · rw [hcontent]
    exact verifyFile_lines hread hverified
  · rw [hcontent, readLines_lines]
    exact readObjects_lines hread kept

/-- The script verifies the log of one refused request. -/
theorem lives_verified_connect : ∃ event content,
    Lives Unit Reference.crates Reference.humantime Json.readBytes () content event.line.length
      [event] [connectLife] ∧
      Script.verifyFile Reference.jqNumbers Json.readBytes content.data = .ok () := by
  obtain ⟨event, content, hlives, hcontent⟩ := lives_connect
  have hverified := (lives_verified Reference.crates Reference.humantime Reference.jqNumbers
    Json.readBytes Json.readBytes readsEvents_readBytes () content _ _ _ hlives).1
  refine ⟨event, content, hlives, (hverified ?_).1⟩
  rw [hcontent]
  exact endsLine_line event

end Custode
