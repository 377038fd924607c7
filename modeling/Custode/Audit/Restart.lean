import Custode.Audit.Agreement
import Custode.Audit.ReadBack

/-!
# A log across restarts

A gateway only ever appends lines to the log that its start accepted, and a crash can cut them
anywhere. `SoundLog` is what a start accepts, with the request identities of its lines; it is kept
by every append of a line that reads back with a new identity, and a cut of a sound log is sound
again or torn.

* `readLines_append_of_endsLine` — the lines of a log that was appended to.
* `events_of_cut` — a cut of the lines of events at the end of a line is the lines of the first
  ones.
* `soundLog_of_accepted`, `SoundLog.accepted` — an inspection without faults accepts exactly the
  sound logs.
* `SoundLog.appendEvents` — the log behind a list of events.
* `cut_log_accepted_or_torn` — a start never calls a cut of an accepted log corrupt.
-/

namespace Custode

open Found Found.Text

/-! ## Lines -/

/-- A newline ends a line. -/
lemma readLines_newline (rest : List UInt8) :
    readLines (newline :: rest) = [newline] :: readLines rest := if_pos rfl

/-- Any other byte is the first of its line. -/
lemma readLines_byte {byte : UInt8} (hbyte : byte ≠ newline) {rest line : List UInt8}
    {lines : List (List UInt8)} (h : readLines rest = line :: lines) :
    readLines (byte :: rest) = (byte :: line) :: lines := by
  rw [readLines, if_neg hbyte, h]

/-- A log with bytes has a line. -/
lemma readLines_ne_nil {content : List UInt8} (h : content ≠ []) : readLines content ≠ [] := by
  obtain ⟨byte, rest, rfl⟩ := List.exists_cons_of_ne_nil h
  unfold readLines
  split
  · exact List.cons_ne_nil _ _
  · split <;> exact List.cons_ne_nil _ _

/-- A log that ends in a newline, and what was appended to it, have their lines apart. -/
lemma readLines_append_of_endsLine {front : List UInt8} (h : EndsLine front)
    (rest : List UInt8) : readLines (front ++ rest) = readLines front ++ readLines rest := by
  induction front with
  | nil => rfl
  | cons byte front ih =>
      have hfront : EndsLine front ∧ (byte ≠ newline → front ≠ []) := by
        rcases h with h | h
        · cases h
        · rcases front with _ | ⟨next, front⟩
          · refine ⟨.inl rfl, fun hbyte => absurd ?_ hbyte⟩
            exact Option.some.inj h
          · exact ⟨.inr (by rw [List.getLast?_cons_cons] at h; exact h), nofun⟩
      rw [List.cons_append]
      by_cases hbyte : byte = newline
      · subst hbyte
        rw [readLines_newline, readLines_newline, ih hfront.1, List.cons_append]
      · obtain ⟨line, lines, hlines⟩ :=
          List.exists_cons_of_ne_nil (readLines_ne_nil (hfront.2 hbyte))
        have hwhole : readLines (front ++ rest) = line :: (lines ++ readLines rest) := by
          rw [ih hfront.1, hlines, List.cons_append]
        rw [readLines_byte hbyte hlines, readLines_byte hbyte hwhole, List.cons_append]

/-- The lines of a cut are lines of the whole, and maybe one more that has no end. -/
lemma readLines_cut {cut whole : List UInt8} (h : cut <+: whole) :
    ∃ done rest, readLines cut = done ++ rest ∧ done <+: readLines whole ∧
      ∀ line ∈ rest, line.getLast? ≠ some newline := by
  induction cut generalizing whole with
  | nil => exact ⟨[], [], rfl, List.nil_prefix, List.forall_mem_nil _⟩
  | cons byte cut ih =>
      obtain ⟨tail, rfl⟩ := h
      obtain ⟨done, rest, hcut, hdone, hrest⟩ := ih (List.prefix_append cut tail)
      rw [List.cons_append]
      by_cases hbyte : byte = newline
      · subst hbyte
        rw [readLines_newline, readLines_newline, hcut]
        exact ⟨[newline] :: done, rest, rfl, List.cons_prefix_cons.mpr ⟨rfl, hdone⟩, hrest⟩
      · rcases done with _ | ⟨line, done⟩
        · -- the cut has no end of a line
          refine ⟨[], readLines (byte :: cut), rfl, List.nil_prefix, ?_⟩
          rcases rest with _ | ⟨line, rest⟩
          · obtain rfl : cut = [] := by
              by_contra hne
              exact readLines_ne_nil hne hcut
            rintro line hline
            rw [readLines, if_neg hbyte] at hline
            rw [List.mem_singleton.mp hline]
            simpa using hbyte
          · rw [readLines_byte hbyte hcut, List.forall_mem_cons]
            refine ⟨?_, fun other hother => hrest other (List.mem_cons_of_mem _ hother)⟩
            rcases line with _ | ⟨next, line⟩
            · simpa using hbyte
            · rw [List.getLast?_cons_cons]
              exact hrest _ List.mem_cons_self
        · obtain ⟨others, hwhole⟩ := hdone
          rw [readLines_byte hbyte hcut]
          rw [List.cons_append] at hwhole
          rw [readLines_byte hbyte hwhole.symm]
          exact ⟨(byte :: line) :: done, rest, rfl, List.prefix_append _ _, hrest⟩

/-- The line of an event. -/
lemma readLines_line (event : AuditEvent) : readLines event.line = [event.line] :=
  readLines_append (newline_notMem_serializeJsonEvent event) []

/-- The line of an event ends in a newline. -/
lemma endsLine_line (event : AuditEvent) : EndsLine event.line := .inr List.getLast?_concat

/-- A line behind others is one of the lines. -/
lemma line_mem_readLines {front content : List UInt8} (hfront : EndsLine front) {event : AuditEvent}
    (hline : front ++ event.line <+: content) : event.line ∈ readLines content := by
  obtain ⟨rest, rfl⟩ := hline
  rw [List.append_assoc, readLines_append_of_endsLine hfront,
    readLines_append_of_endsLine (endsLine_line event), readLines_line]
  simp

/-! ## Lines of events -/

/-- What is left of a line, up to a newline, is nothing or all of it. -/
lemma eq_line_of_cut {event : AuditEvent} {cut : List UInt8} (hcut : cut <+: event.line)
    (hends : EndsLine cut) : cut = [] ∨ cut = event.line := by
  rcases hends with rfl | hlast
  · exact .inl rfl
  · refine .inr ?_
    rw [AuditEvent.line, List.prefix_concat_iff] at hcut
    rcases hcut with hwhole | hpart
    · exact hwhole
    · have hmem : newline ∈ cut := List.mem_of_getLast? hlast
      exact absurd (hpart.subset hmem) (newline_notMem_serializeJsonEvent event)

/-- A cut at the end of a line. -/
lemma events_of_cut {events : List AuditEvent} {cut : List UInt8}
    (hcut : cut <+: events.flatMap AuditEvent.line) (hends : EndsLine cut) :
    ∃ kept, kept <+: events ∧ cut = kept.flatMap AuditEvent.line := by
  induction events generalizing cut with
  | nil => exact ⟨[], List.nil_prefix, List.prefix_nil.mp hcut⟩
  | cons event events ih =>
      rw [List.flatMap_cons] at hcut
      rcases List.prefix_or_prefix_of_prefix hcut (List.prefix_append _ _) with hfirst | hfirst
      · rcases eq_line_of_cut hfirst hends with rfl | rfl
        · exact ⟨[], List.nil_prefix, rfl⟩
        · exact ⟨[event], List.cons_prefix_cons.mpr ⟨rfl, List.nil_prefix⟩, by simp⟩
      · obtain ⟨rest, rfl⟩ := hfirst
        have hrest : EndsLine rest := by
          by_cases hempty : rest = []
          · exact .inl hempty
          · rcases hends with hnil | hlast
            · exact absurd (List.append_eq_nil_iff.mp hnil).2 hempty
            · rw [List.getLast?_append_of_ne_nil _ hempty] at hlast
              exact .inr hlast
        obtain ⟨kept, hkept, rfl⟩ := ih ((List.prefix_append_right_inj _).mp hcut) hrest
        exact ⟨event :: kept, List.cons_prefix_cons.mpr ⟨rfl, hkept⟩, rfl⟩

/-- Lines of events end in a newline. -/
lemma endsLine_lines (events : List AuditEvent) : EndsLine (events.flatMap AuditEvent.line) := by
  induction events with
  | nil => exact .inl rfl
  | cons event events ih => exact (endsLine_line event).append ih

/-- They are read as they were written. -/
lemma readLines_lines (events : List AuditEvent) :
    readLines (events.flatMap AuditEvent.line) = events.map AuditEvent.line := by
  induction events with
  | nil => rfl
  | cons event events ih =>
      rw [List.flatMap_cons, readLines_append_of_endsLine (endsLine_line event), readLines_line, ih]
      rfl

/-! ## Sound logs -/

section Sound

variable {X : Crates} {time : Humantime} {parse : JsonParser} {content cut : List UInt8}
  {ids : List Text}

/-- What a start accepts: whole lines of valid events, with these identities, all different. -/
structure SoundLog (X : Crates) (time : Humantime) (parse : JsonParser) (content : List UInt8)
    (ids : List Text) : Prop where
  ends : EndsLine content
  lines : ∃ events, AcceptsLines X time parse (readLines content) events ∧
    events.map (·.requestId) = ids
  distinct : ids.Nodup

/-- An empty log is sound. -/
lemma SoundLog.nil : SoundLog X time parse [] [] := ⟨.inl rfl, ⟨[], .nil, rfl⟩, List.nodup_nil⟩

/-- The parser reads the event's line, and the event reads back. -/
structure AuditEvent.Recorded (X : Crates) (time : Humantime) (parse : JsonParser)
    (event : AuditEvent) : Prop where
  parsed : parse (serializeJsonEvent event) = some (event.json, [])
  readsBack : event.ReadsBack X time

/-- The line of a recorded event is accepted with its identity. -/
lemma AuditEvent.Recorded.fromSlice {event : AuditEvent} (h : event.Recorded X time parse) :
    ∃ fields, ExistingAuditEventFields.fromSlice X time parse event.line.dropLast =
        some (.ok fields) ∧ fields.requestId = event.requestId.display := by
  obtain ⟨fields, hread, hid, hvalid⟩ := h.readsBack
  refine ⟨fields, ?_, hid⟩
  rw [AuditEvent.line, List.dropLast_concat]
  exact fromSlice_of_read h.parsed hread hvalid

/-- One more line. -/
lemma SoundLog.append (h : SoundLog X time parse content ids) {event : AuditEvent}
    (hevent : event.Recorded X time parse) (hnew : event.requestId.display ∉ ids) :
    SoundLog X time parse (content ++ event.line) (ids ++ [event.requestId.display]) := by
  obtain ⟨events, hlines, rfl⟩ := h.lines
  obtain ⟨fields, hline, hid⟩ := hevent.fromSlice
  refine ⟨h.ends.append (endsLine_line event), ⟨events ++ [fields], ?_, ?_⟩, ?_⟩
  · rw [readLines_append_of_endsLine h.ends, readLines_line]
    exact List.rel_append hlines (.cons hline .nil)
  · rw [List.map_append, List.map_singleton, hid]
  · rw [List.nodup_append]
    refine ⟨h.distinct, List.nodup_singleton _, ?_⟩
    rintro id hmem _ hlast rfl
    rw [List.mem_singleton.mp hlast] at hmem
    exact hnew hmem

/-- The lines of a list of events with new identities. -/
lemma SoundLog.appendEvents (h : SoundLog X time parse content ids) {events : List AuditEvent}
    (hevents : ∀ event ∈ events, event.Recorded X time parse)
    (hnew : (ids ++ events.map fun event => event.requestId.display).Nodup) :
    SoundLog X time parse (content ++ events.flatMap AuditEvent.line)
      (ids ++ events.map fun event => event.requestId.display) := by
  induction events generalizing content ids with
  | nil => simpa using h
  | cons event events ih =>
      rw [List.map_cons, List.append_cons] at hnew ⊢
      rw [List.flatMap_cons, ← List.append_assoc]
      have hfresh : event.requestId.display ∉ ids := by
        have hfront := (List.nodup_append.mp hnew).1
        rw [List.nodup_append] at hfront
        exact fun hmem => hfront.2.2 _ hmem _ (List.mem_singleton_self _) rfl
      exact ih (h.append (hevents event List.mem_cons_self) hfresh)
        (fun later hlater => hevents later (List.mem_cons_of_mem _ hlater)) hnew

/-- A cut at the end of a line is sound. -/
lemma SoundLog.of_cut (h : SoundLog X time parse content ids) (hcut : cut <+: content)
    (hends : EndsLine cut) : ∃ kept, kept <+: ids ∧ SoundLog X time parse cut kept := by
  obtain ⟨rest, rfl⟩ := hcut
  obtain ⟨events, hlines, rfl⟩ := h.lines
  rw [readLines_append_of_endsLine hends] at hlines
  have hfront := (List.forall₂_take_append _ _ _ hlines.flip).flip
  refine ⟨_, ?_, hends, ⟨_, hfront, rfl⟩, ?_⟩
  · exact (List.take_prefix _ events).map _
  · exact h.distinct.sublist ((List.take_sublist _ events).map _)

end Sound

/-! ## Starts -/

section Starts

variable {P : Type} {X : Crates} {time : Humantime} {parse : JsonParser} {path : P}

variable (X time parse path) in
/-- What a start makes of a log when no call to the file fails. -/
def startVerdict (content : List UInt8) : Option (Except (InspectError P) LogReader) :=
  inspectAuditLog X time parse (fun _ => none) path content

/-- A sound log is accepted. -/
lemma SoundLog.accepted {content : List UInt8} {ids : List Text}
    (h : SoundLog X time parse content ids) (hfits : content.length ≤ isizeMax) :
    ∃ reader, startVerdict X time parse path content = some (.ok reader) := by
  rcases h.ends with rfl | hlast
  · exact ⟨_, rfl⟩
  · have hne : content ≠ [] := by
      rintro rfl
      cases hlast
    obtain ⟨events, hlines, rfl⟩ := h.lines
    exact ⟨_, (inspectAuditLog_ok_iff (show (FileBytes.mk content hfits).data ≠ [] from hne)).mpr
      ⟨hlast, fun _ _ => rfl,
        ⟨fun _ _ => rfl, events, hlines, h.distinct, fun _ _ => List.not_mem_nil⟩, rfl, rfl⟩⟩

/-- An accepted log is sound, whichever calls could have failed. -/
lemma soundLog_of_accepted {faults : Faults} {content : FileBytes} {reader : LogReader}
    (h : inspectAuditLog X time parse faults path content.data = some (.ok reader)) :
    ∃ ids, SoundLog X time parse content.data ids := by
  by_cases hne : content.data = []
  · rw [hne]
    exact ⟨[], .nil⟩
  · obtain ⟨hlast, -, hreaches, -⟩ := (inspectAuditLog_ok_iff hne).mp h
    obtain ⟨events, hlines, hdistinct, -⟩ := hreaches.accepted
    exact ⟨_, .inr hlast, ⟨events, hlines, rfl⟩, hdistinct⟩

/-- A log that ends within a line is torn. -/
lemma startVerdict_of_torn {content : List UInt8} (h : ¬ EndsLine content) :
    startVerdict X time parse path content = some (.error (.tornLog path)) := by
  obtain ⟨reader, htail⟩ := @classifyAuditLogTail_total (fun _ => none)
    (fun _ => rfl) content
  rw [(endOf_eq_torn_iff content).mpr h] at htail
  rw [startVerdict, inspectAuditLog, htail]

variable (X time parse path) in
/-- A start accepts the log if it ends in a newline, and finds it torn otherwise. -/
def AcceptedOrTorn (content : List UInt8) : Prop :=
  (EndsLine content → ∃ reader, startVerdict X time parse path content = some (.ok reader)) ∧
    (¬ EndsLine content → startVerdict X time parse path content = some (.error (.tornLog path)))

/-- Every cut of a sound log. -/
lemma SoundLog.acceptedOrTorn {content cut : List UInt8} {ids : List Text}
    (h : SoundLog X time parse content ids) (hcut : cut <+: content)
    (hfits : cut.length ≤ isizeMax) : AcceptedOrTorn X time parse path cut := by
  refine ⟨?_, startVerdict_of_torn⟩
  intro hends
  obtain ⟨kept, -, hsound⟩ := h.of_cut hcut hends
  exact hsound.accepted hfits

end Starts

/-- **Crashes in the middle of an append.** A log that an inspection accepted may be cut anywhere:
the next start accepts what is left if that ends in a newline, and finds it torn otherwise. It never
calls it corrupt, and never panics. -/
theorem cut_log_accepted_or_torn {P : Type} (X : Crates) (time : Humantime) (parse : JsonParser)
    (faults : Faults) (path : P) (content : FileBytes) (reader : LogReader)
    (haccepted : inspectAuditLog X time parse faults path content.data = some (.ok reader))
    (cut : List UInt8) (hcut : cut <+: content.data) :
    (EndsLine cut →
        ∃ reader, inspectAuditLog X time parse (fun _ => none) path cut = some (.ok reader)) ∧
      (¬ EndsLine cut → inspectAuditLog X time parse (fun _ => none) path cut =
        some (.error (.tornLog path))) := by
  obtain ⟨ids, hsound⟩ := soundLog_of_accepted haccepted
  exact hsound.acceptedOrTorn hcut (hcut.length_le.trans content.fits)

/-- The log of one refused request, cut behind its first byte. -/
theorem cut_log_torn :
    inspectAuditLog Reference.crates Reference.humantime (Reference.parser [Reference.event.json])
        (fun _ => none) () (referenceLog.data.take 1) = some (.error (.tornLog ())) := by
  have haccepted := @inspectAuditLog_singleton Unit _ _ () _ _ referenceLog rfl
    (ExistingAuditEventFields.deserialize_map read_referenceEntry) referenceFields_valid
  have hbrace : referenceLog.data.take 1 = ['{'.toUInt8] := by decide +kernel
  refine (cut_log_accepted_or_torn Reference.crates Reference.humantime _ _ () referenceLog _
    haccepted (referenceLog.data.take 1) (List.take_prefix 1 _)).2 ?_
  rw [hbrace]
  rintro (h | h)
  · cases h
  · exact absurd (Option.some.inj h) (by decide)

end Custode
