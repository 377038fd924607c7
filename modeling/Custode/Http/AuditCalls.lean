import Custode.Http.Stream

/-!
# The calls of auditing and of streaming

Auditing reads the clock, appends, closes the gate when the append failed, and reports. These
functions make no other call (`Call.Audits`), and the response stream makes only its own
(`Call.StreamsBody`), so that a property that none of them touches is theirs by
`Program.Makes.mono`.
-/

namespace Custode

open Found

/-- The calls that the audit functions make. -/
def Call.Audits : Call → Prop
  | now | appendEvent _ | storeAuditFailed | notifyWaiters | writeGate | releaseWriteGate
  | sendFatal _ | panic => True
  | _ => False

/-- The calls of the timed response stream. -/
def Call.StreamsBody : Call → Prop
  | nextItem | sendChunk _ | reserve | panic => True
  | _ => False

variable {X : Crates} {config : GatewayConfig} {α : Type}

/-- Expecting a value calls nothing but the panic. -/
lemma makes_expect {C : Call → Prop} (hpanic : C .panic) (value : Option α) :
    (expect value).Makes C := by
  cases value with
  | none => exact ⟨hpanic, fun r => r.elim⟩
  | some a => trivial

/-- Closing the gate makes audit calls only. -/
lemma makes_closeForwarding : Gateway.closeForwarding.Makes Call.Audits :=
  .bind (Program.makes_perform.mpr trivial) fun _ => .bind (Program.makes_perform.mpr trivial)
    fun _ => .bind (Program.makes_perform.mpr trivial) fun _ => Program.makes_perform.mpr trivial

/-- So does the required append. -/
lemma makes_appendRequiredAuditEvent (event : AuditEvent) :
    (Gateway.appendRequiredAuditEvent event).Makes Call.Audits := by
  refine .bind (Program.makes_perform.mpr trivial) ?_
  rintro (error | _)
  · exact makes_closeForwarding.bind fun _ => Program.makes_ret
  · trivial

/-- So does the audit of a denial. -/
lemma makes_auditDenial (requestId : RequestId) (denial : AuditDenial)
    (requestBody : Option AccountedBody) :
    (Gateway.auditDenial X config requestId denial requestBody).Makes Call.Audits :=
  .bind (Program.makes_perform.mpr trivial) fun _ => .bind (makes_expect trivial _) fun event =>
    makes_appendRequiredAuditEvent event

/-- So does the audit of a response. -/
lemma makes_auditResponse (input : ResponseAuditInput) :
    (Gateway.auditResponse X input).Makes Call.Audits :=
  .bind (makes_expect trivial _) fun _ => .bind (Program.makes_perform.mpr trivial) fun _ =>
    .bind (makes_expect trivial _) fun event => makes_appendRequiredAuditEvent event

/-- Reporting a fatal error is that one call. -/
lemma makes_reportFatalError {C : Call → Prop} {error : GatewayError} (h : C (.sendFatal error)) :
    (reportFatalError error).Makes C :=
  Program.makes_perform.mpr h

/-- The audit behind a started response makes audit calls only. -/
lemma makes_auditAfterResponseStarted (context : ResponseAuditContext)
    (outcome : ResponseStreamOutcome) :
    (context.auditAfterResponseStarted X outcome).Makes Call.Audits := by
  rw [ResponseAuditContext.auditAfterResponseStarted]
  split
  · trivial
  · refine .bind (makes_auditResponse _) ?_
    rintro (error | _)
    · exact .bind (makes_reportFatalError trivial) fun _ => Program.makes_ret
    · trivial

/-! ## The response stream -/

/-- Sending the pending chunk makes calls of the stream only. -/
lemma makes_sendPending {account : ResponseAccount} {pending : Option Bytes}
    {closed : ResponseStreamAbort} {next : Async StreamResult} (h : next.Makes Call.StreamsBody) :
    (sendPending account pending closed next).Makes Call.StreamsBody := by
  cases pending with
  | none => exact h
  | some chunk =>
      refine .bind (Program.makes_perform.mpr trivial) ?_
      rintro (interrupt | _ | _)
      · trivial
      · trivial
      · exact h

/-- The streaming loop, by induction on the upstream items. -/
lemma makes_streamUpstreamResponse (items : List UpstreamItem) (account : ResponseAccount)
    (pending : Option Bytes) :
    (streamUpstreamResponse X account pending items).Makes Call.StreamsBody := by
  induction items generalizing account pending with
  | nil =>
      refine .bind (Program.makes_perform.mpr trivial) ?_
      rintro (interrupt | _)
      · trivial
      · cases pending with
        | none => trivial
        | some chunk =>
            refine .bind (Program.makes_perform.mpr trivial) ?_
            rintro (interrupt | _ | _)
            · trivial
            · trivial
            · trivial
  | cons item items ih =>
      refine .bind (Program.makes_perform.mpr trivial) ?_
      rintro (interrupt | _)
      · trivial
      · cases item with
        | error kind => exact makes_sendPending trivial
        | ok chunk =>
            refine makes_sendPending (.bind (makes_expect trivial _) ?_)
            rintro (responseBody | account)
            · trivial
            · exact ih account (some chunk)

end Custode
