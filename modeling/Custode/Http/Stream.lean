import Custode.Gateway

/-!
# The response task

The spawned half of `http.rs`: `responseTask` streams an upstream response to the harness through a
bounded channel, one chunk behind, and audits how the stream ended.

`streamUpstreamResponse` recurses over the items that the upstream sends. Each of its awaits can end
in an `Interrupt`; the bytes accounted so far survive it, as the account is shared with the task.
-/

namespace Custode

open Found

/-- Terminal response stream outcome.
Source: `http.rs` `ResponseStreamOutcome` -/
inductive ResponseStreamOutcome where
  | allowed
  | downstreamClosed
  | responseBodyTooLarge (responseBody : OversizedResponseBody)
  | responseStreamTimeout
  | upstreamResponseStreamFailed
  | upstreamResponseTimeout
  deriving DecidableEq

/-- Post-start response stream abort that still needs an audit event.
Source: `http.rs` `ResponseStreamAbort`, `TerminalStreamError` -/
structure ResponseStreamAbort where
  outcome : ResponseStreamOutcome
  sendsTerminalError : Bool
  deriving DecidableEq

/-- Builds an abort that only needs an audit event.
Source: `http.rs` `ResponseStreamAbort::audit_only` -/
def ResponseStreamAbort.auditOnly (outcome : ResponseStreamOutcome) : ResponseStreamAbort :=
  ⟨outcome, false⟩

/-- Builds an abort that should also report a terminal stream error.
Source: `http.rs` `ResponseStreamAbort::with_terminal_error` -/
def ResponseStreamAbort.withTerminalError (outcome : ResponseStreamOutcome) :
    ResponseStreamAbort :=
  ⟨outcome, true⟩

/-- Completion state returned from the upstream response body streamer. A final chunk comes with a
reserved slot of the channel. That the audit became unavailable is an `Interrupt`.
Source: `http.rs` `ResponseStreamCompletion` -/
inductive ResponseStreamCompletion where
  | abort (abort : ResponseStreamAbort)
  | emptyAllowed
  | finalAllowed (finalChunk : Bytes)
  deriving DecidableEq

/-- Maps an upstream response body error to its audit outcome.
Source: `http.rs` `upstream_body_error_outcome` -/
def upstreamBodyErrorOutcome : UpstreamBodyErrorKind → ResponseStreamOutcome
  | .stream => .upstreamResponseStreamFailed
  | .timeout => .upstreamResponseTimeout

/-- Reports a fatal error to the serving task.
Source: `http.rs` `report_fatal_error` -/
def reportFatalError (error : GatewayError) : Async Unit := call (.sendFatal error)

namespace ResponseAuditContext

/-- The context of a new response task.
Source: `http.rs` `forward_request` -/
def initial (config : GatewayConfig) (requestBody : AccountedBody) (requestId : RequestId)
    (status : StatusCode) (target : AllowedTarget) : ResponseAuditContext where
  config := config
  requestBody := requestBody
  requestId := requestId
  responseAccount := .new config.maxResponseBytes
  status := status
  target := target
  terminalAuditFinished := false

variable (X : Crates) (context : ResponseAuditContext)

/-- The audit outcome of a terminal stream outcome.
Source: `http.rs` `ResponseAuditContext::audit` -/
def auditOutcome : ResponseStreamOutcome → ResponseAuditOutcome
  | .allowed =>
      .allowed (.fromResponseAccount X context.responseAccount) context.status
  | .downstreamClosed =>
      .downstreamClosed (.fromResponseAccount X context.responseAccount) context.status
  | .responseBodyTooLarge responseBody => .responseBodyTooLarge responseBody context.status
  | .responseStreamTimeout =>
      .responseStreamTimeout (.fromResponseAccount X context.responseAccount) context.status
  | .upstreamResponseStreamFailed =>
      .upstreamResponseStreamFailed (.fromResponseAccount X context.responseAccount) context.status
  | .upstreamResponseTimeout =>
      .upstreamResponseTimeout (.fromResponseAccount X context.responseAccount) context.status

/-- The audit input of a terminal stream outcome.
Source: `http.rs` `ResponseAuditContext::audit` -/
def auditInput (streamOutcome : ResponseStreamOutcome) : ResponseAuditInput :=
  ⟨context.auditOutcome X streamOutcome, context.requestBody, context.requestId, context.target⟩

/-- Writes the terminal response audit event.
Source: `http.rs` `ResponseAuditContext::audit` -/
def audit (streamOutcome : ResponseStreamOutcome) : Async (Except GatewayError Unit) :=
  Gateway.auditResponse X (context.auditInput X streamOutcome)

/-- Writes the terminal response audit event or reports a fatal error.
Source: `http.rs` `ResponseAuditContext::audit_after_response_started` -/
def auditAfterResponseStarted (outcome : ResponseStreamOutcome) :
    Async (Except Unit Unit × ResponseAuditContext) := do
  if context.terminalAuditFinished then return (.ok (), context)
  else
    match ← context.audit X outcome with
    | .ok () => return (.ok (), { context with terminalAuditFinished := true })
    | .error error =>
        reportFatalError error
        return (.error (), { context with terminalAuditFinished := true })

end ResponseAuditContext

/-- Sends one generic terminal stream error to the harness.
Source: `http.rs` `send_terminal_stream_error` -/
def sendTerminalStreamError : Async Unit := do
  let _ ← call (.sendError false)
  return ()

/-- Sends a stream error, within a grace time, after the terminal audit attempt completes.
Source: `http.rs` `send_stream_error` -/
def sendStreamError : Async Unit := do
  let _ ← call (.sendError true)
  return ()

/-- Audits a post-start stream abort outside the cancellable response body future.
Source: `http.rs` `handle_response_stream_abort` -/
def handleResponseStreamAbort (X : Crates) (context : ResponseAuditContext)
    (abort : ResponseStreamAbort) : Async Unit := do
  let _ ← context.auditAfterResponseStarted X abort.outcome
  if abort.sendsTerminalError then sendStreamError else return ()

/-- How a timed response stream ended: what was accounted, and the completion unless the stream was
interrupted. -/
abbrev StreamResult := ResponseAccount × Except Interrupt ResponseStreamCompletion

/-- The end of the upstream body: a withheld chunk gets a slot of the channel.
Source: `http.rs` `stream_upstream_response` -/
def finishStream (account : ResponseAccount) : Option Bytes → Async StreamResult
  | none => return (account, .ok .emptyAllowed)
  | some finalChunk => do
      match ← call .reserve with
      | .error interrupt => return (account, .error interrupt)
      | .ok false => return (account, .ok (.abort (.auditOnly .downstreamClosed)))
      | .ok true => return (account, .ok (.finalAllowed finalChunk))

/-- Sends the withheld chunk, if there is one, and goes on when that succeeded. A receiver that is
gone ends the stream with `closed`.
Source: `http.rs` `stream_upstream_response` -/
def sendPending (account : ResponseAccount) (pending : Option Bytes) (closed : ResponseStreamAbort)
    (next : Async StreamResult) : Async StreamResult :=
  match pending with
  | none => next
  | some previousChunk => do
      match ← call (.sendChunk previousChunk) with
      | .error interrupt => return (account, .error interrupt)
      | .ok false => return (account, .ok (.abort closed))
      | .ok true => next

/-- Streams the upstream response until completion or a terminal stream failure.
Source: `http.rs` `stream_upstream_response` -/
def streamUpstreamResponse (X : Crates) (account : ResponseAccount) (pending : Option Bytes) :
    List UpstreamItem → Async StreamResult
  | [] => do
      match ← call .nextItem with
      | .error interrupt => return (account, .error interrupt)
      | .ok () => finishStream account pending
  | item :: items => do
      match ← call .nextItem with
      | .error interrupt => return (account, .error interrupt)
      | .ok () =>
          match item with
          | .error kind =>
              let abort := ResponseStreamAbort.withTerminalError (upstreamBodyErrorOutcome kind)
              sendPending account pending abort (return (account, .ok (.abort abort)))
          | .ok chunk =>
              sendPending account pending (.auditOnly .downstreamClosed) do
                match ← expect (account.addChunk X chunk) with
                | .error responseBody =>
                    return (account, .ok (.abort (.withTerminalError
                      (.responseBodyTooLarge responseBody))))
                | .ok account => streamUpstreamResponse X account (some chunk) items

/-- Audits how the stream ended and tells the harness.
Source: `http.rs` `response_stream` -/
def concludeStream (X : Crates) (context : ResponseAuditContext) :
    Except Interrupt ResponseStreamCompletion → Async Unit
  | .error .auditUnavailable => sendTerminalStreamError
  | .ok (.abort abort) => handleResponseStreamAbort X context abort
  | .ok .emptyAllowed => do
      match ← context.auditAfterResponseStarted X .allowed with
      | (.ok (), _) => return ()
      | (.error (), _) => sendTerminalStreamError
  | .ok (.finalAllowed finalChunk) => do
      match ← context.auditAfterResponseStarted X .allowed with
      | (.ok (), _) => call (.sendReserved finalChunk)
      | (.error (), _) =>
          call .dropReserved
          sendTerminalStreamError
  | .error .elapsed =>
      handleResponseStreamAbort X context (.withTerminalError .responseStreamTimeout)

/-- Streams the upstream response and writes exactly one terminal audit event: the spawned task,
which drops the semaphore permit at its end.
Source: `http.rs` `response_stream` -/
def responseTask (X : Crates) (context : ResponseAuditContext) (response : UpstreamResponse) :
    Async Unit := do
  let (account, result) ← streamUpstreamResponse X context.responseAccount none response.body
  concludeStream X { context with responseAccount := account } result
  call .releasePermit

end Custode
