import Custode.Audit.Event
import Custode.Found.Program
import Custode.Headers

/-!
# Ports and calls

The values that cross the gateway's runtime ports (`ports.rs`), and `Call`: everything that the
handler of a request and its response task do besides computing. An asynchronous function of the
source is a `Program` over these calls.

* A call that the source awaits is one at which a handler can be dropped. Locks, permits and the
  two halves of `client.send` are separate calls, so that every await point is one.
* `Interrupt` is the answer of an await inside the timed response stream that lost the race to the
  stream's deadline or to an audit failure.
* `panic` is a call without an answer.
-/

namespace Custode

open Found

/-! ## Errors -/

/-- The kinds of `io::Error` that are told apart (`io::ErrorKind`). -/
inductive IoErrorKind where
  | alreadyExists
  | notFound
  | other
  deriving DecidableEq

/-- Audit failure of an append.
Source: `audit.rs` `AuditError` -/
inductive AuditError where
  | eventTooLarge (bytes max : Nat)
  | poisoned
  | write
  deriving DecidableEq

/-- Request identity allocation error.
Source: `ports.rs` `RequestIdError` -/
inductive RequestIdError where
  | sequenceExhausted
  deriving DecidableEq

/-- Gateway runtime error.
Source: `gateway.rs` `GatewayError` -/
inductive GatewayError where
  | audit (error : AuditError)
  | auditUnavailable
  | header (error : HeaderError)
  | requestId (error : RequestIdError)
  | responseBuild
  deriving DecidableEq

/-- Upstream request failure kind.
Source: `ports.rs` `UpstreamErrorKind` -/
inductive UpstreamErrorKind where
  | connect
  | request
  | timeout
  deriving DecidableEq

/-- Upstream response body failure kind.
Source: `ports.rs` `UpstreamBodyErrorKind` -/
inductive UpstreamBodyErrorKind where
  | stream
  | timeout
  deriving DecidableEq

/-! ## Requests and responses -/

/-- A request as the server hands it over, without its body, which is read by a call. -/
structure HttpRequest where
  method : Method
  uri : Uri
  headers : HeaderMap

/-- A response to the harness. A streamed one has the receiver of the response channel as its body,
any other an empty body. -/
structure Response where
  status : StatusCode
  headers : HeaderMap
  streamed : Bool
  deriving DecidableEq

/-- A response with a status only.
Source: `http.rs` `status_response` -/
def statusResponse (status : StatusCode) : Response := ⟨status, [], false⟩

/-- Request passed to the upstream client port.
Source: `ports.rs` `UpstreamRequest` -/
structure UpstreamRequest where
  body : Bytes
  deadline : RequestTimeout
  headers : HeaderMap
  method : Method
  url : Url
  deriving DecidableEq

/-- Creates an upstream request from proof-carrying forwarding inputs.
Source: `ports.rs` `UpstreamRequest::from_target` -/
def UpstreamRequest.fromTarget (X : Crates) (target : AllowedTarget)
    (headers : ForwardedRequestHeaders) (body : AccountedBody) (deadline : RequestTimeout) :
    UpstreamRequest where
  body := body.bytes
  deadline := deadline
  headers := headers.headers
  method := target.method.method
  url := target.upstreamOrigin.joinPathQuery X target.target.path target.target.query

/-- One item of an upstream response body. -/
abbrev UpstreamItem := Except UpstreamBodyErrorKind Bytes

/-- Response returned by the upstream client port.
Source: `ports.rs` `UpstreamResponse` -/
structure UpstreamResponse where
  body : List UpstreamItem
  headers : HeaderMap
  status : StatusCode

/-- Response audit state carried until the terminal stream decision.
Source: `http.rs` `ResponseAuditContext` -/
structure ResponseAuditContext where
  config : GatewayConfig
  requestBody : AccountedBody
  requestId : RequestId
  responseAccount : ResponseAccount
  status : StatusCode
  target : AllowedTarget
  terminalAuditFinished : Bool

/-! ## Calls -/

/-- Why a wait inside the timed response stream ended early. -/
inductive Interrupt where
  | auditUnavailable
  | elapsed
  deriving DecidableEq

/-- A call of the handler or of the response task. -/
inductive Call where
  /-- `audit_failed.load(SeqCst)` -/
  | loadAuditFailed
  /-- `audit_failed.store(true, SeqCst)` -/
  | storeAuditFailed
  /-- `audit_failure.notify_waiters()` -/
  | notifyWaiters
  /-- `forwarding_gate.read_owned().await` -/
  | readGate
  /-- Dropping the read guard. -/
  | releaseReadGate
  /-- `forwarding_gate.write().await` -/
  | writeGate
  /-- Dropping the write guard. -/
  | releaseWriteGate
  /-- `concurrency.try_acquire_owned()` -/
  | tryAcquireOwned
  /-- Dropping the semaphore permit. -/
  | releasePermit
  /-- `request_ids.next_request_id()` -/
  | nextRequestId
  /-- `clock.now()` -/
  | now
  /-- `audit.append_event(event).await` -/
  | appendEvent (event : AuditEvent)
  /-- `timeout(.., AccountedBody::read_request(body, limit)).await` -/
  | readRequest (limit : RequestBodyBytes)
  /-- `client.send(request)`, up to its first await. -/
  | startSend (request : UpstreamRequest)
  /-- The rest of `client.send(request).await`. -/
  | awaitSend
  /-- `tokio::spawn` of the response task, which takes the semaphore permit along. -/
  | spawn (context : ResponseAuditContext) (response : UpstreamResponse)
  /-- The first step of a spawned response task. -/
  | started
  /-- `fatal_errors.send(error)` -/
  | sendFatal (error : GatewayError)
  /-- `stream.next().await` -/
  | nextItem
  /-- `sender.send(Ok(chunk)).await` -/
  | sendChunk (chunk : Bytes)
  /-- `sender.reserve_owned().await` -/
  | reserve
  /-- `final_permit.send(Ok(chunk))` -/
  | sendReserved (chunk : Bytes)
  /-- Dropping the reserved slot. -/
  | dropReserved
  /-- `sender.send(Err(..)).await` of the generic stream error, with or without a grace timeout. -/
  | sendError (graced : Bool)
  /-- An `expect` that failed. -/
  | panic

/-- The calls that put a chunk into the response channel. -/
def Call.SendsChunk : Call → Prop
  | sendChunk _ | sendReserved _ => True
  | _ => False

/-- The answer of a call. A timed read answers `none` when its time is up; a send or a reservation
answers `false` when the receiver is gone. -/
abbrev Call.Answer : Call → Type
  | loadAuditFailed => Bool
  | tryAcquireOwned => Bool
  | nextRequestId => Except RequestIdError RequestId
  | now => AuditTimestamp
  | appendEvent _ => Except AuditError Unit
  | readRequest _ => Option (Except RequestBodyError AccountedBody)
  | awaitSend => Except UpstreamErrorKind UpstreamResponse
  | started => ResponseAuditContext × UpstreamResponse
  | nextItem => Except Interrupt Unit
  | sendChunk _ => Except Interrupt Bool
  | reserve => Except Interrupt Bool
  | sendError _ => Bool
  | panic => Empty
  | _ => Unit

/-- An asynchronous function of the gateway. -/
abbrev Async := Program Call.Answer

/-- Makes one call. -/
abbrev call (call : Call) : Async call.Answer := Program.perform call

/-- The interrupt that an event of the timed response stream is answered with. -/
def interruptOf : Event Call.Answer → Option Interrupt
  | ⟨.nextItem, .error interrupt⟩ => some interrupt
  | ⟨.sendChunk _, .error interrupt⟩ => some interrupt
  | ⟨.reserve, .error interrupt⟩ => some interrupt
  | _ => none

/-- The events that are answered with an interrupt. -/
lemma eq_of_interruptOf {e : Event Call.Answer} {interrupt : Interrupt}
    (h : interruptOf e = some interrupt) :
    e = ⟨.nextItem, .error interrupt⟩ ∨ (∃ chunk, e = ⟨.sendChunk chunk, .error interrupt⟩) ∨
      e = ⟨.reserve, .error interrupt⟩ := by
  unfold interruptOf at h
  split at h
  · cases h
    exact .inl rfl
  · cases h
    exact .inr (.inl ⟨_, rfl⟩)
  · cases h
    exact .inr (.inr rfl)
  · cases h

/-- A future that has ended: it returned, or it panicked. -/
def Ended {α : Type} (rest : Async α) : Prop :=
  (∃ a, rest = .ret a) ∨ ∃ k, rest = .call .panic k

/-- `Option::expect` -/
def expect {α : Type} : Option α → Async α
  | some a => .ret a
  | none => .call .panic Empty.elim

end Custode
