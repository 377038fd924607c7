import Custode.Http.Decisions
import Custode.Http.Stream

/-!
# The request handler

`proxy` and the functions below it in `http.rs`, from the entry check of the audit to the response.
A request that is forwarded leaves the handler with a spawned response task, which takes the
semaphore permit along; every other exit of `handleRequest` drops the permit.
-/

namespace Custode

open Found

/-- Maps upstream errors to closed audit errors.
Source: `http.rs` `audit_upstream_error` -/
def auditUpstreamError : UpstreamErrorKind → AuditUpstreamError
  | .timeout => .timeout
  | .connect => .connect
  | .request => .request

/-- A pre-response request failure that must stop the server.
Source: `http.rs` `is_fatal_request_failure` -/
def isFatalRequestFailure : GatewayError → Bool
  | .audit _ | .auditUnavailable => true
  | _ => false

/-- A closed harness response for request handling errors.
Source: `http.rs` `report_request_failure` -/
def reportRequestFailure (error : GatewayError) : Async Response := do
  if isFatalRequestFailure error then
    reportFatalError error
  return statusResponse .internalServerError

/-- Allocates a request identity or reports an unauditable fatal failure.
Source: `http.rs` `allocate_request_id` -/
def allocateRequestId : Async (Except GatewayError RequestId) := do
  match ← call .nextRequestId with
  | .ok requestId => return .ok requestId
  | .error error =>
      reportFatalError (.requestId error)
      return .error (.requestId error)

variable (X : Crates) (config : GatewayConfig)

/-- Audits a request denial and returns its status response.
Source: `http.rs` `audit_denial_status` -/
def auditDenialStatus (requestId : RequestId) (denial : AuditDenial)
    (requestBody : Option AccountedBody) : Async (Except GatewayError Response) := do
  match ← Gateway.auditDenial X config requestId denial requestBody with
  | .error error => return .error error
  | .ok () => return .ok (statusResponse denial.status)

/-- Audits an allowlist rejection and returns the rejected target response.
Source: `http.rs` `reject_allowed_target` -/
def rejectAllowedTarget (requestId : RequestId) (denial : AuditDenial) :
    Async (Except GatewayError (Except Response AllowedTarget)) := do
  match ← auditDenialStatus X config requestId denial none with
  | .error error => return .error error
  | .ok response => return .ok (.error response)

/-- Accepts an origin-form target that is present in the allowlist.
Source: `http.rs` `accept_allowed_target` -/
def acceptAllowedTarget (requestId : RequestId) (method : Method) (uri : Uri) :
    Async (Except GatewayError (Except Response AllowedTarget)) := do
  match ← expect (targetDecision config method uri) with
  | .error denial => rejectAllowedTarget X config requestId denial
  | .ok allowedTarget => return .ok (.ok allowedTarget)

/-- Audits a response failure and returns its status response.
Source: `http.rs` `audit_response_status` -/
def auditResponseStatus (input : ResponseAuditInput) (status : StatusCode) :
    Async (Except GatewayError Response) := do
  match ← Gateway.auditResponse X input with
  | .error error => return .error error
  | .ok () => return .ok (statusResponse status)

/-- Accepted request state ready for upstream forwarding.
Source: `http.rs` `ForwardRequestInput` -/
structure ForwardRequestInput where
  requestBody : AccountedBody
  requestHeaders : ForwardedRequestHeaders
  requestId : RequestId
  target : AllowedTarget

/-- Ends with the semaphore permit dropped. -/
def droppingPermit (result : Async (Except GatewayError Response)) :
    Async (Except GatewayError Response) := do
  let result ← result
  call .releasePermit
  return result

/-- What follows the response headers of the upstream: a streamed response, with its task spawned
before the response is built.
Source: `http.rs` `forward_request` -/
def forwardResponse (input : ForwardRequestInput) (upstreamResponse : UpstreamResponse) :
    Async (Except GatewayError Response) := do
  let status := upstreamResponse.status
  match ← expect
      (forwardResponseHeaders upstreamResponse.headers config.maxResponseHeaderBytes) with
  | .error error =>
      let auditError := auditResponseHeaderError error
      droppingPermit (auditResponseStatus X ⟨.responseHeaderError auditError, input.requestBody,
        input.requestId, input.target⟩ auditError.status)
  | .ok responseHeaders =>
      let context := ResponseAuditContext.initial config input.requestBody input.requestId status
        input.target
      call (.spawn context upstreamResponse)
      if X.responseBuilds status responseHeaders.headers then
        return .ok ⟨status, responseHeaders.headers, true⟩
      else return .error .responseBuild

/-- Forwards an accepted request to the configured upstream. The read guard of the forwarding gate
is held over the send.
Source: `http.rs` `forward_request` -/
def forwardRequest (input : ForwardRequestInput) : Async (Except GatewayError Response) := do
  let upstreamRequest := UpstreamRequest.fromTarget X input.target input.requestHeaders
    input.requestBody config.requestTimeout
  match ← Gateway.beginForwarding with
  | .error error => droppingPermit (return .error error)
  | .ok () =>
      call (.startSend upstreamRequest)
      let upstreamResult ← call .awaitSend
      call .releaseReadGate
      match upstreamResult with
      | .error error =>
          let auditError := auditUpstreamError error
          droppingPermit (auditResponseStatus X ⟨.upstreamError auditError, input.requestBody,
            input.requestId, input.target⟩ auditError.status)
      | .ok upstreamResponse => forwardResponse X config input upstreamResponse

/-- What follows the accepted target: the filtered headers and the accounted body.
Source: `http.rs` `handle_request` -/
def handleAllowedTarget (requestId : RequestId) (request : HttpRequest) (target : AllowedTarget) :
    Async (Except GatewayError Response) := do
  match ← expect (forwardRequestHeaders request.headers config.maxRequestHeaderBytes) with
  | .error error =>
      droppingPermit (auditDenialStatus X config requestId
        (auditDenialFromRequestHeader request.method target.target error) none)
  | .ok requestHeaders =>
      match ← call (.readRequest config.maxRequestBytes) with
      | none =>
          droppingPermit (auditDenialStatus X config requestId
            (.requestBodyTimeout request.method (.fromAccepted target.target)) none)
      | some (.error error) =>
          droppingPermit (auditDenialStatus X config requestId
            (auditDenialFromRequestBody request.method target.target error) none)
      | some (.ok requestBody) =>
          forwardRequest X config ⟨requestBody, requestHeaders, requestId, target⟩

/-- Handles an accepted HTTP request after the concurrency permit is acquired.
Source: `http.rs` `handle_request` -/
def handleRequest (request : HttpRequest) : Async (Except GatewayError Response) := do
  match ← allocateRequestId with
  | .error error => droppingPermit (return .error error)
  | .ok requestId =>
      match ← acceptAllowedTarget X config requestId request.method request.uri with
      | .error error => droppingPermit (return .error error)
      | .ok (.error response) => droppingPermit (return .ok response)
      | .ok (.ok target) => handleAllowedTarget X config requestId request target

/-- Handles a request for which there is no permit.
Source: `http.rs` `proxy` -/
def rejectTooManyRequests (request : HttpRequest) : Async Response := do
  match ← allocateRequestId with
  | .error _ => return statusResponse .internalServerError
  | .ok requestId =>
      let target ← expect (PreparsedAuditTarget.fromRequestUri request.uri)
      match ← Gateway.auditDenial X config requestId (.tooManyRequests request.method target) none
        with
      | .error error =>
          let _ ← reportRequestFailure error
          return statusResponse .internalServerError
      | .ok () => return statusResponse AuditDenialReason.tooManyRequests.status

/-- Handles one proxied request.
Source: `http.rs` `proxy` -/
def proxy (request : HttpRequest) : Async Response := do
  match ← Gateway.requireAuditAvailable with
  | .error error =>
      reportFatalError error
      return statusResponse .internalServerError
  | .ok () =>
      if ← call .tryAcquireOwned then
        match ← handleRequest X config request with
        | .ok response => return response
        | .error error => reportRequestFailure error
      else rejectTooManyRequests X config request

end Custode
