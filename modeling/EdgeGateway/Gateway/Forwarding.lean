import EdgeGateway.Gateway.Decision
import EdgeGateway.Http.Response

/-!
# Forwarding

A request is sent to a backend at most once, and whatever becomes of it is one
outcome that counts towards failover: the status of the answer, a timeout, or any
other failure.  A client that leaves before the answer counts as a failure too.
A body that cannot be read or is too large is refused before anything is sent,
and has no outcome.
-/

namespace EdgeGateway.Gateway

open Observe (Counter)

/-- Largest body that is forwarded, in bytes. -/
def bodyLimit : Nat := 16 * 1024 * 1024

/-- Why a body, or the failure to read it, keeps a request from being sent. -/
def bodyFault? : Except String ByteArray → Option String
  | .error reason => some reason
  | .ok bytes => if bodyLimit < bytes.size then some "length limit exceeded" else none

/-- What comes back from a backend. -/
inductive Reply where
  | answered (status : Nat) (headers : Http.Headers) (body : ByteArray)
  | timedOut
  | failed (reason : String)

def Reply.outcome : Reply → Failover.Outcome
  | answered status _ _ => .ofStatus status
  | timedOut => .timedOut
  | failed reason => .transportError reason

/-- The response in which an error is reported. -/
def errorResponse (error : GatewayError) : Http.Response :=
  .ofJson error.status <| .object
    [("error", .object
      [("code", .ofNat error.status),
       ("message", .string error.message),
       ("type", .string error.kind)])]

/-- What the client is told about the reply of a backend. -/
def Reply.response (timeout : Duration) : Reply → Http.Response
  | answered status headers body =>
      ⟨status, headers.withoutHopByHop, .passedOn body⟩
  | timedOut => errorResponse (.timeout timeout.millis)
  | failed reason =>
      let response := errorResponse (.backend (.withReason "" reason))
      { response with
        headers := response.headers.set "x-upstream-error" "transport" }

/-- Takes in the one outcome of a request that was sent. -/
def report (plan : Plan) (outcome : Failover.Outcome) (state : State) :
    State × List Counter :=
  let (state, counted) := complete plan outcome state
  (state, .backendRequests outcome.label :: counted)

/-- A client leaves before its request has been answered. -/
def abandon (plan : Plan) (state : State) : State × List Counter :=
  report plan (.transportError "client disconnected") state

end EdgeGateway.Gateway
