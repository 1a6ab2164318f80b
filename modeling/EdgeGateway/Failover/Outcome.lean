import EdgeGateway.Text.Numeral

/-!
# Outcomes of forwarded requests

How a call to a target ended.  Only the statuses of the server error class and
calls without an answer speak against the region; each of them has a cause.
-/

namespace EdgeGateway.Failover

inductive Cause where
  | status (code : Nat)
  | transport (message : String)
  | timeout
  | cacheConnection (message : String)
  deriving Repr, DecidableEq

namespace Cause

def label : Cause → String
  | status _ => "upstream_status"
  | transport _ => "transport"
  | timeout => "timeout"
  | cacheConnection _ => "cache_connection"

def message : Cause → String
  | status code => s!"upstream returned {Text.decimal code}"
  | transport message => s!"transport error: {message}"
  | timeout => "upstream timed out"
  | cacheConnection message => s!"cache connection error: {message}"

end Cause

inductive Outcome where
  | success (code : Nat)
  | backendError (code : Nat)
  | transportError (message : String)
  | timedOut
  deriving Repr, DecidableEq

namespace Outcome

def ofStatus (code : Nat) : Outcome :=
  if 500 ≤ code ∧ code < 600 then backendError code else success code

def label : Outcome → String
  | success _ => "success"
  | backendError _ => "upstream_error"
  | transportError _ => "transport_error"
  | timedOut => "timeout"

def cause? : Outcome → Option Cause
  | success _ => none
  | backendError code => some (.status code)
  | transportError message => some (.transport message)
  | timedOut => some .timeout

end Outcome

end EdgeGateway.Failover
