import EdgeGateway.Explanation
import EdgeGateway.Text.Numeral

/-!
# Errors of the gateway

Most failures never reach a client: the parts in front of the proxy fall back to
a safe answer.  Each error has a kind, a status for the client that does see it,
and an explanation.
-/

namespace EdgeGateway

inductive GatewayError where
  | configuration (message : Explanation)
  | storeUnavailable (store : String) (reason : Explanation)
  | policyRejection (reason : String)
  | misconfiguration (message : String)
  | preconditionFailed (reason : String)
  | invalidRequest (field reason : String)
  | noRoute (method path : String)
  | backend (message : Explanation)
  | timeout (millis : Nat)
  | internal (message : Explanation)
  | io (message : String)
  | json (message : Explanation)
  | yaml (message : Explanation)
  deriving Repr, DecidableEq

namespace GatewayError

def explain : GatewayError → Explanation
  | configuration message => message.after "Configuration error: "
  | storeUnavailable store reason =>
      reason.after s!"Store unavailable: {store} - "
  | policyRejection reason => s!"Policy rejection: {reason}"
  | misconfiguration message => s!"Misconfiguration: {message}"
  | preconditionFailed reason => s!"Precondition failed: {reason}"
  | invalidRequest field reason => s!"Invalid request: {field} - {reason}"
  | noRoute method path => s!"No route matched: {method} {path}"
  | backend message => message.after "Upstream error: "
  | timeout millis => s!"Upstream timeout after {Text.decimal millis}ms"
  | internal message => message.after "Internal error: "
  | io message => s!"I/O error: {message}"
  | json message => message.after "JSON error: "
  | yaml message => message.after "YAML error: "

def message (error : GatewayError) : String := error.explain.full

def kind : GatewayError → String
  | configuration _ => "configuration_error"
  | storeUnavailable _ _ => "store_unavailable"
  | policyRejection _ => "policy_rejection"
  | misconfiguration _ => "misconfiguration"
  | preconditionFailed _ => "precondition_failed"
  | invalidRequest _ _ => "invalid_request"
  | noRoute _ _ => "no_route"
  | backend _ => "upstream_error"
  | timeout _ => "timeout"
  | internal _ => "internal_error"
  | io _ => "io_error"
  | json _ => "json_error"
  | yaml _ => "yaml_error"

def status : GatewayError → Nat
  | policyRejection _ => 403
  | preconditionFailed _ => 412
  | invalidRequest _ _ => 400
  | noRoute _ _ => 404
  | backend _ => 502
  | timeout _ => 504
  | storeUnavailable _ _ => 503
  | json _ => 400
  | _ => 500

end GatewayError

end EdgeGateway
