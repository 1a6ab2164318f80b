import EdgeGateway.GatewayError

/-!
# Errors of the store

Why a store could not answer.  Towards the gateway every one of them means that
the store is unavailable.
-/

namespace EdgeGateway.Store

inductive Error where
  | connection (message : Explanation)
  | query (message : Explanation)
  | decode (message : Explanation)
  | unavailable
  deriving Repr, DecidableEq

namespace Error

def explain : Error → Explanation
  | connection message => message.after "Store connection error: "
  | query message => message.after "Store query error: "
  | decode message => message.after "Row decode error: "
  | unavailable => "Store unavailable"

def toGatewayError (error : Error) : GatewayError :=
  .storeUnavailable "relational" error.explain

end Error

end EdgeGateway.Store
