import EdgeGateway.Cors.Policy
import EdgeGateway.GatewayError
import EdgeGateway.Http.Request
import EdgeGateway.Observe.Counter
import EdgeGateway.Time.Expiring

/-!
# Preflights

Allowed preflights are remembered for a fixed time under the origin, the method,
the path and the set of headers that they ask about.  A hit does not make an
entry live longer, an expired entry is never used, and a rejection is never
remembered.
-/

namespace EdgeGateway.Cors

open Observe (Counter)

/-- Puts a name into an ascending list without repetitions. -/
def insertName (name : String) : List String → List String
  | [] => [name]
  | known :: names =>
      if name = known then known :: names
      else if name < known then name :: known :: names
      else known :: insertName name names

/-- The headers asked for: trimmed, in lower case, ascending, each once. -/
def normalizeRequestedHeaders (value : Option String) : List String :=
  let names := (Text.splitAtEvery ',' (value.getD "").toList).map fun part =>
    Text.lowerAscii (String.ofList (Text.trimChars part))
  (names.filter (· ≠ "")).foldr insertName []

structure PreflightKey where
  origin : String
  method : String
  path : String
  headers : String
  deriving Repr, DecidableEq

namespace PreflightKey

def of (origin method path : String) (requested : List String) : PreflightKey :=
  ⟨normalizeOrigin origin, Text.upperAscii (Text.trim method), path,
    Text.join "," requested⟩

end PreflightKey

/-- Remembered preflights. -/
abbrev PreflightCache := Expiring PreflightKey Allowance

/-- The policy and how long its answers are remembered. -/
structure PreflightHandler where
  policy : Policy
  ttl : Duration
  deriving Repr

namespace PreflightHandler

def ofConfig (config : Config.Cors) : PreflightHandler :=
  ⟨Policy.ofConfig config, config.effectiveCacheTtl⟩

end PreflightHandler

/-- An answer without a body. -/
structure PreflightResponse where
  headers : Http.Headers
  cacheHit : Bool
  deriving Repr, DecidableEq

structure PreflightStep where
  cache : PreflightCache
  /-- There is no answer to a request that is no preflight. -/
  answer : Option (Except GatewayError PreflightResponse)
  counted : List Counter := []

def requestMethodHeader : String := "access-control-request-method"

def requestHeadersHeader : String := "access-control-request-headers"

def isPreflight (request : Http.Request) : Bool :=
  request.method = "OPTIONS" && (request.header? "origin").isSome &&
    (request.header? requestMethodHeader).isSome

/-- What a preflight asks for. -/
structure PreflightQuestion where
  origin : String
  method : String
  requested : List String
  key : PreflightKey
  deriving Repr, DecidableEq

namespace PreflightQuestion

def ofRequest (request : Http.Request) : PreflightQuestion :=
  let origin := (request.header? "origin").getD ""
  let method := (request.header? requestMethodHeader).getD ""
  let requested :=
    normalizeRequestedHeaders (request.header? requestHeadersHeader)
  ⟨origin, method, requested,
    .of origin method request.path requested⟩

end PreflightQuestion

/-- Answers a preflight from the cache or else by the policy. -/
def handlePreflight (handler : PreflightHandler) (now : Instant)
    (request : Http.Request) (cache : PreflightCache) :
    Except ClockFault PreflightStep :=
  if !isPreflight request then .ok ⟨cache, none, []⟩
  else
    let question := PreflightQuestion.ofRequest request
    match cache.lookup now question.key with
    | (some allowance, cache) =>
        .ok ⟨cache, some (.ok ⟨allowance.headers, true⟩), [.preflightCache true]⟩
    | (none, cache) =>
        match handler.policy.evaluate question.origin question.method
            question.requested with
        | .ok allowance => do
            let cache ← cache.store now handler.ttl question.key allowance
            return ⟨cache, some (.ok ⟨allowance.headers, false⟩),
              [.preflightCache false]⟩
        | .error rejection =>
            .ok ⟨cache, some (.error (.policyRejection rejection.reason)),
              [.preflightCache false, .preflightRejections]⟩

end EdgeGateway.Cors
