import EdgeGateway.Cors.Preflight
import EdgeGateway.Json.Basic

/-!
# A handler at work

A preflight handler with its clock, its cache and the task that sweeps the
cache, and what can happen to them.
-/

namespace EdgeGateway.Cors

/-- What can happen to a handler. -/
inductive Event where
  | handle (request : Http.Request)
  | wait (span : Duration)
  | purge
  deriving Repr, DecidableEq

structure PreflightRun where
  handler : PreflightHandler
  now : Instant := .start
  cache : PreflightCache := .empty
  sweeper : Option Sweeper := none
  deriving Repr

namespace PreflightRun

/-- A handler that starts now, with a task that sweeps its cache. -/
def ofHandler (handler : PreflightHandler) (every : Option Duration) :
    PreflightRun where
  handler := handler
  sweeper := every.bind fun every => Sweeper.start? every .start

def handle (request : Http.Request) (run : PreflightRun) :
    Except ClockFault (PreflightStep × PreflightRun) := do
  let step ← handlePreflight run.handler run.now request run.cache
  return (step, { run with cache := step.cache })

/-- Lets time pass, and then the task run if it is due. -/
def advance (span : Duration) (run : PreflightRun) : PreflightRun :=
  let now := run.now.advance span
  let (sweeper, cache) :=
    Sweeper.run run.sweeper now (Expiring.purge · now) run.cache
  { run with now := now, cache := cache, sweeper := sweeper }

/-- Drops what has expired, and tells how much that was. -/
def purge (run : PreflightRun) : Nat × PreflightRun :=
  let cache := run.cache.purge run.now
  (run.cache.size - cache.size, { run with cache := cache })

/-- Asks the cache alone. -/
def lookup (key : PreflightKey) (run : PreflightRun) :
    Option Allowance × PreflightRun :=
  let (found, cache) := run.cache.lookup run.now key
  (found, { run with cache := cache })

/-- Puts an answer into the cache. -/
def store (key : PreflightKey) (allowance : Allowance) (run : PreflightRun) :
    Except ClockFault PreflightRun := do
  let cache ← run.cache.store run.now run.handler.ttl key allowance
  return { run with cache := cache }

/-- What a request is answered now. -/
def answer (run : PreflightRun) (request : Http.Request) :
    Except ClockFault (Option (Except GatewayError PreflightResponse)) :=
  (run.handle request).map fun (step, _) => step.answer

/-- A request that ends in a fault has looked into the cache before. -/
def step (run : PreflightRun) : Event → PreflightRun
  | .handle request =>
      match run.handle request with
      | .ok (_, next) => next
      | .error _ => (run.lookup (PreflightQuestion.ofRequest request).key).2
  | .wait span => run.advance span
  | .purge => run.purge.2

def after (run : PreflightRun) (events : List Event) : PreflightRun :=
  events.foldl step run

end PreflightRun

def Allowance.toJson (allowance : Allowance) : Json :=
  .object
    [("allow_origin", .string allowance.allowOrigin),
     ("vary_origin", .bool allowance.varyOrigin),
     ("allow_methods", .string allowance.allowMethods),
     ("allow_headers", .ofOption .string allowance.allowHeaders),
     ("allow_credentials", .bool allowance.allowCredentials),
     ("expose_headers", .ofOption .string allowance.exposeHeaders),
     ("max_age", .ofNat allowance.maxAge)]

end EdgeGateway.Cors
