import EdgeGateway.Failover.Directive

/-!
# Operations

Everything that can happen to the active region, as a value.  A run is a list of
operations, each with the time at which it happens.
-/

namespace EdgeGateway.Failover

open Observe (Counter)

inductive Operation where
  | fail (cause : Cause)
  | observe (outcome : Outcome)
  | reset
  | trigger
  | moveTo (region : String)
  | restore
  | operate (argument : Option String)
  deriving Repr, DecidableEq

/-- What the one who asked for an operation is told. -/
inductive Reply where
  | nothing
  | region (name : String)
  | refused (error : GatewayError)
  deriving Repr, DecidableEq

structure Applied where
  state : State
  reply : Reply
  counted : List Counter := []
  deriving Repr, DecidableEq

/-- A step whose region is reported. -/
def Step.applied (step : Step) : Applied :=
  ⟨step.state, .region step.region, step.counted⟩

namespace Operation

def apply (config : Config.Failover) (now : Instant) (state : State) :
    Operation → Applied
  | fail cause => (recordFailure config now cause state).applied
  | observe outcome =>
      let step := Failover.observe config now outcome state
      ⟨step.state, .nothing, step.counted⟩
  | reset => ⟨resetFailures config state, .nothing, []⟩
  | trigger => (triggerFailover config state).applied
  | moveTo region => (failoverTo config region state).applied
  | restore => (restorePrimary config state).applied
  | operate argument =>
      match Failover.operate config argument state with
      | .ok step => step.applied
      | .error error => ⟨state, .refused error, []⟩

end Operation

/-- The state and the counters after a run. -/
def run (config : Config.Failover) (state : State) :
    List (Instant × Operation) → State × List Counter
  | [] => (state, [])
  | (now, operation) :: operations =>
      let applied := operation.apply config now state
      let (final, counted) := run config applied.state operations
      (final, applied.counted ++ counted)

end EdgeGateway.Failover
