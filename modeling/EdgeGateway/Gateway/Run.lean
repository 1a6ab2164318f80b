import EdgeGateway.Failover.Operation
import EdgeGateway.Gateway.Forwarding

/-!
# A gateway at work

Everything that can happen to a gateway, as a value: requests and the ends of
forwarded calls, the wishes of operators, changes of the store, and the passing
of time.  A run is a list of such events.
-/

namespace EdgeGateway.Gateway

open Observe (Counter)

inductive Event where
  | wait (span : Duration)
  | coordinate (operation : Failover.Operation)
  | invalidate
  | replaceRows (rows : List Route.Row)
  | insertPreference (preference : Store.Preference)
  | setUnavailable (routes preferences : Bool)
  | load
  | handle (request : Http.Request)
  /-- A request whose client leaves before the answer. -/
  | abandon (request : Http.Request)
  | complete (outcome : Failover.Outcome)
  deriving Repr

/-- What the one who caused an event learns. -/
inductive Told where
  | nothing
  | coordinated (reply : Failover.Reply)
  | loaded (routes : Nat)
  | decided (context : Http.Context) (decision : Decision)
  deriving Repr

structure Stepped where
  state : State
  told : Told := .nothing
  counted : List Counter := []

/-- What a gateway draws from its surroundings when a request comes in. -/
structure Chance where
  freshId : String
  rollBelow : Nat → Nat

def step (plan : Plan) (chance : Chance) (state : State) :
    Event → Except ClockFault Stepped
  | .wait span => return { state := { state with now := state.now.advance span } }
  | .coordinate operation =>
      let applied := operation.apply plan.failover state.now state.failover
      return ⟨{ state with failover := applied.state },
        .coordinated applied.reply, applied.counted⟩
  | .invalidate =>
      let (cache, counted) := state.cache.invalidate
      return ⟨{ state with cache := cache }, .nothing, counted⟩
  | .replaceRows rows =>
      return { state := { state with store := { state.store with routes := rows } } }
  | .insertPreference preference =>
      return { state :=
        { state with store := state.store.insertPreference preference } }
  | .setUnavailable routes preferences =>
      let store :=
        { state.store with
          routesUnavailable := routes
          preferencesUnavailable := preferences }
      return { state := { state with store := store } }
  | .load =>
      let listed := state.cache.list state.now state.store
      return ⟨{ state with cache := listed.cache, store := listed.store },
        .loaded listed.routes.length, listed.counted⟩
  | .handle request => do
      let handled ←
        Gateway.handle plan chance.freshId chance.rollBelow request state
      return ⟨handled.state, .decided handled.context handled.decision,
        handled.counted⟩
  | .abandon request => do
      let handled ←
        Gateway.handle plan chance.freshId chance.rollBelow request state
      let (state, counted) := Gateway.abandon plan handled.state
      return ⟨state, .nothing, handled.counted ++ counted⟩
  | .complete outcome =>
      let (state, counted) := Gateway.complete plan outcome state
      return ⟨state, .nothing, counted⟩

/-- The state and the counters after a run. -/
def run (plan : Plan) (chance : Chance) (state : State) :
    List Event → Except ClockFault (State × List Counter)
  | [] => return (state, [])
  | event :: events => do
      let stepped ← step plan chance state event
      let (final, counted) ← run plan chance stepped.state events
      return (final, stepped.counted ++ counted)

end EdgeGateway.Gateway
