import EdgeGateway.Gateway.Service

/-!
# Traffic

Requests side by side.  Requests come in while the calls of others are under
way, and calls end in any order; an event is what happens between two waits.  A
request that waits is known by its place in the order of arrival, and once its
call has ended or its client has left it waits no longer.
-/

namespace EdgeGateway.Gateway

open Observe (Counter)

structure Traffic where
  service : Service
  state : ServiceState
  /-- The requests in the order of their arrival, as long as they wait. -/
  waiting : List (Option Pending) := []
  counted : List Counter := []

namespace Traffic

inductive Event where
  | arrive (surroundings : Surroundings) (inbound : Inbound)
  | reply (place : Nat) (reply : Reply)
  /-- A client leaves. -/
  | leave (place : Nat)
  | listen
  | wait (span : Duration)

def arrive (traffic : Traffic) (surroundings : Surroundings)
    (inbound : Inbound) : Except ClockFault (Traffic × Option Http.Response) := do
  match ← traffic.service.begin surroundings inbound traffic.state with
  | .answered served =>
      return ({ traffic with
        state := served.state
        waiting := traffic.waiting ++ [none]
        counted := traffic.counted ++ served.counted }, some served.response)
  | .waiting pending state counted =>
      return ({ traffic with
        state := state
        waiting := traffic.waiting ++ [some pending]
        counted := traffic.counted ++ counted }, none)

/-- The request at a place, if it waits. -/
def pending? (traffic : Traffic) (place : Nat) : Option Pending :=
  traffic.waiting[place]?.join

def reply (traffic : Traffic) (place : Nat) (reply : Reply) :
    Traffic × Option Http.Response :=
  match traffic.pending? place with
  | some pending =>
      let served := traffic.service.finish pending reply traffic.state
      ({ traffic with
        state := served.state
        waiting := traffic.waiting.set place none
        counted := traffic.counted ++ served.counted }, some served.response)
  | none => (traffic, none)

def leave (traffic : Traffic) (place : Nat) : Traffic :=
  match traffic.pending? place with
  | some _ =>
      let (state, counted) := traffic.service.giveUp traffic.state
      { traffic with
        state := state
        waiting := traffic.waiting.set place none
        counted := traffic.counted ++ counted }
  | none => traffic

def listen (traffic : Traffic) : Traffic :=
  let (state, counted) := traffic.state.listen
  { traffic with state := state, counted := traffic.counted ++ counted }

def wait (span : Duration) (traffic : Traffic) : Traffic :=
  { traffic with state := traffic.state.advance span }

/-- One event, and the response that it gives rise to. -/
def step (traffic : Traffic) :
    Event → Except ClockFault (Traffic × Option Http.Response)
  | .arrive surroundings inbound => traffic.arrive surroundings inbound
  | .reply place reply => .ok (traffic.reply place reply)
  | .leave place => .ok (traffic.leave place, none)
  | .listen => .ok (traffic.listen, none)
  | .wait span => .ok (traffic.wait span, none)

/-- A run, and its responses in the order in which they were given. -/
def run (traffic : Traffic) :
    List Event → Except ClockFault (Traffic × List Http.Response)
  | [] => .ok (traffic, [])
  | event :: events => do
      let (next, response) ← traffic.step event
      let (final, responses) ← run next events
      return (final, response.toList ++ responses)

end Traffic

end EdgeGateway.Gateway
