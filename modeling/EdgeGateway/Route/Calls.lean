import EdgeGateway.Route.Cache
import EdgeGateway.Route.Match

/-!
# Calls side by side

A cache with its store, its clock, and the calls that are under way.  An event
is what happens between two waits; a run is a list of events in any order.  A
load begins when a caller installs a slot and reads the rows when it ends.
-/

namespace EdgeGateway.Route

open Observe (Counter)

/-- A caller, the slot it has joined, and its routes once it has them. -/
structure Caller where
  slot : Nat
  routes : Option (List Resolved) := none
  deriving Repr

structure Calls where
  now : Instant := .start
  store : Store.Memory
  cache : Cache
  /-- The slots whose loads run, in the order of their starts. -/
  loading : List Nat := []
  /-- The callers in the order of their arrival. -/
  callers : List Caller := []
  counted : List Counter := []

inductive Event where
  | arrive
  | finish (slot : Nat)
  | collect (caller : Nat)
  | invalidate
  | wait (span : Duration)
  | replaceRows (rows : List Row)
  | setUnavailable (unavailable : Bool)
  deriving Repr

namespace Calls

def arrive (calls : Calls) : Calls :=
  let joined := calls.cache.join calls.now
  { calls with
    cache := joined.cache
    store := if joined.starts then calls.store.beginLoad else calls.store
    loading :=
      if joined.starts then calls.loading ++ [joined.slot] else calls.loading
    callers := calls.callers ++ [⟨joined.slot, none⟩] }

/-- Ends a load that runs. -/
def finish (slot : Nat) (calls : Calls) : Calls :=
  if calls.loading.contains slot then
    let (cache, counted) := calls.cache.finish slot calls.store.readRoutes
    { calls with
      cache := cache
      loading := calls.loading.filter (· ≠ slot)
      counted := calls.counted ++ counted }
  else calls

/-- Gives a caller its routes if its load has ended and it has none yet. -/
def collect (position : Nat) (calls : Calls) : Calls :=
  match calls.callers[position]? with
  | some ⟨slot, none⟩ =>
      match calls.cache.collect? slot with
      | some (routes, counted) =>
          { calls with
            callers := calls.callers.set position ⟨slot, some routes⟩
            counted := calls.counted ++ counted }
      | none => calls
  | _ => calls

def invalidate (calls : Calls) : Calls :=
  let (cache, counted) := calls.cache.invalidate
  { calls with cache := cache, counted := calls.counted ++ counted }

def wait (span : Duration) (calls : Calls) : Calls :=
  { calls with now := calls.now.advance span }

/-- Makes every load take that long. -/
def setLatency (latency : Duration) (calls : Calls) : Calls :=
  { calls with store := { calls.store with routeLatency := latency } }

def step (calls : Calls) : Event → Calls
  | .arrive => calls.arrive
  | .finish slot => calls.finish slot
  | .collect caller => calls.collect caller
  | .invalidate => calls.invalidate
  | .wait span => calls.wait span
  | .replaceRows rows =>
      { calls with store := { calls.store with routes := rows } }
  | .setUnavailable unavailable =>
      { calls with store := { calls.store with routesUnavailable := unavailable } }

def run (calls : Calls) (events : List Event) : Calls := events.foldl step calls

/-- Lets every load that runs take the latency of the store, and gives every
caller its routes. -/
def settle (calls : Calls) : Calls :=
  let latency := if calls.loading = [] then [] else [.wait calls.store.routeLatency]
  let calls := calls.run (latency ++ calls.loading.map .finish)
  calls.run ((List.range calls.callers.length).map .collect)

/-- A call begins and goes on until it has to wait. -/
def begin (calls : Calls) : Calls :=
  let calls := calls.arrive
  if calls.store.routeLatency.isZero then calls.settle else calls

def beginMany (count : Nat) (calls : Calls) : Calls :=
  (List.replicate count ()).foldl (fun calls _ => calls.begin) calls

/-- The routes that the callers have got, in the order of their arrival. -/
def answers (calls : Calls) : List (List Resolved) :=
  calls.callers.map fun caller => caller.routes.getD []

/-- Forgets the callers, when all have got their routes. -/
def dismiss (calls : Calls) : Calls := { calls with callers := [] }

/-- One call from its beginning to its end. -/
def list (calls : Calls) : List Resolved × Calls :=
  let calls := calls.begin.settle
  (calls.answers.getLast?.getD [], calls.dismiss)

/-- The match of a request in the routes that a call of its own gets. -/
def find (request : Http.Request) (rollBelow : Nat → Nat) (calls : Calls) :
    Option Match × Calls :=
  let (routes, calls) := calls.list
  (Match.find? request rollBelow routes, calls)

/-- What the store answers when it is asked for its rows directly. -/
def storeRows (calls : Calls) : Except Store.Error (List Row) × Calls :=
  let store := calls.store.beginLoad
  let calls := { calls with store := store }.wait store.routeLatency
  (calls.store.readRoutes, calls)

end Calls

end EdgeGateway.Route
