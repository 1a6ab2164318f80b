import EdgeGateway.Observe.Counter
import EdgeGateway.Route.Resolved
import EdgeGateway.Store.Memory
import EdgeGateway.Time.Instant

/-!
# The route cache

Routes are loaded from the store and kept for a fixed time.  A caller that finds
no slot installed, or an expired one, installs a fresh slot and starts its load;
a caller that finds a living slot joins it, whether its load has ended or still
runs.  So a slot has one load, and all who joined it get the outcome of that
load.

A failed load is not kept: its slot is removed unless another has taken its
place, and its callers get the routes of the last load that succeeded, or none
if there never was one.  An invalidation removes the installed slot; the load of
a removed slot goes on, but only for those who had joined it.

Each function is what a caller does between two waits, so any order of these
steps is a run of callers side by side.
-/

namespace EdgeGateway.Route

open Observe (Counter)

/-- A load that has failed leaves nothing. -/
inductive Load where
  | running
  | ended (routes : Option (List Resolved))
  deriving Repr

structure LoadSlot where
  createdAt : Instant
  load : Load
  deriving Repr

namespace LoadSlot

def isExpired (slot : LoadSlot) (ttl : Duration) (now : Instant) : Bool :=
  ttl.nanos ≤ (now.since slot.createdAt).nanos

end LoadSlot

/-- Slots are known by the order in which they were installed. -/
structure Cache where
  ttl : Duration
  slots : List LoadSlot := []
  installed : Option Nat := none
  /-- The routes of the last load that succeeded. -/
  lastGood : Option (List Resolved) := none
  deriving Repr

/-- The routes that rows make, and what is counted for the other rows. -/
def resolveRows : List Row → List Resolved × List Counter
  | [] => ([], [])
  | row :: rows =>
      let (routes, counted) := resolveRows rows
      if !row.enabled then (routes, counted)
      else
        match Resolved.ofRow row with
        | .ok (some route) => (route :: routes, counted)
        | .ok none => (routes, .routesSkipped .noTarget :: counted)
        | .error _ => (routes, .routesSkipped .malformed :: counted)

namespace Cache

/-- The installed slot, if it still lives. -/
def living? (cache : Cache) (now : Instant) : Option Nat := do
  let position ← cache.installed
  let slot ← cache.slots[position]?
  if slot.isExpired cache.ttl now then none else some position

/-- The slot that a caller shares, and whether the caller has to load it. -/
structure Joined where
  cache : Cache
  slot : Nat
  starts : Bool
  deriving Repr

def join (now : Instant) (cache : Cache) : Joined :=
  match cache.living? now with
  | some slot => ⟨cache, slot, false⟩
  | none =>
      let fresh := cache.slots.length
      ⟨{ cache with
          slots := cache.slots ++ [⟨now, .running⟩]
          installed := some fresh }, fresh, true⟩

/-- Sets how the load of a slot has ended. -/
def endLoad (cache : Cache) (slot : Nat) (routes : Option (List Resolved)) :
    Cache :=
  { cache with
    slots := cache.slots.modify slot fun old => { old with load := .ended routes } }

/-- The load of a slot ends with what the store has answered. -/
def finish (slot : Nat) (answer : Except Store.Error (List Row))
    (cache : Cache) : Cache × List Counter :=
  match answer with
  | .ok rows =>
      let (routes, counted) := resolveRows rows
      ({ cache.endLoad slot (some routes) with lastGood := some routes },
        counted ++ [.routeLoads .success])
  | .error _ =>
      let ended := cache.endLoad slot none
      ({ ended with
          installed :=
            if ended.installed = some slot then none else ended.installed }, [])

/-- What callers get whose load has failed. -/
def fallback (cache : Cache) : List Resolved × List Counter :=
  match cache.lastGood with
  | some routes => (routes, [.routeLoads .stale])
  | none => ([], [.routeLoads .empty])

/-- What a caller gets from its slot once the load has ended. -/
def collect? (cache : Cache) (slot : Nat) :
    Option (List Resolved × List Counter) :=
  match cache.slots[slot]? with
  | some ⟨_, .ended (some routes)⟩ => some (routes, [])
  | some ⟨_, .ended none⟩ => some cache.fallback
  | _ => none

/-- Removes the installed slot. -/
def invalidate (cache : Cache) : Cache × List Counter :=
  ({ cache with installed := none }, [.routeCacheInvalidations])

/-- The routes, the cache and the store after a call that nothing interrupts. -/
structure Listed where
  cache : Cache
  store : Store.Memory
  routes : List Resolved
  counted : List Counter := []

/-- A call to a store that answers at once. -/
def list (now : Instant) (store : Store.Memory) (cache : Cache) : Listed :=
  let joined := cache.join now
  if joined.starts then
    let store := store.beginLoad
    let (cache, loaded) := joined.cache.finish joined.slot store.readRoutes
    let (routes, answered) := (cache.collect? joined.slot).getD cache.fallback
    ⟨cache, store, routes, loaded ++ answered⟩
  else
    let (routes, answered) :=
      (joined.cache.collect? joined.slot).getD joined.cache.fallback
    ⟨joined.cache, store, routes, answered⟩

end Cache

end EdgeGateway.Route
