import EdgeGateway.Route.Cache

/-!
# Refresh signals

Whoever learns that routes have changed puts a signal into a channel of limited
size, and a listener invalidates the cache.  A signal that finds the channel
full is dropped, since a refresh is pending then, and counts as accepted; only
without a listener is a signal refused.  The listener takes one signal, drops
all that came with it, and invalidates once.
-/

namespace EdgeGateway.Route

open Observe (Counter)

/-- Most signals that wait at a time. -/
def refreshCapacity : Nat := 64

/-- The waiting signals, each with the name of its sender. -/
structure RefreshChannel where
  waiting : List String := []
  closed : Bool := false
  deriving Repr, DecidableEq

namespace RefreshChannel

/-- A channel whose listener is gone. -/
def deserted : RefreshChannel := ⟨[], true⟩

/-- Whether the signal was accepted, and the channel with it. -/
def notify (sender : String) (channel : RefreshChannel) :
    Bool × RefreshChannel :=
  if channel.closed then (false, channel)
  else if channel.waiting.length < refreshCapacity then
    (true, { channel with waiting := channel.waiting ++ [sender] })
  else (true, channel)

/-- Accepts signals one after the other. -/
def notifyMany (sender : String) :
    Nat → RefreshChannel → List Bool × RefreshChannel
  | 0, channel => ([], channel)
  | count + 1, channel =>
      let (accepted, channel) := channel.notify sender
      let (others, channel) := notifyMany sender count channel
      (accepted :: others, channel)

end RefreshChannel

/-- What the listener is about to do. -/
inductive Listener where
  | idle
  /-- It has taken a signal and drops those that came with it. -/
  | draining (sender : String) (dropped : Nat)
  /-- It has found the channel empty; signals that come now wait for their turn. -/
  | invalidating (sender : String) (dropped : Nat)
  deriving Repr, DecidableEq

structure Refresh where
  channel : RefreshChannel := {}
  listener : Listener := .idle
  cache : Cache

namespace Refresh

/-- One step of the listener; none if it is idle and no signal waits. -/
def step? (refresh : Refresh) : Option (Refresh × List Counter) :=
  match refresh.listener, refresh.channel.waiting with
  | .idle, [] => none
  | .idle, sender :: waiting =>
      some ({ refresh with
        channel := { refresh.channel with waiting := waiting }
        listener := .draining sender 0 }, [])
  | .draining sender dropped, _ :: waiting =>
      some ({ refresh with
        channel := { refresh.channel with waiting := waiting }
        listener := .draining sender (dropped + 1) }, [])
  | .draining sender dropped, [] =>
      some ({ refresh with listener := .invalidating sender dropped }, [])
  | .invalidating _ _, _ =>
      let (cache, counted) := refresh.cache.invalidate
      some ({ refresh with listener := .idle, cache := cache }, counted)

/-- At most so many steps of the listener. -/
def steps : Nat → Refresh → Refresh × List Counter
  | 0, refresh => (refresh, [])
  | count + 1, refresh =>
      match refresh.step? with
      | none => (refresh, [])
      | some (refresh, counted) =>
          let (refresh, more) := steps count refresh
          (refresh, counted ++ more)

/-- Runs the idle listener until it is idle again: one step for each signal that
waits, one that finds no more of them, and one for the invalidation. -/
def listen (refresh : Refresh) : Refresh × List Counter :=
  steps (refresh.channel.waiting.length + 2) refresh

end Refresh

end EdgeGateway.Route
