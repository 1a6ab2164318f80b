import EdgeGateway.Route.Calls
import EdgeGateway.Route.Refresh

/-!
# Signals side by side

The calls of a route source, the senders of refresh signals and the listener,
each in steps of its own.  An event is one step of one of them; a run is a list
of events in any order.  Senders can be shared and dropped.  What waits in the
channel is still taken when the last of them is gone, and only then does the
listener stop.
-/

namespace EdgeGateway.Route

structure Signals where
  calls : Calls
  channel : RefreshChannel := {}
  listener : Listener := .idle
  /-- How many hold the sending end of the channel. -/
  senders : Nat := 1

namespace Signals

inductive Event where
  /-- Something that happens to the route source. -/
  | call (event : Route.Event)
  | notify (sender : String)
  /-- One step of the listener. -/
  | listen
  | share
  | drop
  deriving Repr

/-- Whether a signal is accepted, and everything after it. -/
def notify (sender : String) (signals : Signals) : Bool × Signals :=
  if signals.senders = 0 then (false, signals)
  else
    let (accepted, channel) := signals.channel.notify sender
    (accepted, { signals with channel := channel })

/-- What the listener works on. -/
def refresh (signals : Signals) : Refresh :=
  ⟨signals.channel, signals.listener, signals.calls.cache⟩

/-- One step of the listener, which stops if it has nothing to do and nobody is
left to signal. -/
def listen (signals : Signals) : Signals :=
  match signals.refresh.step? with
  | some (refresh, counted) =>
      { signals with
        calls :=
          { signals.calls with
            cache := refresh.cache
            counted := signals.calls.counted ++ counted }
        channel := refresh.channel
        listener := refresh.listener }
  | none =>
      if signals.senders = 0 then
        { signals with channel := { signals.channel with closed := true } }
      else signals

def step (signals : Signals) : Event → Signals
  | .call event => { signals with calls := signals.calls.step event }
  | .notify sender => (signals.notify sender).2
  | .listen => signals.listen
  | .share =>
      if signals.senders = 0 then signals
      else { signals with senders := signals.senders + 1 }
  | .drop => { signals with senders := signals.senders - 1 }

def run (signals : Signals) (events : List Event) : Signals :=
  events.foldl step signals

end Signals

end EdgeGateway.Route
