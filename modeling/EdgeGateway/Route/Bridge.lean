import EdgeGateway.Route.Refresh

/-!
# The bridge

Another process announces route changes over a subscription.  Every message is
passed on as a refresh signal; whatever ends a subscription, the bridge
subscribes again, and it stops only when a signal is refused.
-/

namespace EdgeGateway.Route

/-- How far a subscription gets. -/
inductive Subscription where
  /-- No connection, or the subscription is refused. -/
  | failed
  /-- So many messages, and then the connection ends. -/
  | delivered (messages : Nat)
  deriving Repr, DecidableEq

namespace Bridge

/-- The sender that signals of the bridge name. -/
def sender (topic : String) : String := "redis:" ++ topic

/-- Passes messages on until a signal is refused. -/
def forward (topic : String) :
    Nat → RefreshChannel → List Bool × RefreshChannel
  | 0, channel => ([], channel)
  | messages + 1, channel =>
      match channel.notify (sender topic) with
      | (false, channel) => ([false], channel)
      | (true, channel) =>
          let (others, channel) := forward topic messages channel
          (true :: others, channel)

/-- Whether the bridge has stopped after a list of subscriptions. -/
def run (topic : String) :
    List Subscription → RefreshChannel → Bool × RefreshChannel
  | [], channel => (false, channel)
  | .failed :: subscriptions, channel => run topic subscriptions channel
  | .delivered messages :: subscriptions, channel =>
      let (accepted, channel) := forward topic messages channel
      if accepted.contains false then (true, channel)
      else run topic subscriptions channel

end Bridge

end EdgeGateway.Route
