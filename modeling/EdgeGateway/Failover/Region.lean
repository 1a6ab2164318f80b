import EdgeGateway.Config.Basic
import EdgeGateway.Failover.Outcome
import EdgeGateway.Observe.Counter
import EdgeGateway.Time.Instant

/-!
# The active region

One region is active.  Failures of the primary region that follow each other
closely are counted, and when their number reaches the threshold the first
backup that is another region becomes active.  Nothing but an operator brings
the primary back.  While failover is disabled the primary is always active and
nothing is counted.

Every operation is one atomic step on the state, so a step function describes
any number of callers.
-/

namespace EdgeGateway.Failover

open Observe (Counter)

structure State where
  activeRegion : String
  failureCount : Nat
  lastFailure : Option Instant
  deriving Repr, DecidableEq

/-- The new state, the region that is active in it, and what was counted. -/
structure Step where
  state : State
  region : String
  counted : List Counter := []
  deriving Repr, DecidableEq

namespace State

def initial (config : Config.Failover) : State :=
  ⟨config.primaryRegion, 0, none⟩

/-- The region that requests are tagged with. -/
def currentRegion (config : Config.Failover) (state : State) : String :=
  if config.enabled then state.activeRegion else config.primaryRegion

end State

/-- The first backup that differs from a region. -/
def firstBackup? (config : Config.Failover) (active : String) : Option String :=
  config.backupRegions.find? (· ≠ active)

/-- Whether a failure comes too long after the last one to be counted with it. -/
def windowExpired (config : Config.Failover) (state : State) (now : Instant) :
    Bool :=
  match state.lastFailure with
  | some last => (now.since last).nanos > config.failureWindow.nanos
  | none => false

/-- The state after a failure, and the region it moves to if it moves. -/
def afterFailure (config : Config.Failover) (state : State) (now : Instant) :
    State × Option String :=
  let previous := if windowExpired config state now then 0 else state.failureCount
  let count := previous + 1
  if count < config.failureThreshold then
    (⟨state.activeRegion, count, some now⟩, none)
  else
    let target :=
      if state.activeRegion = config.primaryRegion then
        firstBackup? config state.activeRegion
      else none
    (⟨target.getD state.activeRegion, 0, some now⟩, target)

/-- Leaves everything as it is and reports the primary. -/
def disabledStep (config : Config.Failover) (state : State) : Step :=
  ⟨state, config.primaryRegion, []⟩

def recordFailure (config : Config.Failover) (now : Instant) (cause : Cause)
    (state : State) : Step :=
  if !config.enabled then disabledStep config state
  else
    let (next, target) := afterFailure config state now
    ⟨next, next.activeRegion,
      .regionFailures cause.label ::
        (if target.isSome then [.regionFailovers .automatic] else [])⟩

def resetFailures (config : Config.Failover) (state : State) : State :=
  if config.enabled then { state with failureCount := 0 } else state

/-- A success ends the count, anything else is a failure. -/
def observe (config : Config.Failover) (now : Instant) (outcome : Outcome)
    (state : State) : Step :=
  match outcome.cause? with
  | some cause => recordFailure config now cause state
  | none =>
      let next := resetFailures config state
      ⟨next, next.currentRegion config, []⟩

/-- Makes a region active on an operator's request. -/
def transition (state : State) (target : String) : Step :=
  ⟨{ state with activeRegion := target, failureCount := 0 }, target,
    [.regionFailovers .operator]⟩

/-- Leaves the primary for the first backup; from a backup nothing happens. -/
def triggerFailover (config : Config.Failover) (state : State) : Step :=
  if !config.enabled then disabledStep config state
  else if state.activeRegion ≠ config.primaryRegion then
    ⟨state, state.activeRegion, []⟩
  else
    match firstBackup? config state.activeRegion with
    | some target => transition state target
    | none => ⟨state, state.activeRegion, []⟩

def failoverTo (config : Config.Failover) (region : String) (state : State) :
    Step :=
  if !config.enabled then disabledStep config state
  else if state.activeRegion = region then ⟨state, state.activeRegion, []⟩
  else transition state region

def restorePrimary (config : Config.Failover) (state : State) : Step :=
  if !config.enabled then disabledStep config state
  else
    ⟨{ state with activeRegion := config.primaryRegion, failureCount := 0 },
      config.primaryRegion,
      if state.activeRegion = config.primaryRegion then []
      else [.regionFailovers .restore]⟩

/-- What operators are shown. -/
structure Snapshot where
  enabled : Bool
  activeRegion : String
  primaryRegion : String
  backupRegions : List String
  onPrimary : Bool
  failureCount : Nat
  failureThreshold : Nat
  secondsSinceLastFailure : Option Nat
  deriving Repr, DecidableEq

def snapshot (config : Config.Failover) (now : Instant) (state : State) :
    Snapshot :=
  let active := state.currentRegion config
  { enabled := config.enabled
    activeRegion := active
    primaryRegion := config.primaryRegion
    backupRegions := config.backupRegions
    onPrimary := active = config.primaryRegion
    failureCount := state.failureCount
    failureThreshold := config.failureThreshold
    secondsSinceLastFailure :=
      state.lastFailure.map fun last => (now.since last).seconds }

end EdgeGateway.Failover
