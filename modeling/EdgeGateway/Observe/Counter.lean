/-!
# Counters

What the gateway counts.  An operation answers with the counters that it
increased, one element for each increase, in the order of the increases.
-/

namespace EdgeGateway.Observe

inductive LoadOutcome where
  | success
  | stale
  | empty
  deriving Repr, DecidableEq

inductive SkipReason where
  | noTarget
  | malformed
  deriving Repr, DecidableEq

inductive FailoverTrigger where
  | automatic
  | operator
  | restore
  deriving Repr, DecidableEq

inductive PreferenceResult where
  | hit
  | miss
  | noTenant
  | storeError
  deriving Repr, DecidableEq

inductive Counter where
  | routeLoads (outcome : LoadOutcome)
  | routesSkipped (reason : SkipReason)
  | routeCacheInvalidations
  | regionFailures (cause : String)
  | regionFailovers (trigger : FailoverTrigger)
  | preflightCache (hit : Bool)
  | preflightRejections
  | versionPreference (result : PreferenceResult)
  | backendRequests (outcome : String)
  deriving Repr, DecidableEq

def LoadOutcome.label : LoadOutcome → String
  | success => "success"
  | stale => "stale"
  | empty => "empty"

def SkipReason.label : SkipReason → String
  | noTarget => "no_target"
  | malformed => "malformed"

def FailoverTrigger.label : FailoverTrigger → String
  | automatic => "automatic"
  | operator => "operator"
  | restore => "restore"

def PreferenceResult.label : PreferenceResult → String
  | hit => "hit"
  | miss => "miss"
  | noTenant => "no_tenant"
  | storeError => "store_error"

namespace Counter

/-- The name under which a counter is exported, with its label. -/
def name : Counter → String
  | routeLoads outcome =>
      labelled "control_plane_route_loads_total" "outcome" outcome.label
  | routesSkipped reason =>
      labelled "control_plane_routes_skipped_total" "reason" reason.label
  | routeCacheInvalidations => "control_plane_route_cache_invalidations_total"
  | regionFailures cause =>
      labelled "control_plane_region_failures_total" "cause" cause
  | regionFailovers trigger =>
      labelled "control_plane_region_failovers_total" "trigger" trigger.label
  | preflightCache hit =>
      labelled "control_plane_preflight_cache_total" "result"
        (if hit then "hit" else "miss")
  | preflightRejections => "control_plane_preflight_rejections_total"
  | versionPreference result =>
      labelled "control_plane_version_preference_total" "result" result.label
  | backendRequests outcome =>
      labelled "control_plane_upstream_requests_total" "outcome" outcome
where
  labelled (name label value : String) : String :=
    name ++ "\x7b" ++ label ++ "=\"" ++ value ++ "\"\x7d"

end Counter

/-- Counts a name once more, in order of the names. -/
def addTotal (name : String) : List (String × Nat) → List (String × Nat)
  | [] => [(name, 1)]
  | (known, total) :: totals =>
      if name = known then (known, total + 1) :: totals
      else if name < known then (name, 1) :: (known, total) :: totals
      else (known, total) :: addTotal name totals

/-- How often each counter was increased, by its exported name. -/
def totals (counted : List Counter) : List (String × Nat) :=
  counted.foldl (fun totals counter => addTotal counter.name totals) []

end EdgeGateway.Observe
