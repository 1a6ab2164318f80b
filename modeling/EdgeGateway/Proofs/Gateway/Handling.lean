import EdgeGateway.Gateway.Run
import EdgeGateway.Proofs.Attempt
import EdgeGateway.Proofs.Version.Lookup

/-!
# How a request is handled

A request is tagged, a preflight is answered, and any other request is looked up
in the routes.  `Handling` says all that comes of it.  The region and the version
of the tag are fixed when the request comes in; the store is asked, but its rows
stay as they are.
-/

namespace EdgeGateway

namespace Gateway

/-- What is known of a request when its route is looked for. -/
def taggedContext (plan : Plan) (freshId : String) (request : Http.Request)
    (state : State) (resolved : Version.ResolveStep) : Http.Context :=
  { Http.Context.ofRequest request plan.settings.tenantHeader freshId with
    region := some (state.failover.currentRegion plan.failover)
    effectiveVersion :=
      resolved.preference.map Store.Preference.preferredVersion }

/-- The state after a request has been tagged and checked for a preflight. -/
def afterTagging (state : State) (resolved : Version.ResolveStep)
    (preflight : Cors.PreflightStep) : State :=
  { state with
    preferences := resolved.cache
    store := resolved.store
    preflights := preflight.cache }

/-- What becomes of a request in a list of routes. -/
def routedDecision (plan : Plan) (rollBelow : Nat → Nat) (request : Http.Request)
    (context : Http.Context) (routes : List Route.Resolved) : Decision :=
  match Route.Match.find? request rollBelow routes with
  | some found => .forward (forwardRequest plan.settings context request found)
  | none => .reject (.noRoute request.method request.path)

def preflightDecision : Except GatewayError Cors.PreflightResponse → Decision
  | .ok response => .respond response
  | .error error => .reject error

/-- The version that a request is tagged with is looked up. -/
def lookUpVersion (plan : Plan) (freshId : String) (request : Http.Request)
    (state : State) : Except ClockFault Version.ResolveStep :=
  Version.resolve plan.versions state.now
    (Http.Context.ofRequest request plan.settings.tenantHeader freshId).tenantId
    request.path state.store state.preferences

/-- A request is a preflight that is answered, or it goes along the routes. -/
inductive Handling (plan : Plan) (freshId : String) (rollBelow : Nat → Nat)
    (request : Http.Request) (state : State) (handled : Handled) : Prop where
  | preflight (resolved : Version.ResolveStep) (preflight : Cors.PreflightStep)
      (answer : Except GatewayError Cors.PreflightResponse)
      (hresolve : lookUpVersion plan freshId request state = .ok resolved)
      (hpreflight : Cors.handlePreflight plan.preflight state.now request
        state.preflights = .ok preflight)
      (hanswer : preflight.answer = some answer)
      (hcontext : handled.context =
        taggedContext plan freshId request state resolved)
      (hstate : handled.state = afterTagging state resolved preflight)
      (hdecision : handled.decision = preflightDecision answer)
      (hcounted : handled.counted = resolved.counted ++ preflight.counted)
  | routed (resolved : Version.ResolveStep) (preflight : Cors.PreflightStep)
      (hresolve : lookUpVersion plan freshId request state = .ok resolved)
      (hpreflight : Cors.handlePreflight plan.preflight state.now request
        state.preflights = .ok preflight)
      (hanswer : preflight.answer = none)
      (hcontext : handled.context =
        taggedContext plan freshId request state resolved)
      (hstate : handled.state =
        { afterTagging state resolved preflight with
          cache := (state.cache.list state.now resolved.store).cache
          store := (state.cache.list state.now resolved.store).store })
      (hdecision : handled.decision =
        routedDecision plan rollBelow request handled.context
          (state.cache.list state.now resolved.store).routes)
      (hcounted : handled.counted = resolved.counted ++ preflight.counted ++
        (state.cache.list state.now resolved.store).counted)

theorem handling {plan : Plan} {freshId : String} {rollBelow : Nat → Nat}
    {request : Http.Request} {state : State} {handled : Handled}
    (hhandle : handle plan freshId rollBelow request state = .ok handled) :
    Handling plan freshId rollBelow request state handled := by
  unfold handle at hhandle
  obtain ⟨resolved, hresolve, hhandle⟩ := bind_eq_ok_iff.mp hhandle
  obtain ⟨preflight, hpreflight, hhandle⟩ := bind_eq_ok_iff.mp hhandle
  simp only at hhandle
  split at hhandle
  next response hanswer =>
    obtain rfl := pure_eq_ok_iff.mp hhandle
    exact .preflight resolved preflight (.ok response) hresolve hpreflight hanswer
      rfl rfl rfl rfl
  next error hanswer =>
    obtain rfl := pure_eq_ok_iff.mp hhandle
    exact .preflight resolved preflight (.error error) hresolve hpreflight hanswer
      rfl rfl rfl rfl
  next hanswer =>
    obtain rfl := pure_eq_ok_iff.mp hhandle
    exact .routed resolved preflight hresolve hpreflight hanswer rfl rfl rfl rfl

/-- The request that is sent, if one is. -/
def Decision.forwarded? : Decision → Option ForwardRequest
  | forward request => some request
  | _ => none

theorem Decision.forwarded?_eq_some_iff {decision : Decision}
    {forwarded : ForwardRequest} :
    decision.forwarded? = some forwarded ↔ decision = .forward forwarded := by
  cases decision <;> simp [forwarded?]

/-- The route of a request and what its target selects, for a source of rolls. -/
structure Along (rollBelow : Nat → Nat) (request : Http.Request) (state : State)
    (route : Route.Resolved) (selection : Route.Selection) : Prop where
  listed : ∃ count, route ∈
    (state.cache.list state.now (state.store.countingLookups count)).routes
  applies : route.applies request = true
  selects : route.target.select rollBelow = some selection

section Forwarded

variable {plan : Plan} {freshId : String} {rollBelow : Nat → Nat}
variable {request : Http.Request} {state : State} {handled : Handled}
variable (hhandle : handle plan freshId rollBelow request state = .ok handled)
include hhandle

/-- A request is tagged before anything else is done with it. -/
theorem context_of_handle :
    ∃ resolved, lookUpVersion plan freshId request state = .ok resolved ∧
      handled.context = taggedContext plan freshId request state resolved := by
  cases handling hhandle with
  | preflight resolved _ _ hresolve _ _ hcontext =>
      exact ⟨resolved, hresolve, hcontext⟩
  | routed resolved _ hresolve _ _ hcontext => exact ⟨resolved, hresolve, hcontext⟩

/-- A request is forwarded along a route that applies to it. -/
theorem match_of_forward {forwarded : ForwardRequest}
    (hforward : handled.decision = .forward forwarded) :
    ∃ route selection, Along rollBelow request state route selection ∧
      forwarded = forwardRequest plan.settings handled.context request
        (.ofSelection request route selection) := by
  cases handling hhandle with
  | preflight _ _ answer _ _ _ _ _ hdecision =>
      rw [hdecision] at hforward
      cases answer <;> simp [preflightDecision] at hforward
  | routed resolved _ hresolve _ _ _ _ hdecision =>
      obtain ⟨⟨count, -, hstore⟩, -⟩ := Version.resolve_spec hresolve
      rw [hdecision, routedDecision, hstore] at hforward
      split at hforward
      next found hfound =>
        rw [Route.Match.find?] at hfound
        obtain ⟨route, hroute, hselect⟩ := List.exists_of_findSome?_eq_some hfound
        obtain ⟨hlisted, happlies⟩ := List.mem_filter.mp hroute
        obtain ⟨selection, hselection, rfl⟩ := Option.map_eq_some_iff.mp hselect
        exact ⟨route, selection, ⟨⟨count, hlisted⟩, happlies, hselection⟩,
          (Decision.forward.inj hforward).symm⟩
      next => simp at hforward

end Forwarded

end Gateway

end EdgeGateway
