import EdgeGateway.Cors.Preflight
import EdgeGateway.Failover.Directive
import EdgeGateway.Http.HopByHop
import EdgeGateway.Route.Match
import EdgeGateway.Route.Cache
import EdgeGateway.Version.Preference

/-!
# Decisions

What the gateway does with a request.  It is tagged with the active region and
with the version that its tenant prefers; a preflight is answered, any other
request is forwarded along its route or refused.  Nothing is sent from here, and
the active region is only read.

The headers of a forwarded request are those that came in, without the fields of
the connection, edited by the route, and last those that the gateway sets.
-/

namespace EdgeGateway.Gateway

open Observe (Counter)

/-- The header names that the gateway sets, and whether the version in the path
gives way to the preferred one. -/
structure Settings where
  regionHeader : String
  tenantHeader : String
  versionHeader : String
  replacePath : Bool
  deriving Repr, DecidableEq

def Settings.ofConfig (config : Config.Gateway) : Settings where
  regionHeader := config.failover.regionHeader
  tenantHeader := config.versioning.tenantHeader
  versionHeader := config.versioning.versionHeader
  replacePath := config.versioning.replacePath

def Settings.toJson (settings : Settings) : Json :=
  .object
    [("region_header", .string settings.regionHeader),
     ("tenant_header", .string settings.tenantHeader),
     ("version_header", .string settings.versionHeader),
     ("rewrite_path", .bool settings.replacePath)]

/-- What is fixed while the gateway runs. -/
structure Plan where
  settings : Settings
  failover : Config.Failover
  versions : Version.Settings
  preflight : Cors.PreflightHandler
  deriving Repr

def Plan.ofConfig (config : Config.Gateway) : Plan where
  settings := .ofConfig config
  failover := config.failover
  versions := .of config.versioning.effectiveCacheTtl config.versioning.namespaces
  preflight := .ofConfig config.cors

structure State where
  now : Instant
  failover : Failover.State
  preferences : Version.PreferenceCache
  preflights : Cors.PreflightCache
  cache : Route.Cache
  store : Store.Memory
  deriving Repr

def State.initial (config : Config.Gateway) (store : Store.Memory) : State where
  now := .start
  failover := .initial config.failover
  preferences := .empty
  preflights := .empty
  cache := { ttl := config.routes.cacheTtl }
  store := store

structure ForwardRequest where
  routeId : String
  variantId : Option String
  method : String
  url : String
  headers : Http.Headers
  deriving Repr, DecidableEq

inductive Decision where
  | respond (response : Cors.PreflightResponse)
  | forward (request : ForwardRequest)
  | reject (error : GatewayError)
  deriving Repr, DecidableEq

def requestIdHeader : String := "x-request-id"

def setOptional (name : String) (value : Option String)
    (headers : Http.Headers) : Http.Headers :=
  match value with
  | some value => headers.set name value
  | none => headers

/-- The fields of a request that may be forwarded. -/
def forwardable (headers : Http.Headers) : Http.Headers :=
  headers.withoutHopByHop.erase "host" |>.erase "content-length"

/-- First the removals of the route, then its additions. -/
def editHeaders (found : Route.Match) (headers : Http.Headers) : Http.Headers :=
  let kept := found.removeHeaders.foldl Http.Headers.erase headers
  found.addHeaders.foldl
    (fun headers (name, value) => headers.set name value) kept

/-- Sets what the gateway knows about a request. -/
def setContext (settings : Settings) (context : Http.Context)
    (headers : Http.Headers) : Http.Headers :=
  headers
    |> setOptional settings.regionHeader context.region
    |> setOptional settings.versionHeader context.effectiveVersion
    |> setOptional settings.tenantHeader context.tenantId
    |>.set requestIdHeader context.correlationId

/-- The match with the preferred version in its path. -/
def preferVersion (settings : Settings) (context : Http.Context)
    (found : Route.Match) : Route.Match :=
  match context.effectiveVersion with
  | some version =>
      if settings.replacePath then
        { found with path := Version.pathWithVersion found.path version }
      else found
  | none => found

def forwardRequest (settings : Settings) (context : Http.Context)
    (request : Http.Request) (found : Route.Match) : ForwardRequest where
  routeId := found.routeId
  variantId := found.variantId
  method := request.method
  url := (preferVersion settings context found).url
  headers :=
    setContext settings context (editHeaders found (forwardable request.headers))

/-- Sets the region and the id of a request on the response to it. -/
def tagResponse (settings : Settings) (context : Http.Context)
    (headers : Http.Headers) : Http.Headers :=
  headers
    |> setOptional settings.regionHeader context.region
    |>.set requestIdHeader context.correlationId

structure Handled where
  state : State
  context : Http.Context
  decision : Decision
  counted : List Counter := []

/-- Decides about a request; `freshId` identifies it unless the caller did, and
`rollBelow` draws the variant of a weighted route. -/
def handle (plan : Plan) (freshId : String) (rollBelow : Nat → Nat)
    (request : Http.Request) (state : State) : Except ClockFault Handled := do
  let context :=
    { Http.Context.ofRequest request plan.settings.tenantHeader freshId with
      region := some (state.failover.currentRegion plan.failover) }
  let resolved ← Version.resolve plan.versions state.now context.tenantId
    request.path state.store state.preferences
  let context :=
    { context with
      effectiveVersion := resolved.preference.map Store.Preference.preferredVersion }
  let state :=
    { state with preferences := resolved.cache, store := resolved.store }
  let preflight ←
    Cors.handlePreflight plan.preflight state.now request state.preflights
  let state := { state with preflights := preflight.cache }
  let counted := resolved.counted ++ preflight.counted
  match preflight.answer with
  | some (.ok response) => return ⟨state, context, .respond response, counted⟩
  | some (.error error) => return ⟨state, context, .reject error, counted⟩
  | none =>
      let listed := state.cache.list state.now state.store
      let state := { state with cache := listed.cache, store := listed.store }
      let decision :=
        match Route.Match.find? request rollBelow listed.routes with
        | some found =>
            .forward (forwardRequest plan.settings context request found)
        | none => .reject (.noRoute request.method request.path)
      return ⟨state, context, decision, counted ++ listed.counted⟩

/-- Takes in how the call to a backend has ended. -/
def complete (plan : Plan) (outcome : Failover.Outcome) (state : State) :
    State × List Counter :=
  let step := Failover.observe plan.failover state.now outcome state.failover
  ({ state with failover := step.state }, step.counted)

end EdgeGateway.Gateway
