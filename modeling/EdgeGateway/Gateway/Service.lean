import EdgeGateway.Gateway.Endpoint
import EdgeGateway.Gateway.Forwarding
import EdgeGateway.Route.Refresh

/-!
# The service

What the gateway serves over HTTP: its own endpoints, those of its operators only
if they are enabled, and through all other paths the routes.  An endpoint that
does not take a method says which it takes; one that answers GET answers HEAD the
same way without a body.

A request is either answered when it comes in, or its call to a backend begins
then and it waits for the end of the call.
-/

namespace EdgeGateway.Gateway

open Observe (Counter)

structure Service where
  plan : Plan
  backendTimeout : Duration
  adminEnabled : Bool
  countersEnabled : Bool
  deriving Repr

def Service.ofConfig (config : Config.Gateway) (countersEnabled : Bool) :
    Service where
  plan := .ofConfig config
  backendTimeout := config.server.backendTimeout
  adminEnabled := config.server.adminEnabled
  countersEnabled := countersEnabled

structure ServiceState where
  gateway : State
  channel : Route.RefreshChannel := {}

/-- A request as it comes in, with its whole body or why that could not be
read. -/
structure Inbound where
  method : String
  target : String
  headers : Http.Headers
  body : Except String ByteArray

/-- The request as the routes see it. -/
def Inbound.request (inbound : Inbound) : Http.Request :=
  .ofTarget inbound.method (Http.pathAndQuery inbound.target) inbound.headers

/-- What a request is told about the world outside of it. -/
structure Surroundings where
  freshId : String
  time : String
  rollBelow : Nat → Nat

structure Served where
  state : ServiceState
  response : Http.Response
  counted : List Counter := []

/-- A request whose call to a backend has begun. -/
structure Pending where
  context : Http.Context
  outbound : ForwardRequest
  body : ByteArray

/-- What becomes of a request when it comes in. -/
inductive Begun where
  | answered (served : Served)
  | waiting (pending : Pending) (state : ServiceState) (counted : List Counter)

namespace Service

def serveRoutes (state : ServiceState) : Served :=
  let gateway := state.gateway
  let listed := gateway.cache.list gateway.now gateway.store
  { state :=
      { state with
        gateway := { gateway with cache := listed.cache, store := listed.store } }
    response := .ofJson 200 (.array (listed.routes.map summary))
    counted := listed.counted }

def serveRefresh (state : ServiceState) : Served :=
  let (accepted, channel) := state.channel.notify "admin"
  { state := { state with channel := channel }
    response :=
      if accepted then
        .ofJson 202 (.object [("status", .string "refresh scheduled")])
      else errorResponse (.internal "route refresh listener is not running") }

def serveRegion (service : Service) (state : ServiceState) : Served where
  state := state
  response :=
    .ofJson 200 <| snapshotJson <|
      Failover.snapshot service.plan.failover state.gateway.now
        state.gateway.failover

def serveFailover (service : Service) (inbound : Inbound)
    (state : ServiceState) : Served :=
  match readCommand inbound.headers inbound.body with
  | .error response => { state := state, response := response }
  | .ok command =>
      match Failover.operate service.plan.failover command.region
          state.gateway.failover with
      | .error error => { state := state, response := errorResponse error }
      | .ok step =>
          { state :=
              { state with
                gateway := { state.gateway with failover := step.state } }
            response :=
              .ofJson 200 <| .object
                [("active_region", .string step.region),
                 ("reason", .string command.reasonText)]
            counted := step.counted }

def serveEndpoint (service : Service) (surroundings : Surroundings)
    (inbound : Inbound) (endpoint : Endpoint) (state : ServiceState) : Served :=
  if endpoint.allows inbound.method then
    match endpoint with
    | .health => { state := state, response := healthResponse surroundings.time }
    | .counters =>
        { state := state, response := countersResponse service.countersEnabled }
    | .routes => serveRoutes state
    | .refresh => serveRefresh state
    | .region => service.serveRegion state
    | .failover => service.serveFailover inbound state
  else { state := state, response := methodNotAllowed endpoint }

/-- The answer of an endpoint as it is sent. -/
def endpointAnswer (inbound : Inbound) (served : Served) : Served :=
  let response := served.response.withLength
  { served with
    response :=
      if inbound.method = "HEAD" then response.withoutBody else response }

/-- The answer to a request of the routes as it is sent. -/
def routedAnswer (service : Service) (context : Http.Context)
    (response : Http.Response) : Http.Response :=
  { response with
    headers := tagResponse service.plan.settings context response.headers }.withLength

/-- Decides about a request of the routes, and begins its call if it is to be
forwarded. -/
def beginRouted (service : Service) (surroundings : Surroundings)
    (inbound : Inbound) (state : ServiceState) : Except ClockFault Begun := do
  let handled ← handle service.plan surroundings.freshId surroundings.rollBelow
    inbound.request state.gateway
  let state := { state with gateway := handled.state }
  let answered (response : Http.Response) : Begun :=
    .answered ⟨state, service.routedAnswer handled.context response, handled.counted⟩
  match handled.decision with
  | .respond preflight => return answered ⟨204, preflight.headers, .empty⟩
  | .reject error => return answered (errorResponse error)
  | .forward outbound =>
      match bodyFault? inbound.body, inbound.body with
      | none, .ok body =>
          return .waiting ⟨handled.context, outbound, body⟩ state handled.counted
      | fault, _ =>
          return answered
            (errorResponse (.invalidRequest "body" (fault.getD "")))

/-- Takes in a request. -/
def begin (service : Service) (surroundings : Surroundings) (inbound : Inbound)
    (state : ServiceState) : Except ClockFault Begun :=
  match Endpoint.ofPath? service.adminEnabled inbound.request.path with
  | some endpoint =>
      .ok <| .answered <| endpointAnswer inbound <|
        service.serveEndpoint surroundings inbound endpoint state
  | none => service.beginRouted surroundings inbound state

/-- Answers a request whose call has ended. -/
def finish (service : Service) (pending : Pending) (reply : Reply)
    (state : ServiceState) : Served :=
  let (gateway, counted) := report service.plan reply.outcome state.gateway
  { state := { state with gateway := gateway }
    response :=
      service.routedAnswer pending.context (reply.response service.backendTimeout)
    counted := counted }

/-- Gives up a request whose client has left while its call was under way. -/
def giveUp (service : Service) (state : ServiceState) :
    ServiceState × List Counter :=
  let (gateway, counted) := abandon service.plan state.gateway
  ({ state with gateway := gateway }, counted)

/-- Serves one request from its beginning to its end, with a backend that replies
at once. -/
def serve (service : Service) (surroundings : Surroundings)
    (send : ForwardRequest → Reply) (inbound : Inbound) (state : ServiceState) :
    Except ClockFault Served := do
  match ← service.begin surroundings inbound state with
  | .answered served => return served
  | .waiting pending state counted =>
      let served := service.finish pending (send pending.outbound) state
      return { served with counted := counted ++ served.counted }

end Service

namespace ServiceState

/-- The same state at another time. -/
def atTime (now : Instant) (state : ServiceState) : ServiceState :=
  { state with gateway := { state.gateway with now := now } }

/-- Lets time pass. -/
def advance (span : Duration) (state : ServiceState) : ServiceState :=
  { state with
    gateway := { state.gateway with now := state.gateway.now.advance span } }

/-- Drops what has expired from the caches. -/
def sweep (state : ServiceState) : ServiceState :=
  let gateway := state.gateway
  { state with
    gateway :=
      { gateway with
        preflights := gateway.preflights.purge gateway.now
        preferences := gateway.preferences.purge gateway.now } }

/-- Lets the listener of the refresh signals run. -/
def listen (state : ServiceState) : ServiceState × List Counter :=
  let (refresh, counted) :=
    Route.Refresh.listen ⟨state.channel, .idle, state.gateway.cache⟩
  ({ state with
      gateway := { state.gateway with cache := refresh.cache }
      channel := refresh.channel }, counted)

end ServiceState

end EdgeGateway.Gateway
