import EdgeGateway.Failover.Command
import EdgeGateway.Failover.Region
import EdgeGateway.Http.MediaType
import EdgeGateway.Http.Response
import EdgeGateway.Route.Resolved

/-!
# Endpoints

The paths that the gateway answers itself, the methods they take, and what is
said there: the health of the gateway, its counters, its routes and its region.
An operator moves the region by a command in the body of a request.
-/

namespace EdgeGateway.Gateway

def productName : String := "edge-control-plane"

def productVersion : String := "0.1.0"

inductive Endpoint where
  | health
  | counters
  | routes
  | refresh
  | region
  | failover
  deriving Repr, DecidableEq

namespace Endpoint

/-- The endpoint at a path; any other path belongs to the routes. -/
def ofPath? (adminEnabled : Bool) (path : String) : Option Endpoint :=
  match path with
  | "/health" => some health
  | "/metrics" => some counters
  | "/admin/routes" => if adminEnabled then some routes else none
  | "/admin/routes/refresh" => if adminEnabled then some refresh else none
  | "/admin/region" => if adminEnabled then some region else none
  | "/admin/region/failover" => if adminEnabled then some failover else none
  | _ => none

def isCommand : Endpoint → Bool
  | refresh => true
  | failover => true
  | _ => false

def allows (endpoint : Endpoint) (method : String) : Bool :=
  if endpoint.isCommand then method = "POST"
  else method = "GET" || method = "HEAD"

def allowedMethods (endpoint : Endpoint) : String :=
  if endpoint.isCommand then "POST" else "GET,HEAD"

end Endpoint

def methodNotAllowed (endpoint : Endpoint) : Http.Response where
  status := 405
  headers := .ofList [("allow", endpoint.allowedMethods)]

def healthResponse (time : String) : Http.Response :=
  .ofJson 200 <| .object
    [("service", .string productName), ("status", .string "healthy"),
     ("timestamp", .string time), ("version", .string productVersion)]

def countersResponse (enabled : Bool) : Http.Response :=
  if enabled then
    { status := 200
      headers := .ofList [("content-type", "text/plain; version=0.0.4")]
      body := .counters }
  else .ofText 404 "metrics are disabled"

/-- What operators are told about a route. -/
def summary (route : Route.Resolved) : Json :=
  .object
    [("id", .string route.id),
     ("version", .ofInt route.definition.version),
     ("path_pattern", .ofOption .string route.definition.pathPattern),
     ("targets", .ofStrings route.target.uris),
     ("weighted", .bool route.target.isWeighted),
     ("predicates", .ofNat route.predicates.length),
     ("filters", .ofNat route.filters.length),
     ("attributes", .object (route.attributes.map fun (path, text) =>
       (path, .string text)))]

def snapshotJson (snapshot : Failover.Snapshot) : Json :=
  .object
    [("enabled", .bool snapshot.enabled),
     ("active_region", .string snapshot.activeRegion),
     ("primary_region", .string snapshot.primaryRegion),
     ("backup_regions", .ofStrings snapshot.backupRegions),
     ("on_primary", .bool snapshot.onPrimary),
     ("failure_count", .ofNat snapshot.failureCount),
     ("failure_threshold", .ofNat snapshot.failureThreshold),
     ("seconds_since_last_failure",
       .ofOption .ofNat snapshot.secondsSinceLastFailure)]

/-- Largest body of an operator's command, in bytes. -/
def commandLimit : Nat := 2 * 1024 * 1024

/-- Reads a command from a body, or says why it cannot. -/
def readCommandBody (body : Except String ByteArray) :
    Except Http.Response Failover.Command :=
  match body with
  | .error reason => .error (.rejection 400 reason)
  | .ok bytes =>
      if commandLimit < bytes.size then
        .error (.rejection 413 "length limit exceeded")
      else
        match Failover.Command.read bytes with
        | .ok command => .ok command
        | .error .wrongShape => .error (.rejection 422 "body is not a command")
        | .error .notJson => .error (.rejection 400 "body is not JSON")

/-- Reads the command of a request, whose content has to be of a JSON type. -/
def readCommand (headers : Http.Headers) (body : Except String ByteArray) :
    Except Http.Response Failover.Command :=
  let mediaType := (headers.text? "content-type").bind Http.MediaType.read?
  if mediaType.any Http.MediaType.isJson then readCommandBody body
  else .error (.rejection 415 "content type is not JSON")

end EdgeGateway.Gateway
