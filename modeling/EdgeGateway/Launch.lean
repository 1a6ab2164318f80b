import EdgeGateway.Config.File
import EdgeGateway.Gateway.Service
import EdgeGateway.Observe.Log
import EdgeGateway.Route.Bridge
import EdgeGateway.Store.SeedFile

/-!
# Launch

How the program starts and ends.  It loads its configuration, builds the store
and the parts of the gateway, loads the routes, and serves on its address until
a signal stops it.  What can fail on the way ends the program with an error and
the cause of it; nothing is logged before the configuration has been loaded.
-/

namespace EdgeGateway.Launch

open Observe (Level LogFilter LogRecord LogValue)

/-- An error that ends the program, and what caused it. -/
structure Failure where
  error : Explanation
  cause : Option Explanation := none
  deriving Repr, DecidableEq

namespace Failure

/-- Both parts in one line. -/
def summary (failure : Failure) : Explanation :=
  match failure.cause with
  | none => failure.error
  | some cause => cause.after (failure.error.full ++ ": ")

/-- What is written when the program ends. -/
def report (failure : Failure) : Explanation :=
  match failure.cause with
  | none => failure.error.after "Error: "
  | some cause =>
      { cause with text := Text.replace "\n" "\n    " cause.text }.after
        ("Error: " ++ failure.error.full ++ "\n\nCaused by:\n    ")

end Failure

inductive Signal where
  | interrupt
  | terminate
  deriving Repr, DecidableEq

/-- What the program finds when it starts: its environment, and its files under
their paths, each with its text or why that cannot be read. -/
structure Host where
  environment : Config.Environment
  files : List (String × Except String String)

namespace Host

def file? (host : Host) (path : String) : Option (Except String String) :=
  (host.files.find? fun (known, _) => known = path).map Prod.snd

def contentOf (host : Host) (path : String) : Except String String :=
  (host.file? path).getD (.error "No such file or directory (os error 2)")

end Host

/-- What a part of the program has logged, and how it has ended. -/
structure Logged (α : Type) where
  log : List LogRecord
  result : Except Failure α

structure Outcome where
  log : List LogRecord
  served : Bool
  failure : Option Failure

def Outcome.exitCode (outcome : Outcome) : Nat :=
  if outcome.failure.isSome then 1 else 0

def mainTarget : String := "edge_control_plane"

def infoRecord (target : String) (message : String)
    (values : List (String × LogValue) := []) : LogRecord :=
  ⟨.info, target, message, values⟩

def warnRecord (target : String) (message : String)
    (values : List (String × LogValue) := []) : LogRecord :=
  ⟨.warn, target, message, values⟩

/-! ## Configuration -/

def defaultConfigPath : String := "config/control-plane.yaml"

def configPath (environment : Config.Environment) : String :=
  (environment.value? "CONTROL_PLANE_CONFIG").getD defaultConfigPath

/-- Loads the configuration; without a file the defaults are used. -/
def loadConfig (host : Host) : Except Failure Config.Gateway :=
  let path := configPath host.environment
  match host.file? path with
  | some content =>
      match Config.Gateway.load host.environment path content with
      | .ok config => .ok config
      | .error error =>
          .error ⟨s!"Failed to load configuration from {path}", some error.explain⟩
  | none =>
      match Config.Gateway.settle host.environment {} with
      | .ok config => .ok config
      | .error error => .error ⟨error.explain, none⟩

/-! ## The filter of the log -/

/-- What a level by its name stands for; any other text means the default. -/
def levelDirectives (text : String) : String :=
  let level := Unicode.lowercase text
  let known := ["trace", "debug", "info", "warn", "error"].contains level
  "edge_control_plane=" ++ (if known then level else "info") ++
    ",tower_http=info"

/-- A filter in the environment goes before the configured level. -/
def logFilter (environment : Config.Environment)
    (config : Config.Observability) : LogFilter :=
  ((environment.value? "RUST_LOG").bind LogFilter.read?).getD <|
    (LogFilter.read? (levelDirectives config.logLevel)).getD ⟨[]⟩

def formatName : Config.LogFormat → String
  | .json => "Json"
  | .pretty => "Pretty"

def loggingRecord (config : Config.Observability) : LogRecord :=
  infoRecord "edge_control_plane::observability::logging"
    "Structured logging initialized"
    [("level", .text config.logLevel),
     ("format", .text (formatName config.logFormat))]

/-! ## The parts of the gateway -/

def countersRecords (config : Config.Observability) : List LogRecord :=
  if config.metricsEnabled then
    [infoRecord mainTarget "📈 Prometheus metrics enabled"]
  else []

def seedFailure (path : String) (error : Store.Error) : Failure :=
  ⟨s!"Failed to seed memory store from {path}", some error.explain⟩

/-- The store, and what is logged while it is built. -/
def buildStore (host : Host) (config : Config.Store) :
    Except Failure (Store.Memory × List LogRecord) :=
  match config.backend, config.seedFile with
  | .postgres, _ =>
      .error
        ⟨"the postgres store backend requires building with the `postgres` feature",
          none⟩
  | .memory, none =>
      .ok ({}, [warnRecord mainTarget
        "⚠️  Memory store without seed file; no routes will match"])
  | .memory, some path =>
      match Store.Seed.load (host.contentOf path) with
      | .error error => .error (seedFailure path error)
      | .ok seed =>
          .ok (seed.toStore, [infoRecord "edge_control_plane::store::memory"
            "Seeded in-memory store"
            [("routes", .count seed.routes.length),
             ("preferences", .count seed.preferences.length)]])

def failoverRecords (config : Config.Failover) : List LogRecord :=
  match config.misconfiguration? with
  | some error =>
      [warnRecord "edge_control_plane::failover::coordinator"
        "Region failover degraded" [("error", .text error.explain)]]
  | none => []

def preflightRecord (config : Config.Cors) : LogRecord :=
  infoRecord "edge_control_plane::cors::preflight" "Preflight cache ready"
    [("ttl", .text config.effectiveCacheTtl.compact)]

def bridgeRecords (config : Config.Refresh) : List LogRecord :=
  if config.redisUrl.isSome then
    [infoRecord mainTarget "📡 Redis route refresh bridge enabled"
      [("channel", .text config.channel)]]
  else []

def sourceTarget : String := "edge_control_plane::routing::source"

/-- What is logged about a row that makes no route. -/
def rowRecord? (row : Route.Row) : Option LogRecord :=
  match Route.Resolved.ofRow row with
  | .ok (some _) => none
  | .ok none =>
      some <| warnRecord sourceTarget
        "Route has no target after blue-green/traffic-split resolution, skipping"
        [("route_id", .text row.id)]
  | .error error =>
      some <| warnRecord sourceTarget "Malformed route row, skipping"
        [("route_id", .text row.id), ("error", .text error.explain)]

/-- What is logged about the first load of the routes. -/
def loadRecords (store : Store.Memory) : List LogRecord :=
  match store.readRoutes with
  | .error error =>
      [warnRecord sourceTarget "Route store unavailable"
        [("error", .text error.explain)],
       warnRecord sourceTarget "No routes loaded yet; serving an empty route set"]
  | .ok rows =>
      let routes := (Route.resolveRows rows).1
      rows.filterMap rowRecord? ++
        [infoRecord sourceTarget "Routes loaded"
          [("loaded", .count routes.length), ("rows", .count rows.length)]]

def warmRecord (routes : List Route.Resolved) : LogRecord :=
  infoRecord mainTarget "✅ Route cache warmed" [("routes", .count routes.length)]

/-! ## Serving -/

def serverTarget : String := "edge_control_plane::gateway::server"

/-- The error of a server whose address cannot be bound. -/
def bindError (address : Net.SocketAddress) (reason : String) : GatewayError :=
  .internal s!"Failed to bind server to {address.write}: {reason}"

def signalText : Signal → String
  | .interrupt => "📡 Received SIGINT (Ctrl+C), initiating graceful shutdown..."
  | .terminate => "📡 Received SIGTERM, initiating graceful shutdown..."

/-- The address to serve on. -/
def serverAddress (config : Config.Server) :
    Except Failure Net.SocketAddress :=
  match Net.SocketAddress.read?
      (config.bindAddress ++ ":" ++ Text.decimal config.portNumber) with
  | some address => .ok address
  | none => .error ⟨"Invalid bind address", some "invalid socket address syntax"⟩

def adminRecords (config : Config.Server) (address : Net.SocketAddress) :
    List LogRecord :=
  if config.adminEnabled then
    [infoRecord mainTarget
      s!"⚙️  Admin endpoints mounted under {address.write}/admin"]
  else []

/-- A gateway that is ready to serve. -/
structure Prepared where
  service : Gateway.Service
  state : Gateway.ServiceState
  address : Net.SocketAddress
  /-- What the first load of the routes has counted. -/
  counted : List Observe.Counter

/-- Builds the gateway and loads its routes. -/
def prepare (host : Host) (config : Config.Gateway) : Logged Prepared :=
  let begun := countersRecords config.observability ++
    [infoRecord mainTarget "🔗 Initializing store backend..."]
  match buildStore host config.store with
  | .error failure => ⟨begun, .error failure⟩
  | .ok (store, stored) =>
      let state := Gateway.State.initial config store
      let listed := state.cache.list state.now state.store
      let built := begun ++ stored ++
        [infoRecord mainTarget "🛣️  Building control plane components..."] ++
        failoverRecords config.failover ++ [preflightRecord config.cors] ++
        bridgeRecords config.refresh ++ loadRecords store ++
        [warmRecord listed.routes]
      match serverAddress config.server with
      | .error failure => ⟨built, .error failure⟩
      | .ok address =>
          ⟨built ++ adminRecords config.server address,
            .ok {
              service := .ofConfig config config.observability.metricsEnabled
              state := ⟨{ state with cache := listed.cache, store := listed.store }, {}⟩
              address := address
              counted := listed.counted }⟩

/-- What is logged once the address is bound. -/
def listeningRecord (address : Net.SocketAddress) : LogRecord :=
  infoRecord serverTarget s!"🌐 Edge control plane listening on {address.write}"

/-- What is logged when a signal ends the serving. -/
def stoppingRecords (signal : Signal) : List LogRecord :=
  [infoRecord serverTarget (signalText signal),
   infoRecord serverTarget "🏁 Server stopped accepting connections"]

/-- What is logged before anything else. -/
def startRecords (config : Config.Observability) : List LogRecord :=
  [loggingRecord config, infoRecord mainTarget "🚀 Starting edge control plane",
   infoRecord mainTarget s!"Version: {Gateway.productVersion}"]

/-- What is logged about the end of the program. -/
def endRecord (failure : Option Failure) : LogRecord :=
  match failure with
  | some failure =>
      ⟨.error, mainTarget, failure.summary.after "Edge control plane failed: ", []⟩
  | none => infoRecord mainTarget "✅ Edge control plane shutdown complete"

/-! ## The whole program -/

/-- Serves until a signal comes, unless the address cannot be bound. -/
def serve (prepared : Logged Prepared)
    (bindFault? : Net.SocketAddress → Option String) (signal : Signal) : Outcome :=
  match prepared.result with
  | .error failure => ⟨prepared.log, false, some failure⟩
  | .ok gateway =>
      match bindFault? gateway.address with
      | some reason =>
          ⟨prepared.log, false,
            some ⟨(bindError gateway.address reason).explain, none⟩⟩
      | none =>
          ⟨prepared.log ++ [listeningRecord gateway.address] ++
            stoppingRecords signal, true, none⟩

/-- The program from its start to its end, with the records that its filter lets
through, and how its log is to be written. -/
def run (host : Host) (bindFault? : Net.SocketAddress → Option String)
    (signal : Signal) : Outcome × Config.LogFormat :=
  match loadConfig host with
  | .error failure => (⟨[], false, some failure⟩, .json)
  | .ok config =>
      let outcome := serve (prepare host config) bindFault? signal
      let records := startRecords config.observability ++ outcome.log ++
        [endRecord outcome.failure]
      let filter := logFilter host.environment config.observability
      ({ outcome with log := records.filter filter.allows },
        config.observability.logFormat)

end EdgeGateway.Launch
