import EdgeGateway.GatewayError
import EdgeGateway.Time.Duration

/-!
# Configuration

The settings of the gateway, in sections, each with its defaults.  A cache
lifetime of zero means the default lifetime where the section says so.
-/

namespace EdgeGateway.Config

def defaultRouteTtl : Duration := .ofMinutes 5

def defaultPreflightTtl : Duration := .ofMinutes 10

def defaultPreferenceTtl : Duration := .ofMinutes 10

structure Server where
  bindAddress : String := "0.0.0.0"
  portNumber : Nat := 8080
  backendTimeout : Duration := .ofSeconds 10
  adminEnabled : Bool := true
  deriving Repr, DecidableEq

structure Routes where
  cacheTtl : Duration := defaultRouteTtl
  deriving Repr, DecidableEq

structure Failover where
  enabled : Bool := false
  primaryRegion : String := "primary"
  backupRegions : List String := []
  failureThreshold : Nat := 3
  failureWindow : Duration := .ofSeconds 60
  regionHeader : String := "x-gateway-region"
  deriving Repr, DecidableEq

namespace Failover

/-- Failover that is on but has nowhere to go. -/
def misconfiguration? (config : Failover) : Option GatewayError :=
  if config.enabled && config.backupRegions.isEmpty then
    some <| .misconfiguration
      s!"failover is enabled for '{config.primaryRegion}' without backup regions; failover is a no-op"
  else none

end Failover

structure Cors where
  allowedOrigins : List String := []
  allowedMethods : List String :=
    ["GET", "POST", "PUT", "DELETE", "PATCH", "HEAD", "OPTIONS"]
  allowedHeaders : List String :=
    ["content-type", "authorization", "x-requested-with", "x-tenant-id"]
  exposedHeaders : List String := ["x-request-id", "x-gateway-region"]
  allowCredentials : Bool := false
  maxAge : Nat := 3600
  preflightCacheTtl : Duration := defaultPreflightTtl
  sweepInterval : Duration := .ofSeconds 60
  deriving Repr, DecidableEq

structure Versioning where
  tenantHeader : String := "x-tenant-id"
  cacheTtl : Duration := defaultPreferenceTtl
  versionHeader : String := "x-api-version"
  replacePath : Bool := true
  namespaces : List String := ["api"]
  sweepInterval : Duration := .ofSeconds 60
  deriving Repr, DecidableEq

/-- The lifetime to use: a lifetime of zero stands for the default. -/
def effectiveTtl (default ttl : Duration) : Duration :=
  if ttl.isZero then default else ttl

def Cors.effectiveCacheTtl (config : Cors) : Duration :=
  effectiveTtl defaultPreflightTtl config.preflightCacheTtl

def Versioning.effectiveCacheTtl (config : Versioning) : Duration :=
  effectiveTtl defaultPreferenceTtl config.cacheTtl

inductive Backend where
  | memory
  | postgres
  deriving Repr, DecidableEq

structure Store where
  backend : Backend := .memory
  databaseUrl : Option String := none
  maxConnections : Nat := 10
  seedFile : Option String := none
  deriving Repr, DecidableEq

structure Refresh where
  redisUrl : Option String := none
  channel : String := "gateway:routes:refresh"
  reconnectDelay : Duration := .ofSeconds 5
  deriving Repr, DecidableEq

inductive LogFormat where
  | json
  | pretty
  deriving Repr, DecidableEq

structure Observability where
  logLevel : String := "edge_control_plane=info,tower_http=info"
  logFormat : LogFormat := .json
  metricsEnabled : Bool := true
  deriving Repr, DecidableEq

structure Gateway where
  server : Server := {}
  routes : Routes := {}
  failover : Failover := {}
  cors : Cors := {}
  versioning : Versioning := {}
  store : Store := {}
  refresh : Refresh := {}
  observability : Observability := {}
  deriving Repr, DecidableEq

end EdgeGateway.Config
