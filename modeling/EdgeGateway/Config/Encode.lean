import EdgeGateway.Config.Basic
import EdgeGateway.Json.Basic

/-!
# Writing a configuration

A configuration as a document with every field, under the names by which it is
read.
-/

namespace EdgeGateway.Config

def durationJson (duration : Duration) : Json := .string duration.write

def Server.toJson (config : Server) : Json :=
  .object
    [("bind_address", .string config.bindAddress),
     ("port", .ofNat config.portNumber),
     ("upstream_timeout", durationJson config.backendTimeout),
     ("admin_enabled", .bool config.adminEnabled)]

def Routes.toJson (config : Routes) : Json :=
  .object [("cache_ttl", durationJson config.cacheTtl)]

def Failover.toJson (config : Failover) : Json :=
  .object
    [("enabled", .bool config.enabled),
     ("primary_region", .string config.primaryRegion),
     ("backup_regions", .ofStrings config.backupRegions),
     ("failure_threshold", .ofNat config.failureThreshold),
     ("failure_window", durationJson config.failureWindow),
     ("region_header", .string config.regionHeader)]

def Cors.toJson (config : Cors) : Json :=
  .object
    [("allowed_origins", .ofStrings config.allowedOrigins),
     ("allowed_methods", .ofStrings config.allowedMethods),
     ("allowed_headers", .ofStrings config.allowedHeaders),
     ("exposed_headers", .ofStrings config.exposedHeaders),
     ("allow_credentials", .bool config.allowCredentials),
     ("max_age", .ofNat config.maxAge),
     ("preflight_cache_ttl", durationJson config.preflightCacheTtl),
     ("sweep_interval", durationJson config.sweepInterval)]

def Versioning.toJson (config : Versioning) : Json :=
  .object
    [("tenant_header", .string config.tenantHeader),
     ("cache_ttl", durationJson config.cacheTtl),
     ("version_header", .string config.versionHeader),
     ("rewrite_path", .bool config.replacePath),
     ("namespaces", .ofStrings config.namespaces),
     ("sweep_interval", durationJson config.sweepInterval)]

def Backend.name : Backend → String
  | memory => "memory"
  | postgres => "postgres"

def Store.toJson (config : Store) : Json :=
  .object
    [("backend", .string config.backend.name),
     ("database_url", .ofOption .string config.databaseUrl),
     ("max_connections", .ofNat config.maxConnections),
     ("seed_file", .ofOption .string config.seedFile)]

def Refresh.toJson (config : Refresh) : Json :=
  .object
    [("redis_url", .ofOption .string config.redisUrl),
     ("channel", .string config.channel),
     ("reconnect_delay", durationJson config.reconnectDelay)]

def LogFormat.name : LogFormat → String
  | json => "json"
  | pretty => "pretty"

def Observability.toJson (config : Observability) : Json :=
  .object
    [("log_level", .string config.logLevel),
     ("log_format", .string config.logFormat.name),
     ("metrics_enabled", .bool config.metricsEnabled)]

def Gateway.toJson (config : Gateway) : Json :=
  .object
    [("server", config.server.toJson), ("routes", config.routes.toJson),
     ("failover", config.failover.toJson), ("cors", config.cors.toJson),
     ("versioning", config.versioning.toJson), ("store", config.store.toJson),
     ("refresh", config.refresh.toJson),
     ("observability", config.observability.toJson)]

end EdgeGateway.Config
