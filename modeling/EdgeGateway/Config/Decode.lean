import EdgeGateway.Config.Basic
import EdgeGateway.Document.Decode

/-!
# Reading settings

Every section and every field may be absent and then has its default.  Spans of
time are written with units.
-/

namespace EdgeGateway.Config

def decodeDuration (document : Document) : Decoded Duration := do
  match Duration.read (← document.asText) with
  | .ok duration => return duration
  | .error error => throw (.invalidText error.message)

def decodeTexts : Document → Decoded (List String) :=
  Document.asList Document.asText

def decodeCount : Document → Decoded Nat :=
  Document.asNatural Text.limit32

namespace Server

def decode (document : Document) : Decoded Server := do
  let fields ← document.asFields
    ["bind_address", "port", "upstream_timeout", "admin_enabled"]
  let base : Server := {}
  return {
    bindAddress := ← fields.withDefault "bind_address" base.bindAddress
      Document.asText
    portNumber := ← fields.withDefault "port" base.portNumber
      (Document.asNatural Text.limit16)
    backendTimeout := ← fields.withDefault "upstream_timeout"
      base.backendTimeout decodeDuration
    adminEnabled := ← fields.withDefault "admin_enabled" base.adminEnabled
      Document.asBool }

end Server

namespace Routes

def decode (document : Document) : Decoded Routes := do
  let fields ← document.asFields ["cache_ttl"]
  let base : Routes := {}
  return {
    cacheTtl := ← fields.withDefault "cache_ttl" base.cacheTtl decodeDuration }

end Routes

namespace Failover

def decode (document : Document) : Decoded Failover := do
  let fields ← document.asFields
    ["enabled", "primary_region", "backup_regions", "failure_threshold",
     "failure_window", "region_header"]
  let base : Failover := {}
  return {
    enabled := ← fields.withDefault "enabled" base.enabled Document.asBool
    primaryRegion := ← fields.withDefault "primary_region" base.primaryRegion
      Document.asText
    backupRegions := ← fields.withDefault "backup_regions" base.backupRegions
      decodeTexts
    failureThreshold := ← fields.withDefault "failure_threshold"
      base.failureThreshold decodeCount
    failureWindow := ← fields.withDefault "failure_window" base.failureWindow
      decodeDuration
    regionHeader := ← fields.withDefault "region_header" base.regionHeader
      Document.asText }

end Failover

namespace Cors

def decode (document : Document) : Decoded Cors := do
  let fields ← document.asFields
    ["allowed_origins", "allowed_methods", "allowed_headers", "exposed_headers",
     "allow_credentials", "max_age", "preflight_cache_ttl", "sweep_interval"]
  let base : Cors := {}
  return {
    allowedOrigins := ← fields.withDefault "allowed_origins"
      base.allowedOrigins decodeTexts
    allowedMethods := ← fields.withDefault "allowed_methods"
      base.allowedMethods decodeTexts
    allowedHeaders := ← fields.withDefault "allowed_headers"
      base.allowedHeaders decodeTexts
    exposedHeaders := ← fields.withDefault "exposed_headers"
      base.exposedHeaders decodeTexts
    allowCredentials := ← fields.withDefault "allow_credentials"
      base.allowCredentials Document.asBool
    maxAge := ← fields.withDefault "max_age" base.maxAge decodeCount
    preflightCacheTtl := ← fields.withDefault "preflight_cache_ttl"
      base.preflightCacheTtl decodeDuration
    sweepInterval := ← fields.withDefault "sweep_interval" base.sweepInterval
      decodeDuration }

end Cors

namespace Versioning

def decode (document : Document) : Decoded Versioning := do
  let fields ← document.asFields
    ["tenant_header", "cache_ttl", "version_header", "rewrite_path",
     "namespaces", "sweep_interval"]
  let base : Versioning := {}
  return {
    tenantHeader := ← fields.withDefault "tenant_header" base.tenantHeader
      Document.asText
    cacheTtl := ← fields.withDefault "cache_ttl" base.cacheTtl decodeDuration
    versionHeader := ← fields.withDefault "version_header" base.versionHeader
      Document.asText
    replacePath := ← fields.withDefault "rewrite_path" base.replacePath
      Document.asBool
    namespaces := ← fields.withDefault "namespaces" base.namespaces decodeTexts
    sweepInterval := ← fields.withDefault "sweep_interval" base.sweepInterval
      decodeDuration }

end Versioning

namespace Store

def decodeBackend : Document → Decoded Backend :=
  Document.asVariant "memory or postgres"
    [("memory", .memory), ("postgres", .postgres)]

def decode (document : Document) : Decoded Store := do
  let fields ← document.asFields
    ["backend", "database_url", "max_connections", "seed_file"]
  let base : Store := {}
  return {
    backend := ← fields.withDefault "backend" base.backend decodeBackend
    databaseUrl := ← fields.optional "database_url" Document.asText
    maxConnections := ← fields.withDefault "max_connections"
      base.maxConnections decodeCount
    seedFile := ← fields.optional "seed_file" Document.asText }

end Store

namespace Refresh

def decode (document : Document) : Decoded Refresh := do
  let fields ← document.asFields ["redis_url", "channel", "reconnect_delay"]
  let base : Refresh := {}
  return {
    redisUrl := ← fields.optional "redis_url" Document.asText
    channel := ← fields.withDefault "channel" base.channel Document.asText
    reconnectDelay := ← fields.withDefault "reconnect_delay"
      base.reconnectDelay decodeDuration }

end Refresh

namespace Observability

def decodeFormat : Document → Decoded LogFormat :=
  Document.asVariant "json or pretty" [("json", .json), ("pretty", .pretty)]

def decode (document : Document) : Decoded Observability := do
  let fields ← document.asFields ["log_level", "log_format", "metrics_enabled"]
  let base : Observability := {}
  return {
    logLevel := ← fields.withDefault "log_level" base.logLevel Document.asText
    logFormat := ← fields.withDefault "log_format" base.logFormat decodeFormat
    metricsEnabled := ← fields.withDefault "metrics_enabled"
      base.metricsEnabled Document.asBool }

end Observability

namespace Gateway

def decode (document : Document) : Decoded Gateway := do
  let fields ← document.asFields
    ["server", "routes", "failover", "cors", "versioning", "store", "refresh",
     "observability"]
  return {
    server := ← fields.withDefault "server" {} Server.decode
    routes := ← fields.withDefault "routes" {} Routes.decode
    failover := ← fields.withDefault "failover" {} Failover.decode
    cors := ← fields.withDefault "cors" {} Cors.decode
    versioning := ← fields.withDefault "versioning" {} Versioning.decode
    store := ← fields.withDefault "store" {} Store.decode
    refresh := ← fields.withDefault "refresh" {} Refresh.decode
    observability := ← fields.withDefault "observability" {}
      Observability.decode }

end Gateway

end EdgeGateway.Config
