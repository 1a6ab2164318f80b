import EdgeGateway.Config.Basic
import EdgeGateway.Http.Headers
import EdgeGateway.Net.Address
import EdgeGateway.Text.Blank

/-!
# Validation

A configuration that breaks rules is refused with all of its faults, in the
order of the sections.  Settings that are legal but suspicious give warnings.
-/

namespace EdgeGateway.Config

inductive Fault where
  | bindAddress (text : String)
  | backendTimeout
  | routeTtl
  | corsSweep
  | versioningSweep
  | primaryRegion
  | failureThreshold
  | failureWindow
  | headerName (field name : String)
  | databaseUrl
  deriving Repr, DecidableEq

namespace Fault

def message : Fault → String
  | bindAddress text => s!"bind_address '{text}' is not a valid IP address"
  | backendTimeout => "upstream_timeout must be greater than 0"
  | routeTtl => "routes.cache_ttl must be greater than 0"
  | corsSweep => "cors.sweep_interval must be greater than 0"
  | versioningSweep => "versioning.sweep_interval must be greater than 0"
  | primaryRegion => "failover.primary_region cannot be empty"
  | failureThreshold => "failover.failure_threshold must be greater than 0"
  | failureWindow => "failover.failure_window must be greater than 0"
  | headerName field name => s!"{field} '{name}' is not a valid header name"
  | databaseUrl => "store.database_url is required for the postgres backend"

end Fault

namespace Gateway

def faultIf (broken : Bool) (fault : Fault) : List Fault :=
  if broken then [fault] else []

def faults (config : Gateway) : List Fault :=
  let headerFault (field name : String) : List Fault :=
    faultIf (!Http.isHeaderName name) (.headerName field name)
  faultIf (Net.IpAddress.read? config.server.bindAddress).isNone
    (.bindAddress config.server.bindAddress) ++
  faultIf config.server.backendTimeout.isZero .backendTimeout ++
  faultIf config.routes.cacheTtl.isZero .routeTtl ++
  faultIf config.cors.sweepInterval.isZero .corsSweep ++
  faultIf config.versioning.sweepInterval.isZero .versioningSweep ++
  faultIf (Text.isBlankText config.failover.primaryRegion) .primaryRegion ++
  faultIf (config.failover.failureThreshold = 0) .failureThreshold ++
  faultIf config.failover.failureWindow.isZero .failureWindow ++
  headerFault "failover.region_header" config.failover.regionHeader ++
  headerFault "versioning.tenant_header" config.versioning.tenantHeader ++
  headerFault "versioning.version_header" config.versioning.versionHeader ++
  faultIf (config.store.backend = .postgres && config.store.databaseUrl.isNone)
    .databaseUrl

def validate (config : Gateway) : Except GatewayError Unit :=
  match config.faults with
  | [] => .ok ()
  | faults =>
      .error <| .configuration <| Coe.coe <|
        "Configuration validation failed: " ++
          Text.join "; " (faults.map Fault.message)

end Gateway

end EdgeGateway.Config
