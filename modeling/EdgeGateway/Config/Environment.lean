import EdgeGateway.Config.Basic
import EdgeGateway.Text.Blank

/-!
# Settings from the environment

Variables with the prefix `CONTROL_PLANE_` override single settings.  They are
looked at in a fixed order, and the first that cannot be read is the error.
-/

namespace EdgeGateway.Config

/-- The variables of a process. -/
structure Environment where
  entries : List (String × String) := []

namespace Environment

def value? (environment : Environment) (name : String) : Option String :=
  (environment.entries.find? fun (known, _) => known = name).map Prod.snd

end Environment

def invalidVariable (name : String) (reason : Explanation) : GatewayError :=
  .configuration (reason.after s!"Invalid {name}: ")

/-- A variable, and the setting that its text replaces. -/
structure Override where
  name : String
  apply : String → Gateway → Except Explanation Gateway

/-- Replaces the setting if the variable is set. -/
def Override.run (environment : Environment) (override : Override)
    (config : Gateway) : Except GatewayError Gateway :=
  match environment.value? override.name with
  | none => .ok config
  | some text =>
      match override.apply text config with
      | .ok config => .ok config
      | .error reason => .error (invalidVariable override.name reason)

def readCount (limit : Nat) (text : String) : Except Explanation Nat :=
  match Text.readNatural limit text with
  | .ok value => .ok value
  | .error error => .error error.message

def readSpan (text : String) : Except Explanation Duration :=
  match Duration.read text with
  | .ok duration => .ok duration
  | .error error => .error (.withReason "" error.message)

def readFlag (text : String) : Except Explanation Bool :=
  match text with
  | "true" => .ok true
  | "false" => .ok false
  | _ => .error (Coe.coe "provided string was not `true` or `false`")

def readFormat (text : String) : Except Explanation LogFormat :=
  match text with
  | "json" => .ok .json
  | "pretty" => .ok .pretty
  | other => .error (Coe.coe other)

/-- The parts between commas, without blanks around them and without empty
ones. -/
def readList (text : String) : List String :=
  (Text.split ',' text).filterMap fun part =>
    let trimmed := Text.trim part
    if trimmed = "" then none else some trimmed

/-- All variables in the order in which they are looked at. -/
def overrides : List Override :=
  [⟨"CONTROL_PLANE_SERVER_BIND_ADDRESS", fun text config =>
      .ok { config with server.bindAddress := text }⟩,
   ⟨"CONTROL_PLANE_SERVER_PORT", fun text config => do
      return { config with server.portNumber := ← readCount Text.limit16 text }⟩,
   ⟨"CONTROL_PLANE_SERVER_UPSTREAM_TIMEOUT", fun text config => do
      return { config with server.backendTimeout := ← readSpan text }⟩,
   ⟨"CONTROL_PLANE_ROUTES_CACHE_TTL", fun text config => do
      return { config with routes.cacheTtl := ← readSpan text }⟩,
   ⟨"CONTROL_PLANE_FAILOVER_ENABLED", fun text config => do
      return { config with failover.enabled := ← readFlag text }⟩,
   ⟨"CONTROL_PLANE_FAILOVER_PRIMARY_REGION", fun text config =>
      .ok { config with failover.primaryRegion := text }⟩,
   ⟨"CONTROL_PLANE_FAILOVER_BACKUP_REGIONS", fun text config =>
      .ok { config with failover.backupRegions := readList text }⟩,
   ⟨"CONTROL_PLANE_FAILOVER_FAILURE_THRESHOLD", fun text config => do
      return { config with
        failover.failureThreshold := ← readCount Text.limit32 text }⟩,
   ⟨"CONTROL_PLANE_FAILOVER_FAILURE_WINDOW", fun text config => do
      return { config with failover.failureWindow := ← readSpan text }⟩,
   ⟨"CONTROL_PLANE_CORS_PREFLIGHT_CACHE_TTL", fun text config => do
      return { config with cors.preflightCacheTtl := ← readSpan text }⟩,
   ⟨"CONTROL_PLANE_STORE_DATABASE_URL", fun text config =>
      .ok { config with store.databaseUrl := some text }⟩,
   ⟨"CONTROL_PLANE_REFRESH_REDIS_URL", fun text config =>
      .ok { config with refresh.redisUrl := some text }⟩,
   ⟨"CONTROL_PLANE_LOG_LEVEL", fun text config =>
      .ok { config with observability.logLevel := text }⟩,
   ⟨"CONTROL_PLANE_LOG_FORMAT", fun text config => do
      return { config with observability.logFormat := ← readFormat text }⟩]

def overrideNames : List String := overrides.map Override.name

def Gateway.withEnvironment (environment : Environment) (config : Gateway) :
    Except GatewayError Gateway :=
  overrides.foldlM (fun config override => override.run environment config) config

end EdgeGateway.Config
