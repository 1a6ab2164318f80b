import EdgeGateway.Config.Decode
import EdgeGateway.Config.Environment
import EdgeGateway.Config.Validate
import EdgeGateway.Json.Reader
import EdgeGateway.Yaml.Reader

/-!
# Configuration files

A file is JSON if its name says so, and YAML otherwise.  What it says gives way
to the environment, and the result is checked.
-/

namespace EdgeGateway.Config

/-- The letters after the last point of a file name, if something stands before
it. -/
def extension? (path : String) : Option String :=
  let name := ((Text.splitAtEvery '/' path.toList).filter (· ≠ [])).getLast?.getD []
  match Text.splitAtFirst? '.' name.reverse with
  | some (_, []) => none
  | some (extension, _) => some (String.ofList extension.reverse)
  | none => none

def malformed (format : String) (reason : String) : GatewayError :=
  .configuration (.withReason s!"Failed to parse {format}: " reason)

def readJson (text : String) : Except GatewayError Gateway :=
  match Json.read text with
  | .error error => .error (malformed "JSON config" error.message)
  | .ok value =>
      match Gateway.decode (.ofJson value) with
      | .error error => .error (malformed "JSON config" error.message)
      | .ok config => .ok config

def readYaml (text : String) : Except GatewayError Gateway :=
  match Yaml.read text with
  | .error error => .error (malformed "config" error.message)
  | .ok document =>
      match Gateway.decode document with
      | .error error => .error (malformed "config" error.message)
      | .ok config => .ok config

namespace Gateway

/-- A configuration with the environment applied, if it is valid then. -/
def settle (environment : Environment) (config : Gateway) :
    Except GatewayError Gateway := do
  let config ← config.withEnvironment environment
  config.validate
  return config

/-- Loads what a file with this name holds, or reports why it cannot be read. -/
def load (environment : Environment) (path : String)
    (content : Except String String) : Except GatewayError Gateway :=
  match content with
  | .error reason => .error (.configuration s!"Failed to read config file: {reason}")
  | .ok text => do
      let config ←
        if extension? path = some "json" then readJson text else readYaml text
      config.settle environment

end Gateway

end EdgeGateway.Config
