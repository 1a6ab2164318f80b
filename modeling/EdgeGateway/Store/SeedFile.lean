import EdgeGateway.Store.Memory
import EdgeGateway.Yaml.Reader

/-!
# Seed files

The rows that a store starts with, in YAML.
-/

namespace EdgeGateway.Store.Seed

def malformed (reason : String) : Error :=
  .decode (.withReason "invalid seed file: " reason)

/-- Loads what a seed file holds, or reports why it cannot be read. -/
def load (content : Except String String) : Except Error Seed :=
  match content with
  | .error reason => .error (.connection s!"failed to read seed file: {reason}")
  | .ok text =>
      match Yaml.read text with
      | .error fault => .error (malformed fault.message)
      | .ok document =>
          match Seed.decode document with
          | .error error => .error (malformed error.message)
          | .ok seed => .ok seed

end EdgeGateway.Store.Seed
