import EdgeGateway.Failover.Region
import EdgeGateway.Text.Ascii
import EdgeGateway.Text.Blank

/-!
# Operators

An operator asks for a failover without naming a region, for the primary by its
name, by the word `primary` or by a blank, or for a backup by its name.  Any
other name is refused, and so is everything while failover is disabled.
-/

namespace EdgeGateway.Failover

/-- What an operator asks for. -/
inductive Request where
  | failover
  | restore
  | region (name : String)
  | unknown (name : String)
  deriving Repr, DecidableEq

namespace Request

def ofArgument (config : Config.Failover) : Option String → Request
  | none => failover
  | some argument =>
      let name := Text.trim argument
      if name = "" ∨ Text.equalIgnoringCase name "primary" ∨
          name = config.primaryRegion then restore
      else if config.backupRegions.contains name then region name
      else unknown name

end Request

def operate (config : Config.Failover) (argument : Option String)
    (state : State) : Except GatewayError Step :=
  if !config.enabled then
    .error (.preconditionFailed "region failover is disabled")
  else
    match Request.ofArgument config argument with
    | .failover => .ok (triggerFailover config state)
    | .restore => .ok (restorePrimary config state)
    | .region name => .ok (failoverTo config name state)
    | .unknown name =>
        .error (.invalidRequest "region" s!"'{name}' is not a configured region")

end EdgeGateway.Failover
