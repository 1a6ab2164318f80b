import EdgeGateway.Config.Encode
import EdgeGateway.Cors.Run
import EdgeGateway.Gateway.Run
import EdgeGateway.Gateway.Traffic
import EdgeGateway.Main
import EdgeGateway.Route.Calls
import EdgeGateway.Route.Encode
import EdgeGateway.Route.Signals
import EdgeGateway.Version.Run
import EdgeGateway.Proofs.Failover.Streak
import EdgeGateway.Proofs.Failover.Stickiness
import EdgeGateway.Proofs.Failover.Naming
import EdgeGateway.Proofs.Failover.Answering
import EdgeGateway.Proofs.Failover.Warning
import EdgeGateway.Proofs.Failover.Tally
import EdgeGateway.Proofs.Route.Slots
import EdgeGateway.Proofs.Route.Freshness
import EdgeGateway.Proofs.Route.Serving
import EdgeGateway.Proofs.Route.Selection
import EdgeGateway.Proofs.Route.Shares
import EdgeGateway.Proofs.Route.Template
import EdgeGateway.Proofs.Route.Shorthand
import EdgeGateway.Proofs.Route.SingleFlight
import EdgeGateway.Proofs.Route.Outage
import EdgeGateway.Proofs.Route.Refreshing
import EdgeGateway.Proofs.Route.Stripping
import EdgeGateway.Proofs.Route.Attributes
import EdgeGateway.Proofs.Gateway.Writers
import EdgeGateway.Proofs.Gateway.Destination
import EdgeGateway.Proofs.Gateway.Tagging
import EdgeGateway.Proofs.Gateway.VersionField
import EdgeGateway.Proofs.Gateway.FilterOrder
import EdgeGateway.Proofs.Gateway.VersionInPath
import EdgeGateway.Proofs.Gateway.Outcomes
import EdgeGateway.Proofs.Text.Pieces
import EdgeGateway.Proofs.Text.Slots
import EdgeGateway.Proofs.Time.Expiring
import EdgeGateway.Proofs.Observe.Totals
import EdgeGateway.Proofs.Cors.Question
import EdgeGateway.Proofs.Cors.Transparency
import EdgeGateway.Proofs.Cors.Wildcard
import EdgeGateway.Proofs.Cors.RequestedHeaders
import EdgeGateway.Proofs.Version.Lookup
import EdgeGateway.Proofs.Version.Recall
import EdgeGateway.Proofs.Version.ResourceKey
import EdgeGateway.Proofs.Gateway.Touching
import EdgeGateway.Proofs.Gateway.Course
import EdgeGateway.Proofs.Gateway.Repetition
import EdgeGateway.Proofs.Gateway.Lifetimes
import EdgeGateway.Proofs.Gateway.PassedOn
import EdgeGateway.Proofs.Regex.Branches
import EdgeGateway.Proofs.Regex.Enclosing
import EdgeGateway.Proofs.Regex.Exploration
import EdgeGateway.Proofs.Regex.Matching
import EdgeGateway.Proofs.Regex.Passing
import EdgeGateway.Proofs.Regex.Wrapping
import EdgeGateway.Proofs.Route.PathLanguage
import EdgeGateway.Proofs.Route.Precedence
import EdgeGateway.Proofs.Route.WholeValue
import EdgeGateway.Proofs.Route.HostPattern
import EdgeGateway.Proofs.Launch.Address
