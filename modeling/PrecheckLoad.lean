import PrecheckLoad.Main
import PrecheckLoad.Script
import PrecheckLoad.Proofs.Text.Parts
import PrecheckLoad.Proofs.Threshold.Reading
import PrecheckLoad.Proofs.Threshold.Names
import PrecheckLoad.Proofs.Threshold.Grammar
import PrecheckLoad.Proofs.Verdict.Entries
import PrecheckLoad.Proofs.Verdict.Conjunction
import PrecheckLoad.Proofs.Fleet.Status
import PrecheckLoad.Proofs.Fleet.Turn
import PrecheckLoad.Proofs.Fleet.Records
import PrecheckLoad.Proofs.Fleet.Course
import PrecheckLoad.Proofs.Fleet.Reachable
import PrecheckLoad.Proofs.Fleet.Advance
import PrecheckLoad.Proofs.Fleet.Bookkeeping
import PrecheckLoad.Proofs.Fleet.Stopping
import PrecheckLoad.Proofs.Fleet.Sharing
import PrecheckLoad.Proofs.Run.Traffic
import PrecheckLoad.Proofs.Limiter.Spacing
import PrecheckLoad.Proofs.Service.Sales
import PrecheckLoad.Proofs.Pattern.Composition
import PrecheckLoad.Proofs.Report.Order
import PrecheckLoad.Proofs.Run.Conservation
import PrecheckLoad.Proofs.Run.RateCap
import PrecheckLoad.Proofs.Decimal.Digits
import PrecheckLoad.Proofs.Decimal.Grammar
import PrecheckLoad.Proofs.Json.Leaves
import PrecheckLoad.Proofs.Json.Texts
import PrecheckLoad.Proofs.Json.Written
import PrecheckLoad.Proofs.Duration.Phrase
import PrecheckLoad.Proofs.Duration.RoundTrip
import PrecheckLoad.Proofs.Json.Nesting
import PrecheckLoad.Proofs.Json.Decoding
import PrecheckLoad.Proofs.Json.Depth
import PrecheckLoad.Proofs.Json.Objects
import PrecheckLoad.Proofs.Config.Nesting
import PrecheckLoad.Proofs.Config.Parts
import PrecheckLoad.Proofs.Config.RoundTrip
import PrecheckLoad.Proofs.Schedule.Completion
import PrecheckLoad.Proofs.Schedule.Course
import PrecheckLoad.Proofs.Schedule.Standstill
import PrecheckLoad.Proofs.Fleet.Shutdown
import PrecheckLoad.Proofs.Run.Ticks
import PrecheckLoad.Proofs.Run.Ending
import PrecheckLoad.Proofs.Run.Timeline
import PrecheckLoad.Proofs.Service.Headers
import PrecheckLoad.Proofs.Service.Purchases
import PrecheckLoad.Proofs.Pattern.Bodies
import PrecheckLoad.Proofs.Service.Ledger
import PrecheckLoad.Proofs.Service.Demand
import PrecheckLoad.Proofs.Fleet.Crashes
import PrecheckLoad.Proofs.Run.Arithmetic
import PrecheckLoad.Proofs.Run.Convergence
import PrecheckLoad.Proofs.Decimal.Rounding
import PrecheckLoad.Proofs.Decimal.Shortest
import PrecheckLoad.Proofs.Decimal.RoundTrip
import PrecheckLoad.Proofs.Threshold.RoundTrip
import PrecheckLoad.Proofs.Verdict.Tolerances
import PrecheckLoad.Proofs.Pattern.Acceptance
import PrecheckLoad.Proofs.Pattern.Totality
import PrecheckLoad.Proofs.Pattern.Fields
import PrecheckLoad.Proofs.Pattern.Claims
import PrecheckLoad.Proofs.Pattern.Identities
import PrecheckLoad.Proofs.Pattern.Duplicates
import PrecheckLoad.Proofs.Random.Seeds
import PrecheckLoad.Proofs.Pacing.Windows
import PrecheckLoad.Proofs.CommandLine.Arguments
import PrecheckLoad.Proofs.CommandLine.Overrides
import PrecheckLoad.Proofs.Pattern.Settings
import PrecheckLoad.Proofs.Url.Parts
import PrecheckLoad.Proofs.Config.Endpoint
