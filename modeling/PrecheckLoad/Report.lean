import PrecheckLoad.Duration.Phrase
import PrecheckLoad.Json.Value
import PrecheckLoad.Verdict

/-!
# Reports

Everything reported at the end of a run, as text and as JSON. Statuses and checks are tallied from
the samples; the timeline lists the changes of the target.
-/
namespace PrecheckLoad

structure Tally where
  passes : Nat := 0
  fails : Nat := 0
deriving DecidableEq, Repr

namespace Tally

def total (t : Tally) : Nat := t.passes + t.fails

def rate (t : Tally) : Float := Statistics.ratio t.passes t.total

def push (t : Tally) (passed : Bool) : Tally :=
  if passed then { t with passes := t.passes + 1 } else { t with fails := t.fails + 1 }

end Tally

/-- Statuses with their numbers of responses, ascending. -/
def statusCounts (samples : List Sample) : List (UInt16 × Nat) :=
  samples.foldl (fun counts s =>
    match s.status with
    | some status => updateEntry status 0 (· + 1) counts
    | none => counts) []

/-- Samples without a response. -/
def transportFailures (samples : List Sample) : Nat :=
  samples.countP (·.status.isNone)

/-- Tallies by check name, ascending. -/
def checkTallies (results : List CheckResult) : List (String × Tally) :=
  results.foldl (fun tallies r => updateEntry r.name {} (·.push r.passed) tallies) []

structure Transition where
  elapsed : Duration
  target : UInt64
deriving DecidableEq

structure Report where
  name : String
  seed : UInt64
  elapsed : Duration
  iterations : Nat
  transportFailures : Nat
  statuses : List (UInt16 × Nat)
  latency : LatencySummary
  checks : List (String × Tally)
  peakUsers : Nat
  timeline : List Transition
  verdict : Verdict

namespace Report

def mark (good : Bool) : String :=
  if good then "✓" else "✗"

def latencyLine (l : LatencySummary) : String :=
  "  http_req_duration..: min=" ++ l.min.brief ++ " avg=" ++ l.avg.brief ++ " med=" ++
    l.med.brief ++ " p(90)=" ++ l.p90.brief ++ " p(95)=" ++ l.p95.brief ++ " p(99)=" ++
    l.p99.brief ++ " max=" ++ l.max.brief

def checkLine (name : String) (t : Tally) : String :=
  "  " ++ mark (t.fails = 0) ++ " " ++ name ++ ": " ++ Decimal.fixed 2 (t.rate * 100) ++ "% (" ++
    toString t.passes ++ " / " ++ toString t.total ++ ")"

def thresholdLine (name : String) (o : ThresholdOutcome) : String :=
  "  " ++ mark o.passed ++ " " ++ name ++ " (observed " ++ Decimal.fixed 4 o.observed ++ ")"

/-- The elapsed time is cut to milliseconds. -/
def lines (r : Report) : List String :=
  [r.name ++ " (seed " ++ toString r.seed.toNat ++ ") finished in " ++
      r.elapsed.wrappedMillis.phrase,
    "  iterations.........: " ++ toString r.iterations ++ " (" ++ toString r.transportFailures ++
      " transport failures), peak VUs " ++ toString r.peakUsers,
    "  statuses...........: " ++
      Text.joinWith " " (r.statuses.map fun (s, n) => toString s.toNat ++ "=" ++ toString n),
    latencyLine r.latency] ++
  r.checks.map (fun (name, t) => checkLine name t) ++
  r.verdict.outcomes.map (fun (name, o) => thresholdLine name o) ++
  ["  verdict............: " ++ (if r.verdict.passed then "PASS" else "FAIL")]

def text (r : Report) : String :=
  Text.joinWith "\n" r.lines

end Report

def ThresholdOutcome.toJson (o : ThresholdOutcome) : Json :=
  .object [("expression", .string o.expression), ("observed", .float o.observed),
    ("comparator", .string o.comparator.symbol), ("bound", .float o.bound),
    ("passed", .bool o.passed)]

def Verdict.toJson (v : Verdict) : Json :=
  .object [("passed", .bool v.passed),
    ("thresholds", .object (v.outcomes.map fun (name, o) => (name, o.toJson)))]

def LatencySummary.toJson (l : LatencySummary) : Json :=
  .object [("min", .duration l.min), ("avg", .duration l.avg), ("med", .duration l.med),
    ("p90", .duration l.p90), ("p95", .duration l.p95), ("p99", .duration l.p99),
    ("max", .duration l.max)]

def Tally.toJson (t : Tally) : Json :=
  .object [("passes", .nat t.passes), ("fails", .nat t.fails)]

def Transition.toJson (t : Transition) : Json :=
  .object [("elapsed", .duration t.elapsed), ("target", .word t.target)]

def Report.toJson (r : Report) : Json :=
  .object [("name", .string r.name), ("seed", .word r.seed), ("elapsed", .duration r.elapsed),
    ("iterations", .nat r.iterations), ("transport_failures", .nat r.transportFailures),
    ("statuses", .object (r.statuses.map fun (s, n) => (toString s.toNat, .nat n))),
    ("latency", r.latency.toJson),
    ("checks", .object (r.checks.map fun (name, t) => (name, t.toJson))),
    ("peak_vus", .nat r.peakUsers), ("timeline", .array (r.timeline.map Transition.toJson)),
    ("verdict", r.verdict.toJson)]

end PrecheckLoad
