import PrecheckLoad.Config.Basic
import PrecheckLoad.Fleet.Basic
import PrecheckLoad.Report

/-!
# Runs

A run looks at its schedule at regular ticks, notes each change of the target, and brings the fleet
to it, until the schedule is complete. Then the fleet is shut down and the samples are judged.
-/
namespace PrecheckLoad

namespace Run

/-- When a tick takes place. -/
def tickTime (interval : Duration) (k : Nat) : Nat := Duration.ceilMillis (k * interval.nanos)

/-- What a run has come to at a tick. -/
structure State where
  fleet : Fleet := {}
  /-- The latest change of the target comes first. -/
  timeline : List Transition := []
  peak : Nat := 0

/-- Notes the target where it differs from the one before. -/
def State.note (st : State) (elapsed : Duration) (target : UInt64) : State :=
  if (st.timeline.head?.map (·.target)) = some target then st
  else { st with timeline := ⟨elapsed, target⟩ :: st.timeline }

/-- Brings the fleet to the target. -/
def State.follow (st : State) (now target : Nat) : State :=
  let fleet := st.fleet.reconcile now target
  { st with fleet, peak := max st.peak fleet.live }

structure Plan where
  workload : Workload
  schedule : Schedule
  interval : Duration

/-- More ticks than any schedule needs. -/
def Plan.tickBound (p : Plan) : Nat :=
  Duration.totalNanos (p.schedule.stages.map (·.duration)) / p.interval.nanos + 2

/-- Ticks from the `k`th on, until the schedule is complete: the time of the last tick and the state
in which the fleet is shut down. -/
def Plan.ticks (p : Plan) : Nat → Nat → State → Except Duration.Overflow (Nat × State)
  | 0, k, st => .ok (tickTime p.interval k, st)
  | fuel + 1, k, st => do
    let now := tickTime p.interval k
    let elapsed ← Duration.ofNanos (now * 1000000)
    let target ← p.schedule.target elapsed
    let st := st.note elapsed target
    if ← p.schedule.isComplete elapsed then return (now, st)
    let st := st.follow now target.toNat
    let fleet := st.fleet.advance p.workload now (tickTime p.interval (k + 1))
    p.ticks fuel (k + 1) { st with fleet }

/-- What is left of a run when it is over. -/
structure Result where
  elapsed : Duration
  shared : Shared
  timeline : List Transition
  peak : Nat

def Plan.run (p : Plan) (limiter : Option Limiter) : Except Duration.Overflow Result := do
  let start : State := { fleet := { shared := { limiter } } }
  let (now, st) ← p.ticks p.tickBound 0 start
  let (stop, fleet) := st.fleet.shutdown p.workload now
  let elapsed ← Duration.ofNanos (stop * 1000000)
  return ⟨elapsed, fleet.shared, st.timeline.reverse, st.peak⟩

end Run

/-- A validated test, ready to run. -/
structure LoadTest where
  config : Config
  thresholds : List Threshold
  checks : List Check

namespace LoadTest

def ofConfig (c : Config) : Except ConfigFault LoadTest := do
  c.validate
  let thresholds ← c.compileThresholds.mapError .threshold
  return ⟨c, thresholds, c.checks.map CheckSpec.check⟩

def withCheck (t : LoadTest) (c : Check) : LoadTest :=
  { t with checks := t.checks ++ [c] }

/-- A rate cap lets one request pass at a time. -/
def limiter (t : LoadTest) : Option Limiter :=
  t.config.maxRate.map fun r => .perSecond r.perSecond 1

def plan (t : LoadTest) (seed : UInt64) (execute : Executor) : Run.Plan where
  workload := {
    url := t.config.precheckUrl
    seed
    pattern := t.config.pattern
    execute
    checks := t.checks
    pacing := t.config.pacing }
  schedule := t.config.schedule
  interval := t.config.reconcileInterval

def report (t : LoadTest) (seed : UInt64) (r : Run.Result) : Except Duration.Overflow Report := do
  let log := r.shared.log
  return {
    name := t.config.name
    seed
    elapsed := r.elapsed
    iterations := log.samples.length
    transportFailures := transportFailures log.samples
    statuses := statusCounts log.samples
    latency := ← LatencySummary.of log.samples
    checks := checkTallies log.checks
    peakUsers := r.peak
    timeline := r.timeline
    verdict := Verdict.evaluate t.thresholds log }

/-- Runs a test with a seed; the seed of the configuration, if any, has been taken by the caller. -/
def run (t : LoadTest) (seed : UInt64) (execute : Executor) :
    Except Duration.Overflow (Run.Result × Report) := do
  let r ← (t.plan seed execute).run t.limiter
  return (r, ← t.report seed r)

end LoadTest
end PrecheckLoad
