import PrecheckLoad.Predicate
import PrecheckLoad.Threshold.Basic

/-!
# Samples and what is computed from them

A run leaves behind samples and check results. Everything reported is computed from counts, or from
latencies sorted by the bits of their milliseconds, so that the order of recording does not show.
-/
namespace PrecheckLoad

structure Sample where
  latency : Duration
  status : Option UInt16
deriving DecidableEq

/-- What has been recorded so far, the latest first. -/
structure SampleLog where
  samples : List Sample := []
  checks : List CheckResult := []
deriving DecidableEq

namespace SampleLog

def record (l : SampleLog) (s : Sample) (results : List CheckResult) : SampleLog :=
  ⟨s :: l.samples, results ++ l.checks⟩

def size (l : SampleLog) : Nat := l.samples.length

end SampleLog

namespace Statistics

/-- Words in the order of the floats they stand for: negative ones backwards, below the others. -/
def orderKey (bits : UInt64) : UInt64 :=
  if bits ≥ 0x8000000000000000 then ~~~bits else bits ^^^ 0x8000000000000000

def ofOrderKey (key : UInt64) : UInt64 :=
  if key ≥ 0x8000000000000000 then key ^^^ 0x8000000000000000 else ~~~key

/-- Sorts floats by the order of their bits. -/
def sortFloats (xs : List Float) : List Float :=
  let keys := xs.map fun x => orderKey x.toBits
  (keys.mergeSort (· ≤ ·)).map fun k => Float.ofBits (ofOrderKey k)

def count (n : Nat) : Float :=
  (UInt64.ofNat n).toFloat

def mean (xs : List Float) : Float :=
  xs.foldl (· + ·) 0 / count xs.length

/-- The middle element, or half the sum of the two in the middle. -/
def median (xs : List Float) : Float :=
  let mid := xs.length / 2
  if xs.length % 2 = 1 then xs.getD mid 0
  else (xs.getD mid 0 + xs.getD (mid - 1) 0) / 2

/-- Keeps a number within bounds; what is no number stays so. -/
def clamp (x lo hi : Float) : Float :=
  if x < lo then lo else if x > hi then hi else x

/-- Interpolates between the two ranks closest to a percentage; there is none of no numbers. -/
def percentile? (sorted : List Float) (p : Float) : Option Float :=
  if sorted.isEmpty then none
  else
    let rank := clamp (p / 100) 0 1 * count (sorted.length - 1)
    let lower := rank.floor.toUInt64.toNat
    let upper := rank.ceil.toUInt64.toNat
    match sorted[lower]?, sorted[upper]? with
    | some a, some b => some (a + (b - a) * (rank - count lower))
    | _, _ => none

def percentile (sorted : List Float) (p : Float) : Float :=
  (percentile? sorted p).getD 0

def ratio (n total : Nat) : Float :=
  if total = 0 then 0 else count n / count total

end Statistics

open Statistics

/-- Latencies in milliseconds, ascending. -/
def sortedMillis (samples : List Sample) : List Float :=
  sortFloats (samples.map fun s => s.latency.toSeconds * 1000)

/-- An aggregation of sorted latencies; of none it is zero. -/
def Aggregation.apply (a : Aggregation) (sorted : List Float) : Float :=
  if sorted.isEmpty then 0
  else match a with
    | .percentile p => Statistics.percentile sorted p
    | .avg => mean sorted
    | .med => median sorted
    | .min => sorted.head?.getD 0
    | .max => sorted.getLast?.getD 0
    | .rate => 0
    | .count => 0

/-- Samples that count as failed under a tolerance. -/
def failedCount (tolerated : List UInt16) (samples : List Sample) : Nat :=
  samples.countP fun s => isFailure tolerated s.status

/-- Results that a threshold on checks looks at. -/
def relevantChecks (check : Option String) (results : List CheckResult) : List CheckResult :=
  match check with
  | some name => results.filter (·.name = name)
  | none => results

def Threshold.observe (t : Threshold) (l : SampleLog) (sorted : List Float) : Float :=
  match t.metric with
  | .latency => t.condition.aggregation.apply sorted
  | .failed => ratio (failedCount t.tolerated l.samples) l.samples.length
  | .checks =>
    let results := relevantChecks t.check l.checks
    ratio (results.countP (·.passed)) results.length
  | .iterations => count l.samples.length

structure LatencySummary where
  min : Duration := .zero
  avg : Duration := .zero
  med : Duration := .zero
  p90 : Duration := .zero
  p95 : Duration := .zero
  p99 : Duration := .zero
  max : Duration := .zero
deriving DecidableEq

def LatencySummary.of (samples : List Sample) : Except Duration.Overflow LatencySummary := do
  let sorted := sortedMillis samples
  if sorted.isEmpty then return {}
  let ms (x : Float) := Duration.nearestSeconds (x / 1000)
  return {
    min := ← ms (sorted.head?.getD 0)
    avg := ← ms (mean sorted)
    med := ← ms (median sorted)
    p90 := ← ms (percentile sorted 90)
    p95 := ← ms (percentile sorted 95)
    p99 := ← ms (percentile sorted 99)
    max := ← ms (sorted.getLast?.getD 0) }

end PrecheckLoad
