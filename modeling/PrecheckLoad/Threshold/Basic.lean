import PrecheckLoad.Text.Basic
import PrecheckLoad.Threshold.Condition

/-!
# Thresholds

A threshold is declared by texts and compiled before a run. Its name tells the metric, what it is
restricted to, and the expression as declared.
-/
namespace PrecheckLoad

inductive Metric
  /-- Latency in milliseconds, of failed attempts too. -/
  | latency
  | failed
  | checks
  | iterations
deriving DecidableEq, Repr

namespace Metric

def all : List Metric := [.latency, .failed, .checks, .iterations]

def name : Metric → String
  | .latency => "http_req_duration"
  | .failed => "http_req_failed"
  | .checks => "checks"
  | .iterations => "iterations"

def ofName? (s : String) : Option Metric :=
  all.find? fun m => m.name = s

def supports (m : Metric) (a : Aggregation) : Bool :=
  match m, a with
  | .latency, .rate => false
  | .latency, .count => false
  | .latency, _ => true
  | .failed, .rate => true
  | .checks, .rate => true
  | .iterations, .count => true
  | _, _ => false

end Metric

/-- A threshold as declared. The tolerated statuses are meant for failures, the check for checks. -/
structure ThresholdSpec where
  metric : String
  expr : String
  tolerate : List UInt16 := []
  check : Option String := none
deriving DecidableEq, Repr

inductive ThresholdFault
  | unknownMetric (name : String)
  | malformed (expr : String) (cause : ConditionFault)
  | unsupported (metric : Metric) (aggregation : Aggregation)
  | misplacedCheck (expr : String) (metric : Metric)

/-- Blanks around the name do not count. -/
def Metric.ofText (text : String) : Except ThresholdFault Metric :=
  let name := Text.trim text
  match Metric.ofName? name with
  | some m => .ok m
  | none => .error (.unknownMetric name)

/-- A sample has failed when it brought no response, or one outside 200 to 299 whose status is not
tolerated. -/
def isFailure (tolerated : List UInt16) (status : Option UInt16) : Bool :=
  match status with
  | none => true
  | some s => !(200 ≤ s && s < 300) && !tolerated.contains s

structure Threshold where
  name : String
  metric : Metric
  condition : Condition
  tolerated : List UInt16
  check : Option String

namespace ThresholdSpec

/-- What the name of a threshold says in braces, if anything. -/
def qualifier (s : ThresholdSpec) : String :=
  match s.check with
  | some check => "\x7b" ++ check ++ "\x7d"
  | none =>
    if s.tolerate.isEmpty then ""
    else "\x7btolerate=" ++ Text.joinWith "," (s.tolerate.map fun t => toString t.toNat) ++ "\x7d"

def thresholdName (s : ThresholdSpec) (m : Metric) : String :=
  m.name ++ s.qualifier ++ ": " ++ Text.trim s.expr

def compile (s : ThresholdSpec) : Except ThresholdFault Threshold := do
  let metric ← Metric.ofText s.metric
  let condition ← (Condition.ofText s.expr).mapError (.malformed s.expr)
  unless metric.supports condition.aggregation do
    throw (.unsupported metric condition.aggregation)
  if s.check.isSome && metric != .checks then throw (.misplacedCheck s.expr metric)
  return ⟨s.thresholdName metric, metric, condition, s.tolerate, s.check⟩

def compileAll (specs : List ThresholdSpec) : Except ThresholdFault (List Threshold) :=
  specs.mapM compile

end ThresholdSpec
end PrecheckLoad
