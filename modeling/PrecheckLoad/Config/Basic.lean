import PrecheckLoad.Json.Mismatch
import PrecheckLoad.Pacing
import PrecheckLoad.Pattern.Basic
import PrecheckLoad.Predicate
import PrecheckLoad.Schedule
import PrecheckLoad.Threshold.Basic
import PrecheckLoad.Url.Basic

/-!
# Run configurations

The complete description of one run. It is validated before any user is spawned; faults are looked
for in the order stages, reconcile interval, address, pattern, thresholds.
-/
namespace PrecheckLoad

/-- A positive number of requests per second. -/
structure Rate where
  perSecond : Nat
  pos : 0 < perSecond
  lt_limit : perSecond < 4294967296
deriving DecidableEq

def Rate.of? (n : Nat) : Option Rate :=
  if h : 0 < n ∧ n < 4294967296 then some ⟨n, h.1, h.2⟩ else none

structure Config where
  name : String
  baseUrl : String
  stages : List Stage := []
  ramp : Ramp := .step
  thresholds : List ThresholdSpec := []
  pattern : Pattern := {}
  checks : List CheckSpec := []
  pacing : Pacing := .none
  /-- A cap on the requests of all users together. -/
  maxRate : Option Rate := none
  requestTimeout : Duration := .ofSeconds 60
  reconcileInterval : Duration := .ofMillis 100
  /-- The seed of every random choice; drawn at the start when absent. -/
  seed : Option UInt64 := none

/-- Why a run is rejected before its start. -/
inductive ConfigFault
  | noStages
  | zeroReconcileInterval
  | invalidBaseUrl (url : String) (fault : Url.UrlFault)
  | unknownProfile (name : String)
  | pattern (fault : PatternFault)
  | threshold (fault : ThresholdFault)
  | unknownPreset (name : String)
  | unreadable (fault : Json.Fault)

def PatternFault.message : PatternFault → String
  | .duplicateProfile kind =>
    "Pattern profile `" ++ kind.name ++ "` is declared more than once"
  | .conflictingIdentity a b =>
    "Identity profiles `" ++ a.name ++ "` and `" ++ b.name ++ "` cannot be combined"
  | .zeroPeriod kind => "Period of `" ++ kind.name ++ "` must be greater than zero"
  | .emptyRange kind min max =>
    "Identity range [" ++ toString min.toNat ++ ", " ++ toString max.toNat ++ ") of `" ++
      kind.name ++ "` is empty"
  | .emptyField name => "Field `" ++ name ++ "` must not be empty"

def malformedThreshold (expr reason : String) : String :=
  "Malformed threshold expression `" ++ expr ++ "`: " ++ reason

def ThresholdFault.message : ThresholdFault → String
  | .unknownMetric name => "Unknown threshold metric: " ++ name
  | .malformed expr cause => malformedThreshold expr cause.message
  | .unsupported metric aggregation =>
    "Aggregation `" ++ aggregation.text ++ "` is not supported for metric `" ++ metric.name ++ "`"
  | .misplacedCheck expr metric =>
    malformedThreshold expr
      ("`check` only applies to the `checks` metric, not `" ++ metric.name ++ "`")

/-- What is wrong with the text of a configuration, where it is well formed. -/
def jsonMessage : Json.Fault → String
  | .mismatch m => m.message
  | .text .cut => "the text ends too early"
  | .text .malformed => "the text is malformed"
  | .overflow => "a duration is out of range"

def ConfigFault.message : ConfigFault → String
  | .noStages => "Stage list is empty"
  | .zeroReconcileInterval => "Reconcile interval must be greater than zero"
  | .invalidBaseUrl url fault => "Invalid base URL `" ++ url ++ "`: " ++ fault.reason
  | .unknownProfile name => "Unknown pattern profile: " ++ name
  | .pattern fault => fault.message
  | .threshold fault => fault.message
  | .unknownPreset name => "Unknown preset: " ++ name
  | .unreadable fault => "Error parsing run configuration: " ++ jsonMessage fault

def ProfileKind.ofText (s : String) : Except ConfigFault ProfileKind :=
  let name := Text.trim s
  match all.find? fun k => k.name = name with
  | some k => .ok k
  | none => .error (.unknownProfile name)

namespace Config

/-- The path that requests go to, below the base address. -/
def precheckPath : String := "/flashsale/precheck"

def precheckUrl (c : Config) : String :=
  Text.dropTrailing '/' c.baseUrl ++ precheckPath

def schedule (c : Config) : Schedule := ⟨c.stages, c.ramp⟩

def totalDuration (c : Config) : Except Duration.Overflow Duration :=
  c.schedule.total

def compileThresholds (c : Config) : Except ThresholdFault (List Threshold) :=
  ThresholdSpec.compileAll c.thresholds

def validate (c : Config) : Except ConfigFault Unit := do
  if c.stages.isEmpty then throw .noStages
  if c.reconcileInterval.isZero then throw .zeroReconcileInterval
  (Url.validate c.baseUrl).mapError (.invalidBaseUrl c.baseUrl)
  c.pattern.validate.mapError .pattern
  let _ ← c.compileThresholds.mapError .threshold

/-- Whether two configurations are one. -/
def same (a b : Config) : Bool :=
  a.name = b.name && a.baseUrl = b.baseUrl && a.stages = b.stages && a.ramp = b.ramp &&
    a.thresholds = b.thresholds && a.pattern = b.pattern &&
    a.checks.map (·.name) = b.checks.map (·.name) &&
    Predicate.allSame (a.checks.map (·.predicate)) (b.checks.map (·.predicate)) &&
    a.pacing = b.pacing && a.maxRate = b.maxRate && a.requestTimeout = b.requestTimeout &&
    a.reconcileInterval = b.reconcileInterval && a.seed = b.seed

/-- Adds a stage. -/
def stage (c : Config) (duration : Duration) (target : UInt64) : Config :=
  { c with stages := c.stages ++ [⟨duration, target⟩] }

def threshold (c : Config) (t : ThresholdSpec) : Config :=
  { c with thresholds := c.thresholds ++ [t] }

def profile (c : Config) (p : Profile) : Config :=
  { c with pattern := { c.pattern with profiles := c.pattern.profiles ++ [p] } }

def check (c : Config) (name : String) (p : Predicate) : Config :=
  { c with checks := c.checks ++ [⟨name, p⟩] }

end Config
end PrecheckLoad
