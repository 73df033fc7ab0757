import PrecheckLoad.Config.Basic
import PrecheckLoad.Json.Value

/-!
# Writing configurations

Each part of a configuration as JSON. Fields stand in a fixed order; what may be absent is left out
when it is, everything else is written even where it has its default.
-/
namespace PrecheckLoad

def Stage.toJson (s : Stage) : Json :=
  .object [("duration", .duration s.duration), ("target", .word s.target)]

def Pacing.fieldsJson : Pacing → List (String × Json)
  | .none => []
  | .fixed d => [("delay", .duration d)]
  | .jittered base spread => [("base", .duration base), ("spread", .duration spread)]

def Pacing.toJson (p : Pacing) : Json :=
  .object (("kind", .string p.kind.name) :: p.fieldsJson)

def IdentityRange.fieldsJson (r : IdentityRange) : List (String × Json) :=
  [("prefix", .string r.lead), ("min", .word r.min), ("max", .word r.max),
    ("bot_user_agent", .bool r.botAgent)]

def ForcedFailure.fieldsJson (f : ForcedFailure) : List (String × Json) :=
  [("period", .word f.period), ("sentinel", .string f.sentinel), ("scope", .string f.scope.name)]

def Spoof.fieldsJson (s : Spoof) : List (String × Json) :=
  [("header", .string s.header), ("prefix", .string s.lead), ("max", .word s.max),
    ("mode", .string s.mode.name)] ++
  Json.present "user_agent" (s.userAgent.map .string) ++
  [("strip_body_identity", .bool s.stripBody)]

def Profile.fieldsJson : Profile → List (String × Json)
  | .uniformRandom r => r.fieldsJson
  | .fixedIdentity identity => [("identity", .string identity)]
  | .duplicate period => [("period", .word period)]
  | .forcedFailure f => f.fieldsJson
  | .spoofedHeader s => s.fieldsJson

def Profile.toJson (p : Profile) : Json :=
  .object (("kind", .string p.kind.name) :: p.fieldsJson)

def BodyShape.toJson (b : BodyShape) : Json :=
  .object [("user_field", .string b.userField), ("product_field", .string b.productField),
    ("product", .string b.product)]

def IdentityFormat.toJson (f : IdentityFormat) : Json :=
  .object [("prefix", .string f.lead), ("separator", .string f.separator)]

def Pattern.toJson (p : Pattern) : Json :=
  .object [("profiles", .array (p.profiles.map Profile.toJson)), ("body", p.body.toJson),
    ("identity", p.identity.toJson)]

mutual

def Predicate.toJson : Predicate → Json
  | .statusIs s => .object [(Kind.statusIs.name, .nat s.toNat)]
  | .statusIn ss => .object [(Kind.statusIn.name, .statuses ss)]
  | .bodyContains text => .object [(Kind.bodyContains.name, .string text)]
  | .all ps => .object [(Kind.all.name, .array (Predicate.listJson ps))]
  | .any ps => .object [(Kind.any.name, .array (Predicate.listJson ps))]
  | .not p => .object [(Kind.not.name, Predicate.toJson p)]

def Predicate.listJson : List Predicate → List Json
  | [] => []
  | p :: rest => Predicate.toJson p :: Predicate.listJson rest

end

def CheckSpec.toJson (s : CheckSpec) : Json :=
  .object [("name", .string s.name), ("predicate", s.predicate.toJson)]

def ThresholdSpec.toJson (s : ThresholdSpec) : Json :=
  .object <| [("metric", .string s.metric), ("expr", .string s.expr)] ++
    (if s.tolerate.isEmpty then [] else [("tolerate", .statuses s.tolerate)]) ++
    Json.present "check" (s.check.map .string)

def Config.toJson (c : Config) : Json :=
  .object <| [("name", .string c.name), ("base_url", .string c.baseUrl),
    ("stages", .array (c.stages.map Stage.toJson)), ("ramp", .string c.ramp.name),
    ("thresholds", .array (c.thresholds.map ThresholdSpec.toJson)),
    ("pattern", c.pattern.toJson), ("checks", .array (c.checks.map CheckSpec.toJson)),
    ("pacing", c.pacing.toJson)] ++
    Json.present "max_rps" (c.maxRate.map fun r => .nat r.perSecond) ++
    [("request_timeout", .duration c.requestTimeout),
      ("reconcile_interval", .duration c.reconcileInterval)] ++
    Json.present "seed" (c.seed.map .word)

/-- The text of a configuration. -/
def Config.write (c : Config) : String := c.toJson.pretty

end PrecheckLoad
