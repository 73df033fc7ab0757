import PrecheckLoad.Config.Writer
import PrecheckLoad.Json.Choice

/-!
# Reading configurations

Each part of a configuration from JSON, by the names that it is written with. A part that has
defaults may leave them out.
-/
namespace PrecheckLoad

open Json

def Stage.record : Record Stage where
  title := "struct Stage"
  start := ⟨.zero, 0⟩
  fields := [
    required "duration" Decode.duration (fun x s => { s with duration := x }),
    required "target" (Decode.word "usize") (fun x s => { s with target := x })]

def Ramp.names : Names Ramp := ⟨Ramp.all, Ramp.name⟩

def Pacing.names : Names Pacing.Kind := ⟨kinds, Kind.name⟩

/-- The rest of a pacing without jitter. -/
def Pacing.fixedRecord : Record Duration where
  title := "struct variant Pacing::Fixed"
  start := .zero
  fields := [required "delay" Decode.duration (fun x _ => x)]

/-- The base and the spread of a pacing with jitter. -/
def Pacing.jitteredRecord : Record (Duration × Duration) where
  title := "struct variant Pacing::Jittered"
  start := (.zero, .zero)
  fields := [
    required "base" Decode.duration (fun x p => (x, p.2)),
    required "spread" Decode.duration (fun x p => (p.1, x))]

def Pacing.ofTagged (t : Tagged Pacing.Kind) : Except Fault Pacing :=
  match t.kind with
  | .none => do
    t.bare
    return .none
  | .fixed => .fixed <$> t.record fixedRecord
  | .jittered => (fun (base, spread) => .jittered base spread) <$> t.record jitteredRecord

def Pacing.decode : Decoder Pacing := Decode.tagged "Pacing" "kind" Pacing.names ofTagged

def FailureScope.names : Names FailureScope := ⟨FailureScope.all, FailureScope.name⟩

def SpoofMode.names : Names SpoofMode := ⟨SpoofMode.all, SpoofMode.name⟩

def ProfileKind.names : Names ProfileKind := ⟨ProfileKind.all, ProfileKind.name⟩

def IdentityRange.record : Record IdentityRange where
  title := "struct variant ProfileConfig::UniformRandomIdentity"
  start := { max := 0 }
  fields := [
    defaulted "prefix" Decode.string (fun x r => { r with lead := x }),
    defaulted "min" Decode.word64 (fun x r => { r with min := x }),
    required "max" Decode.word64 (fun x r => { r with max := x }),
    defaulted "bot_user_agent" Decode.boolean (fun x r => { r with botAgent := x })]

def Profile.fixedRecord : Record String where
  title := "struct variant ProfileConfig::FixedSingleIdentity"
  start := defaultIdentity
  fields := [defaulted "identity" Decode.string (fun x _ => x)]

def Profile.duplicateRecord : Record UInt64 where
  title := "struct variant ProfileConfig::DuplicateInjection"
  start := defaultPeriod
  fields := [defaulted "period" Decode.word64 (fun x _ => x)]

def ForcedFailure.record : Record ForcedFailure where
  title := "struct variant ProfileConfig::ForcedFailureInjection"
  start := {}
  fields := [
    defaulted "period" Decode.word64 (fun x f => { f with period := x }),
    defaulted "sentinel" Decode.string (fun x f => { f with sentinel := x }),
    defaulted "scope" (Decode.named FailureScope.names) (fun x f => { f with scope := x })]

def Spoof.record : Record Spoof where
  title := "struct variant ProfileConfig::SpoofedIdentityHeaders"
  start := {}
  fields := [
    defaulted "header" Decode.string (fun x s => { s with header := x }),
    defaulted "prefix" Decode.string (fun x s => { s with lead := x }),
    defaulted "max" Decode.word64 (fun x s => { s with max := x }),
    defaulted "mode" (Decode.named SpoofMode.names) (fun x s => { s with mode := x }),
    defaulted "user_agent" (Decode.nullable Decode.string) (fun x s => { s with userAgent := x }),
    defaulted "strip_body_identity" Decode.boolean (fun x s => { s with stripBody := x })]

def Profile.ofTagged (t : Tagged ProfileKind) : Except Fault Profile :=
  match t.kind with
  | .uniformRandom => .uniformRandom <$> t.record IdentityRange.record
  | .fixedIdentity => .fixedIdentity <$> t.record fixedRecord
  | .duplicate => .duplicate <$> t.record duplicateRecord
  | .forcedFailure => .forcedFailure <$> t.record ForcedFailure.record
  | .spoofedHeader => .spoofedHeader <$> t.record Spoof.record

def Profile.decode : Decoder Profile :=
  Decode.tagged "ProfileConfig" "kind" ProfileKind.names ofTagged

def BodyShape.record : Record BodyShape where
  title := "struct BodyShape"
  start := {}
  fields := [
    defaulted "user_field" Decode.string (fun x b => { b with userField := x }),
    defaulted "product_field" Decode.string (fun x b => { b with productField := x }),
    defaulted "product" Decode.string (fun x b => { b with product := x })]

def IdentityFormat.record : Record IdentityFormat where
  title := "struct IdentityFormat"
  start := {}
  fields := [
    defaulted "prefix" Decode.string (fun x f => { f with lead := x }),
    defaulted "separator" Decode.string (fun x f => { f with separator := x })]

def Pattern.record : Record Pattern where
  title := "struct PatternConfig"
  start := {}
  fields := [
    defaulted "profiles" (Decode.list Profile.decode) (fun x p => { p with profiles := x }),
    defaulted "body" BodyShape.record.read (fun x p => { p with body := x }),
    defaulted "identity" IdentityFormat.record.read (fun x p => { p with identity := x })]

def Predicate.names : Names Predicate.Kind := ⟨kinds, Kind.name⟩

/-- The predicate of a kind, from what comes with it and the ways to read the predicates inside. -/
def Predicate.ofKind (one : Node → Except Fault Predicate)
    (many : Scope → Node → Except Fault (List Predicate)) (s : Scope) (content : Node) :
    Kind → Except Fault Predicate
  | .statusIs => .statusIs <$> Decode.word16 s content
  | .statusIn => .statusIn <$> Decode.list Decode.word16 s content
  | .bodyContains => .bodyContains <$> Decode.string s content
  | .all => .all <$> many s content
  | .any => .any <$> many s content
  | .not => .not <$> one content

mutual

/-- Each predicate opens at least one bracket, so that the levels left bound the recursion. -/
def Predicate.decodeAt : Nat → Node → Except Fault Predicate
  | 0, v => do
    let c ← v.choose Predicate.names { levels := 0 }
    let _ ← c.held
    throw malformed
  | n + 1, v => do
    let c ← v.choose Predicate.names { levels := n + 1 }
    let content ← c.held
    let p ← Predicate.ofKind (Predicate.decodeAt n) (Predicate.decodeList n) c.scope content c.kind
    c.after
    return p

def Predicate.decodeList : Nat → Scope → Node → Except Fault (List Predicate)
  | 0, s, v => Decode.list (fun _ _ => throw malformed) s v
  | n + 1, s, v => Decode.list (fun _ item => Predicate.decodeAt n item) s v

end

def Predicate.decode : Decoder Predicate := fun s v => Predicate.decodeAt s.levels v

def CheckSpec.record : Record CheckSpec where
  title := "struct CheckSpec"
  start := ⟨"", .all []⟩
  fields := [
    required "name" Decode.string (fun x c => { c with name := x }),
    required "predicate" Predicate.decode (fun x c => { c with predicate := x })]

def ThresholdSpec.record : Record ThresholdSpec where
  title := "struct ThresholdSpec"
  start := { metric := "", expr := "" }
  fields := [
    required "metric" Decode.string (fun x t => { t with metric := x }),
    required "expr" Decode.string (fun x t => { t with expr := x }),
    defaulted "tolerate" (Decode.list Decode.word16) (fun x t => { t with tolerate := x }),
    defaulted "check" (Decode.nullable Decode.string) (fun x t => { t with check := x })]

def Rate.decode : Decoder Rate
  | _, .number (.int n) =>
    match (if 0 ≤ n then Rate.of? n.toNat else none) with
    | some r => .ok r
    | none => .error (.mismatch (.wrongValue (.int n) "a nonzero u32"))
  | _, v => v.refuse "a nonzero u32"

def Config.record : Record Config where
  title := "struct RunConfig"
  start := { name := "", baseUrl := "" }
  fields := [
    required "name" Decode.string (fun x c => { c with name := x }),
    required "base_url" Decode.string (fun x c => { c with baseUrl := x }),
    required "stages" (Decode.list Stage.record.read) (fun x c => { c with stages := x }),
    defaulted "ramp" (Decode.named Ramp.names) (fun x c => { c with ramp := x }),
    defaulted "thresholds" (Decode.list ThresholdSpec.record.read)
      (fun x c => { c with thresholds := x }),
    defaulted "pattern" Pattern.record.read (fun x c => { c with pattern := x }),
    defaulted "checks" (Decode.list CheckSpec.record.read) (fun x c => { c with checks := x }),
    defaulted "pacing" Pacing.decode (fun x c => { c with pacing := x }),
    defaulted "max_rps" (Decode.nullable Rate.decode) (fun x c => { c with maxRate := x }),
    defaulted "request_timeout" Decode.duration (fun x c => { c with requestTimeout := x }),
    defaulted "reconcile_interval" Decode.duration (fun x c => { c with reconcileInterval := x }),
    defaulted "seed" (Decode.nullable Decode.word64) (fun x c => { c with seed := x })]

/-- The configuration that a text describes. -/
def Config.parse (text : String) : Except ConfigFault Config :=
  (Json.decodeText Config.record.read text).mapError .unreadable

end PrecheckLoad
