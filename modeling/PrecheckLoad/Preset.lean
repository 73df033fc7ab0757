import PrecheckLoad.Config.Basic

/-!
# Presets

Ready-made runs for the scenarios that the precheck endpoint is routinely tested against.
-/
namespace PrecheckLoad

inductive Preset
  | basic
  | precheck
  | loadTest
  | stress
  | multiWorker
  | duplicatedSellForceFail
  | attackSingleUser
  | attackMulti
  | attackFakeHeader
deriving DecidableEq, Repr

namespace Preset

def all : List Preset :=
  [.basic, .precheck, .loadTest, .stress, .multiWorker, .duplicatedSellForceFail,
    .attackSingleUser, .attackMulti, .attackFakeHeader]

def name : Preset → String
  | .basic => "basic"
  | .precheck => "precheck"
  | .loadTest => "load-test"
  | .stress => "stress"
  | .multiWorker => "multi-worker"
  | .duplicatedSellForceFail => "duplicated-sell-force-fail"
  | .attackSingleUser => "attack-single-user"
  | .attackMulti => "attack-multi"
  | .attackFakeHeader => "attack-fake-header"

def ofText (s : String) : Except ConfigFault Preset :=
  let name := Text.trim s
  match all.find? fun p => p.name = name with
  | some p => .ok p
  | none => .error (.unknownPreset name)

/-- Body mark of a conflict caused by a repeated purchase. -/
def alreadyPurchasedMark : String := "USER_ALREADY_PURCHASED"

/-- Body mark of a conflict caused by exhausted stock. -/
def soldOutMark : String := "SOLD_OUT"

def conflictWith (mark : String) : Predicate :=
  .all [.statusIs 409, .bodyContains mark]

def duplicates : Profile := .duplicate 7

def failures : Profile := .forcedFailure { period := 50 }

def randomBuyers (lead : String) (max : UInt64) (botAgent : Bool) : Profile :=
  .uniformRandom { lead, max, botAgent }

/-- Five seconds of warming up, twenty at the peak, ten to come down. -/
def rampUp (c : Config) (warm peak : UInt64) : Config :=
  ((c.stage (.ofSeconds 5) warm).stage (.ofSeconds 20) peak).stage (.ofSeconds 10) 0

def fastEnough : ThresholdSpec := { metric := "http_req_duration", expr := "p(95)<300" }

def failedBelow (bound : String) (tolerate : List UInt16) : ThresholdSpec :=
  { metric := "http_req_failed", expr := "rate<" ++ bound, tolerate }

/-- The configuration of a preset against a base address. -/
def config (p : Preset) (baseUrl : String) : Config :=
  let run : Config := { name := p.name, baseUrl }
  match p with
  | .basic =>
    { run.stage (.ofSeconds 30) 10 with
      pattern := { body := { productField := "product", product := "p1" }
                   identity := { lead := "user_", separator := "_" } }
      pacing := .fixed (.ofMillis 200) }
  | .precheck =>
    { run.stage (.ofSeconds 10) 50 with
      pattern := { profiles := [randomBuyers "" 1000000 false], body := { product := "p1" } }
      checks := [⟨"status is 200", .statusIs 200⟩]
      pacing := .fixed (.ofMillis 100) }
  | .loadTest =>
    { rampUp run 50 200 with
      pattern := { profiles := [.forcedFailure { period := 10, scope := .user }] }
      checks := [⟨"precheck accepted", .statusIs 200⟩]
      thresholds := [fastEnough, failedBelow "0.01" []]
      pacing := .fixed (.ofMillis 100) }
  | .stress =>
    { ((run.stage (.ofSeconds 5) 200).stage (.ofSeconds 15) 200).stage (.ofSeconds 5) 0 with
      pattern := { profiles := [randomBuyers "user_" 1000000 false,
                                .spoofedHeader { mode := .matching }] } }
  | .multiWorker =>
    { rampUp run 100 300 with
      pattern := { profiles := [duplicates, failures] }
      checks := [⟨"accepted (200)", .statusIs 200⟩,
        ⟨"already purchased (409)", conflictWith alreadyPurchasedMark⟩,
        ⟨"out of stock (409)", conflictWith soldOutMark⟩,
        ⟨"rate limited (429)", .statusIs 429⟩]
      thresholds := [fastEnough, failedBelow "0.1" []]
      pacing := .fixed (.ofMillis 50) }
  | .duplicatedSellForceFail =>
    { rampUp run 50 200 with
      pattern := { profiles := [duplicates, failures] }
      checks := [⟨"is status 200 or 409 or 429", .statusIn [200, 409, 429]⟩,
        ⟨"precheck accepted", .statusIs 200⟩,
        ⟨"already purchased", conflictWith alreadyPurchasedMark⟩]
      thresholds := [fastEnough, failedBelow "0.15" [409, 429]]
      pacing := .jittered (.ofMillis 50) (.ofMillis 50) }
  | .attackSingleUser =>
    { run.stage (.ofSeconds 30) 200 with
      pattern := { profiles := [.fixedIdentity Profile.defaultIdentity]
                   body := { productField := "product", product := "p1" } }
      checks := [⟨"precheck accepted", .statusIs 200⟩,
        ⟨"already purchased", conflictWith alreadyPurchasedMark⟩] }
  | .attackMulti =>
    { run.stage (.ofSeconds 30) 300 with
      pattern := { profiles := [randomBuyers "bot_" 2000000 true]
                   body := { productField := "product", product := "p1" } } }
  | .attackFakeHeader =>
    { run.stage (.ofSeconds 20) 150 with
      pattern := { profiles := [.spoofedHeader { userAgent := some "FakeBrowser/9.9"
                                                 stripBody := true }] }
      checks := [⟨"spoofed header not trusted", .not (.statusIs 200)⟩] }

end Preset
end PrecheckLoad
