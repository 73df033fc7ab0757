import PrecheckLoad.Pacing
import PrecheckLoad.Pattern.Build
import PrecheckLoad.Samples

/-!
# Virtual users

A user repeats one iteration: pass the rate cap, send a request, record what came back, rest. Time
is a count of milliseconds; a wait of any length ends at the next full one. A user that is told to
stop leaves its waits at once, but a request in flight is always completed and recorded. A rest
that is too long for a duration crashes the user, after its request has been recorded.

Users share a limiter and a history of what they did, the latest first.
-/
namespace PrecheckLoad

/-- What becomes of a request: how long it is under way, what comes back, and the latency noted. -/
structure Exchange where
  travel : Nat
  outcome : Outcome
  latency : Duration
  travel_pos : 0 < travel

inductive Event
  | spawned (user time : Nat)
  | begun (user iteration time : Nat) (request : Request)
  | recorded (user iteration time : Nat) (sample : Sample) (checks : List CheckResult)
  | stopped (user time : Nat)
  | ended (user time : Nat)
  | crashed (user time : Nat)

/-- Answers requests. What it answers may depend on the time and on all that happened before, the
latest first. -/
structure Executor where
  answer : List Event → Nat → Request → Exchange

/-- Answers that depend on the request only. -/
instance : Coe (Request → Exchange) Executor := ⟨fun answer => ⟨fun _ _ => answer⟩⟩

/-- What all users of a run have in common and never changes. -/
structure Workload where
  url : String
  seed : UInt64
  pattern : Pattern
  execute : Executor
  checks : List Check
  pacing : Pacing

/-- The coordinates of one iteration of one user. -/
def Workload.context (w : Workload) (user iteration : Nat) : Context :=
  ⟨UInt64.ofNat user, UInt64.ofNat iteration, w.seed⟩

structure Shared where
  limiter : Option Limiter := none
  history : List Event := []

def Shared.note (s : Shared) (e : Event) : Shared :=
  { s with history := e :: s.history }

/-- Lets a request pass the rate cap, if there is one, or says for how many nanoseconds it waits. -/
def Shared.passCap (s : Shared) (now : Nat) : Except Nat Shared :=
  match s.limiter with
  | none => .ok s
  | some l => (l.check (now * 1000000)).map fun l => { s with limiter := some l }

/-- What a user is in the middle of. -/
inductive Phase
  /-- Spawned, and not yet run. -/
  | fresh
  /-- Waits for the rate cap. -/
  | waiting (due : Nat)
  | inFlight (due : Nat) (exchange : Exchange)
  | resting (due : Nat)
  | ended
  | crashed

structure User where
  id : Nat
  iteration : Nat := 0
  stopped : Bool := false
  phase : Phase := .fresh

namespace User

def context (w : Workload) (u : User) : Context := w.context u.id u.iteration

/-- Nothing is left to run. -/
def isFinished (u : User) : Bool :=
  match u.phase with
  | .ended => true
  | .crashed => true
  | _ => false

def finish (u : User) (now : Nat) (s : Shared) : User × Shared :=
  ({ u with phase := .ended }, s.note (.ended u.id now))

def crash (u : User) (now : Nat) (s : Shared) : User × Shared :=
  ({ u with phase := .crashed }, s.note (.crashed u.id now))

/-- Sends the request of the current iteration. -/
def send (w : Workload) (now : Nat) (request : Request) (u : User) (s : Shared) : User × Shared :=
  let x := w.execute.answer s.history now request
  ({ u with phase := .inFlight (now + x.travel) x },
    s.note (.begun u.id u.iteration now request))

/-- Passes the rate cap and sends, or waits. -/
def attempt (w : Workload) (now : Nat) (u : User) (s : Shared) : User × Shared :=
  match w.pattern.build (u.context w) w.url with
  | .error _ => u.crash now s
  | .ok request =>
    match s.passCap now with
    | .ok s => u.send w now request s
    | .error wait => ({ u with phase := .waiting (now + Duration.ceilMillis wait) }, s)

/-- The start of an iteration. -/
def next (w : Workload) (now : Nat) (u : User) (s : Shared) : User × Shared :=
  if u.stopped then u.finish now s else u.attempt w now s

def sampleOf (x : Exchange) : Sample := ⟨x.latency, x.outcome.status?⟩

/-- Records what came back, and rests. -/
def complete (w : Workload) (now : Nat) (x : Exchange) (u : User) (s : Shared) : User × Shared :=
  let rest := w.pacing.delay (u.context w)
  let s := s.note
    (.recorded u.id u.iteration now (sampleOf x) (evaluateChecks w.checks x.outcome))
  let u := { u with iteration := u.iteration + 1 }
  match rest with
  | .error _ => u.crash now s
  | .ok none => u.next w now s
  | .ok (some d) =>
    if u.stopped then u.finish now s
    else if d.isZero then u.next w now s
    else ({ u with phase := .resting (now + Duration.ceilMillis d.nanos) }, s)

/-- Lets a user run at a time. One that has nothing to do at that time stays as it is. -/
def wake (w : Workload) (now : Nat) (u : User) (s : Shared) : User × Shared :=
  match u.phase with
  | .fresh => u.next w now s
  | .waiting t =>
    if u.stopped then u.finish now s else if t ≤ now then u.attempt w now s else (u, s)
  | .inFlight t x => if t ≤ now then u.complete w now x s else (u, s)
  | .resting t =>
    if u.stopped then u.finish now s else if t ≤ now then u.next w now s else (u, s)
  | .ended => (u, s)
  | .crashed => (u, s)

/-- When a user that has run has something to do again. -/
def due? (u : User) : Option Nat :=
  match u.phase with
  | .waiting t => some t
  | .inFlight t _ => some t
  | .resting t => some t
  | _ => none

/-- Tells a user to stop. -/
def stop (u : User) (now : Nat) (s : Shared) : User × Shared :=
  ({ u with stopped := true }, s.note (.stopped u.id now))

end User

namespace Event

def request? : Event → Option Request
  | .begun _ _ _ r => some r
  | _ => none

def sample? : Event → Option Sample
  | .recorded _ _ _ sample _ => some sample
  | _ => none

def results : Event → List CheckResult
  | .recorded _ _ _ _ results => results
  | _ => []

end Event

namespace Shared

/-- What has been recorded, the latest first. -/
def log (s : Shared) : SampleLog :=
  ⟨s.history.filterMap Event.sample?, s.history.flatMap Event.results⟩

/-- The requests begun, the latest first. -/
def requests (s : Shared) : List Request := s.history.filterMap Event.request?

end Shared
end PrecheckLoad
