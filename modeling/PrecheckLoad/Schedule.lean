import PrecheckLoad.Duration.Basic

/-!
# Schedules

A run is planned as consecutive stages, each with a length and a target number of users. Under the
stepped ramp a stage holds its target; under the linear ramp the target moves from that of the
stage before. A stage without length is never active. Times are offsets from the start of the run;
asking for one fails only where the end of a stage is no duration any more.
-/
namespace PrecheckLoad

structure Stage where
  duration : Duration
  target : UInt64
deriving DecidableEq

inductive Ramp
  | step
  | linear
deriving DecidableEq, Repr

namespace Ramp

def all : List Ramp := [.step, .linear]

def name : Ramp → String
  | .step => "step"
  | .linear => "linear"

end Ramp

structure Schedule where
  stages : List Stage
  ramp : Ramp

namespace Schedule

def total (s : Schedule) : Except Duration.Overflow Duration :=
  Duration.sum (s.stages.map (·.duration))

def peak (s : Schedule) : UInt64 :=
  s.stages.foldl (fun m st => max m st.target) 0

/-- The stage active at a time: when it began, the target it came from, and the stages after it. -/
structure Active where
  start : Duration
  before : UInt64
  stage : Stage
  later : List Stage

def locateFrom (start : Duration) (before : UInt64) (t : Duration) :
    List Stage → Except Duration.Overflow (Option Active)
  | [] => .ok none
  | st :: rest => do
    let stop ← start.add st.duration
    if t.nanos < stop.nanos then return some ⟨start, before, st, rest⟩
    else locateFrom stop st.target t rest

def locate (s : Schedule) (t : Duration) : Except Duration.Overflow (Option Active) :=
  locateFrom .zero 0 t s.stages

/-- Linear movement between two targets, rounded to the nearest count. -/
def Active.interpolate (a : Active) (t : Duration) : UInt64 :=
  let low := a.before.toFloat
  let high := a.stage.target.toFloat
  let progress := (t.since a.start).toSeconds / a.stage.duration.toSeconds
  (low + (high - low) * progress).round.toUInt64

def Active.target (a : Active) (ramp : Ramp) (t : Duration) : UInt64 :=
  match ramp with
  | .step => a.stage.target
  | .linear => a.interpolate t

/-- How many users should be active. -/
def target (s : Schedule) (t : Duration) : Except Duration.Overflow UInt64 := do
  match ← s.locate t with
  | none => return 0
  | some a => return a.target s.ramp t

/-- Nothing is left to do: the plan is over, or the target is zero and no stage from here on has
another. -/
def isComplete (s : Schedule) (t : Duration) : Except Duration.Overflow Bool := do
  match ← s.locate t with
  | none => return true
  | some a => return a.target s.ramp t = 0 && (a.stage :: a.later).all (·.target = 0)

end Schedule
end PrecheckLoad
