import PrecheckLoad.Fleet.User

/-!
# Fleets

A fleet owns the users of a run and brings their number to a target: it spawns users with fresh
numbers, or retires the newest. A retired user is kept until it is found to have ended. Users run
only when time is given to them; between two events of theirs nothing happens, so the clock jumps.
-/
namespace PrecheckLoad

structure Fleet where
  active : List User := []
  retiring : List User := []
  nextId : Nat := 1
  shared : Shared := {}

namespace Fleet

def live (f : Fleet) : Nat := f.active.length

/-- Forgets retired users that have ended. -/
def reap (f : Fleet) : Fleet :=
  { f with retiring := f.retiring.filter fun u => !u.isFinished }

def spawnOne (now : Nat) (f : Fleet) : Fleet :=
  { f with
    active := f.active ++ [{ id := f.nextId }]
    nextId := f.nextId + 1
    shared := f.shared.note (.spawned f.nextId now) }

def spawn (now : Nat) : Nat → Fleet → Fleet
  | 0, f => f
  | n + 1, f => spawn now n (f.spawnOne now)

/-- Stops users one after the other. -/
def stopAll (now : Nat) : List User → Shared → List User × Shared
  | [], s => ([], s)
  | u :: rest, s =>
    let (u, s) := u.stop now s
    let (us, s) := stopAll now rest s
    (u :: us, s)

/-- Keeps the oldest users and retires the others, the newest first. -/
def retire (now target : Nat) (f : Fleet) : Fleet :=
  let (dropped, shared) := stopAll now (f.active.drop target).reverse f.shared
  { f with active := f.active.take target, retiring := f.retiring ++ dropped, shared }

/-- Brings the number of active users to the target. -/
def reconcile (now target : Nat) (f : Fleet) : Fleet :=
  let f := f.reap
  if f.live < target then spawn now (target - f.live) f
  else if f.live > target then f.retire now target
  else f

def wakeAll (w : Workload) (now : Nat) : List User → Shared → List User × Shared
  | [], s => ([], s)
  | u :: rest, s =>
    let (u, s) := u.wake w now s
    let (us, s) := wakeAll w now rest s
    (u :: us, s)

/-- Lets every user run that has something to do at this time. -/
def settle (w : Workload) (now : Nat) (f : Fleet) : Fleet :=
  let (active, shared) := wakeAll w now f.active f.shared
  let (retiring, shared) := wakeAll w now f.retiring shared
  { f with active, retiring, shared }

/-- The earlier of two times, of which either may be missing. -/
def earlier : Option Nat → Option Nat → Option Nat
  | none, b => b
  | a, none => a
  | some a, some b => some (min a b)

def users (f : Fleet) : List User := f.active ++ f.retiring

/-- The next time at which a user has something to do. -/
def nextDue? (f : Fleet) : Option Nat :=
  f.users.foldl (fun t u => earlier t u.due?) none

/-- Lets time pass until `stop`, from one event to the next. -/
def runUntil (w : Workload) (stop now : Nat) (f : Fleet) : Fleet :=
  match f.nextDue? with
  | none => f
  | some t => if now < t ∧ t ≤ stop then runUntil w stop t (f.settle w t) else f
termination_by stop - now

/-- Lets users run at once and then until `stop`. -/
def advance (w : Workload) (now stop : Nat) (f : Fleet) : Fleet :=
  runUntil w stop now (f.settle w now)

/-- When the last request in flight completes, or now if there is none. -/
def lastCompletion (now : Nat) (f : Fleet) : Nat :=
  f.users.foldl (fun t u => match u.phase with
    | .inFlight t' _ => max t t'
    | _ => t) now

/-- Stops every user. -/
def halt (now : Nat) (f : Fleet) : Fleet :=
  let (active, shared) := stopAll now f.active f.shared
  let (retiring, shared) := stopAll now f.retiring shared
  { f with active, retiring, shared }

/-- Stops every user and lets time pass until all have ended. -/
def shutdown (w : Workload) (now : Nat) (f : Fleet) : Nat × Fleet :=
  let f := f.halt now
  let stop := f.lastCompletion now
  (stop, f.advance w now stop)

end Fleet
end PrecheckLoad
