import PrecheckLoad.Duration.Basic
import PrecheckLoad.Random

/-!
# Pacing and rate limits

How long a user rests between two iterations: not at all, a fixed time, or a base plus a jitter
drawn from the iteration's own stream, so that rests never shift the requests.

A limiter keeps one number, the time at which everything allowed so far would have arrived at an
even pace. A request may come as much ahead of that pace as the burst allows. Its times are in
nanoseconds.
-/
namespace PrecheckLoad

inductive Pacing
  | none
  | fixed (delay : Duration)
  | jittered (base spread : Duration)
deriving DecidableEq

namespace Pacing

inductive Kind
  | none
  | fixed
  | jittered
deriving DecidableEq, Repr

def kinds : List Kind := [.none, .fixed, .jittered]

def Kind.name : Kind → String
  | .none => "none"
  | .fixed => "fixed"
  | .jittered => "jittered"

def kind : Pacing → Kind
  | .none => .none
  | .fixed _ => .fixed
  | .jittered _ _ => .jittered

/-- The nanoseconds that a jitter is drawn below; a draw has 64 bits. -/
def jitterBound (spread : Duration) : UInt64 :=
  UInt64.ofNat (min spread.nanos (Nat.pow 2 64 - 1))

/-- A rest of no length is none. -/
def restOf (d : Duration) : Option Duration :=
  if d.isZero then Option.none else some d

def delay (p : Pacing) (c : Context) : Except Duration.Overflow (Option Duration) :=
  match p with
  | .none => .ok Option.none
  | .fixed d => .ok (restOf d)
  | .jittered base spread =>
    if spread.isZero then .ok (restOf base)
    else
      match Random.draw (Random.stream c .pacing) 0 (jitterBound spread) with
      | .ok n => some <$> Duration.ofNanos (base.nanos + n.toNat)
      | .error _ => .error {}

end Pacing

structure Limiter where
  /-- The even distance between requests. -/
  interval : Nat
  /-- How far ahead of the even pace a request may come. -/
  tolerance : Nat
  /-- When the next request is due at the even pace; nothing before the first check. -/
  due : Option Nat := none
deriving DecidableEq, Repr

namespace Limiter

/-- A limit of requests per second with a burst. -/
def perSecond (rate burst : Nat) : Limiter :=
  let t := 1000000000 / rate
  { interval := t, tolerance := max t 1 * burst }

def dueAt (l : Limiter) (now : Nat) : Nat :=
  l.due.getD (now + l.interval)

/-- Allows a request and counts it, or says how long to wait. -/
def check (l : Limiter) (now : Nat) : Except Nat Limiter :=
  let due := l.dueAt now
  let earliest := due - l.tolerance
  if now < earliest then .error (earliest - now)
  else .ok { l with due := some (max due now + l.interval) }

end Limiter

end PrecheckLoad
