import PrecheckLoad.Decimal

/-!
# Durations

Spans of whole nanoseconds below `2^64` seconds. Arithmetic that would leave the range has no
result; callers report it as an overflow.
-/
namespace PrecheckLoad

structure Duration where
  nanos : Nat
  lt_limit : nanos < 18446744073709551616 * 1000000000
deriving DecidableEq

namespace Duration

/-- The first number of nanoseconds that is no duration any more. -/
def limit : Nat := 18446744073709551616 * 1000000000

def ofNanos? (n : Nat) : Option Duration :=
  if h : n < 18446744073709551616 * 1000000000 then some ⟨n, h⟩ else none

/-- The longest duration not above `n` nanoseconds. -/
def ofNanosCapped (n : Nat) : Duration :=
  ⟨min n (18446744073709551616 * 1000000000 - 1), by omega⟩

def zero : Duration := ⟨0, by decide⟩

instance : Inhabited Duration := ⟨zero⟩

def ofMillis (ms : UInt64) : Duration :=
  ⟨ms.toNat * 1000000, by have := ms.toNat_lt; omega⟩

def ofSeconds (s : UInt64) : Duration :=
  ⟨s.toNat * 1000000000, by have := s.toNat_lt; omega⟩

def seconds (d : Duration) : Nat := d.nanos / 1000000000

def subsecond (d : Duration) : Nat := d.nanos % 1000000000

def isZero (d : Duration) : Bool := d.nanos = 0

/-- Time arithmetic left the range of durations. -/
structure Overflow where
deriving DecidableEq, Repr

def ofNanos (n : Nat) : Except Overflow Duration :=
  match ofNanos? n with
  | some d => .ok d
  | none => .error {}

def add (a b : Duration) : Except Overflow Duration :=
  ofNanos (a.nanos + b.nanos)

def totalNanos (ds : List Duration) : Nat := ds.foldr (·.nanos + ·) 0

def sum (ds : List Duration) : Except Overflow Duration :=
  ofNanos (totalNanos ds)

/-- The time from `a` to `b`, none of it if `b` is earlier. -/
def since (b a : Duration) : Duration :=
  ⟨b.nanos - a.nanos, by have := b.lt_limit; omega⟩

/-- Seconds as a float: whole seconds and the rest are each rounded, then added. -/
def toSeconds (d : Duration) : Float :=
  (UInt64.ofNat d.seconds).toFloat + (UInt64.ofNat d.subsecond).toFloat / 1000000000

/-- The duration nearest to a number of seconds, a half nanosecond going to the even neighbour.
A negative number and one out of range have none. -/
def nearestSeconds (x : Float) : Except Overflow Duration :=
  match Decimal.Binary.of x with
  | .finite negative m q =>
    if negative && m != 0 then .error {}
    else
      let (num, den) := Decimal.scaleTwo (m * 1000000000) 1 q
      ofNanos (Decimal.roundEven num den)
  | _ => .error {}

/-- Whole milliseconds, rounded up: how long a wait takes on a clock of milliseconds. -/
def ceilMillis (nanos : Nat) : Nat := (nanos + 999999) / 1000000

/-- Whole milliseconds, as many as 64 bits hold; more wrap around. -/
def wrappedMillis (d : Duration) : Duration :=
  ofMillis (UInt64.ofNat (d.nanos / 1000000))

end Duration
end PrecheckLoad
