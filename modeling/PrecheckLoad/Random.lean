/-!
# Random streams

Every random choice of an iteration comes from a stream of its own, seeded by the run, the user,
the iteration and the purpose. The seed is mixed three times by a bijection of 64-bit words; the
stream is a generator with four words of state. A draw below a bound multiplies a word by the bound
and keeps the upper half, once the lower half falls into a zone of which each result has equal
share.
-/
namespace PrecheckLoad

/-- One iteration of one user. -/
structure Context where
  user : UInt64
  iteration : UInt64
  seed : UInt64
deriving DecidableEq, Repr

namespace Random

inductive Purpose
  | identity
  | spoof
  | pacing
deriving DecidableEq, Repr

def Purpose.code : Purpose → UInt64
  | .identity => 1
  | .spoof => 2
  | .pacing => 3

def mix (x : UInt64) : UInt64 :=
  let z := x + 0x9E3779B97F4A7C15
  let z := (z ^^^ (z >>> 30)) * 0xBF58476D1CE4E5B9
  let z := (z ^^^ (z >>> 27)) * 0x94D049BB133111EB
  z ^^^ (z >>> 31)

def streamSeed (c : Context) (p : Purpose) : UInt64 :=
  mix (mix (mix (c.seed ^^^ p.code) ^^^ c.user) ^^^ c.iteration)

structure Generator where
  s0 : UInt64
  s1 : UInt64
  s2 : UInt64
  s3 : UInt64
deriving DecidableEq, Repr

def rotateLeft (x : UInt64) (k : UInt64) : UInt64 :=
  (x <<< k) ||| (x >>> (64 - k))

def rotateRight32 (x : UInt32) (k : UInt32) : UInt32 :=
  if k = 0 then x else (x >>> k) ||| (x <<< (32 - k))

/-- Steps of the sequence that fills the state, and the half word of each. -/
def seedStep (x : UInt64) : UInt64 :=
  x * 6364136223846793005 + 11634580027462260723

def seedHalf (x : UInt64) : UInt32 :=
  rotateRight32 (((x >>> 18) ^^^ x) >>> 27).toUInt32 (x >>> 59).toUInt32

/-- Two halves, the lower first. -/
def seedWord (x : UInt64) : UInt64 × UInt64 :=
  let a := seedStep x
  let b := seedStep a
  ((seedHalf a).toUInt64 ||| ((seedHalf b).toUInt64 <<< 32), b)

def Generator.ofSeed (x : UInt64) : Generator :=
  let (s0, x) := seedWord x
  let (s1, x) := seedWord x
  let (s2, x) := seedWord x
  let (s3, _) := seedWord x
  ⟨s0, s1, s2, s3⟩

def Generator.next (g : Generator) : UInt64 × Generator :=
  let result := rotateLeft (g.s0 + g.s3) 23 + g.s0
  let t := g.s1 <<< 17
  let s2 := g.s2 ^^^ g.s0
  let s3 := g.s3 ^^^ g.s1
  let s1 := g.s1 ^^^ s2
  let s0 := g.s0 ^^^ s3
  (result, ⟨s0, s1, s2 ^^^ t, rotateLeft s3 45⟩)

def Generator.take (g : Generator) : Nat → List UInt64
  | 0 => []
  | n + 1 => let (x, g) := g.next; x :: g.take n

def stream (c : Context) (p : Purpose) : Generator :=
  .ofSeed (streamSeed c p)

/-- The last lower half that is accepted: a multiple of the bound, less one. -/
def zone (r : Nat) : Nat :=
  r * Nat.pow 2 (63 - Nat.log2 r) - 1

/-- Draws until one is accepted. Each is with at least even chance, so the number of tries allowed
is never used up; the last try counts in any case. -/
def Generator.below (g : Generator) (r : Nat) : Nat → Nat
  | 0 => g.next.1.toNat * r / Nat.pow 2 64
  | tries + 1 =>
    let (v, g) := g.next
    let product := v.toNat * r
    if product % Nat.pow 2 64 ≤ zone r then product / Nat.pow 2 64 else g.below r tries

/-- No draw is possible from a range without elements. -/
structure EmptyRange where
deriving DecidableEq, Repr

/-- A number from `lo` up to but not including `hi`. -/
def draw (g : Generator) (lo hi : UInt64) : Except EmptyRange UInt64 :=
  if lo < hi then .ok (lo + UInt64.ofNat (g.below (hi.toNat - lo.toNat) 1000))
  else .error {}

end Random
end PrecheckLoad
