import PrecheckLoad.Decimal

/-!
# JSON numbers

A number without point and exponent is an integer where it fits 64 bits, signed below zero, and a
float otherwise; `-0` is a float. A float is read fast rather than exactly: the leading digits that
fit 64 bits make an integer, and one multiplication or division by a power of ten scales it.
Numbers beyond the range of floats are refused, those too small become zero.
-/
namespace PrecheckLoad.Json

inductive Number
  | int (n : Int)
  | float (x : Float)

/-- Leading digits of a number and the power of ten that they still have to be scaled by. -/
structure Significand where
  value : Nat := 0
  exponent : Int := 0
  /-- Whether digits have been left out. -/
  full : Bool := false

/-- A digit before the point; one that does not fit scales the number up. -/
def Significand.pushWhole (s : Significand) (c : Char) : Significand :=
  let v := s.value * 10 + Text.digitValue c
  if s.full || v ≥ Nat.pow 2 64 then { s with exponent := s.exponent + 1, full := true }
  else { s with value := v }

/-- A digit after the point; one that does not fit is left out, and all that follow it. -/
def Significand.pushPlace (s : Significand) (c : Char) : Significand :=
  let v := s.value * 10 + Text.digitValue c
  if s.full || v ≥ Nat.pow 2 64 then { s with full := true }
  else { s with value := v, exponent := s.exponent - 1 }

def Significand.of (whole places : List Char) : Significand :=
  places.foldl pushPlace { whole.foldl pushWhole {} with full := false }

def tenPower (k : Nat) : Float :=
  Decimal.nearestTen false 1 k

/-- Divides by `10^308` until the exponent is in the table of powers. -/
def scaleDown (f : Float) (e : Nat) : Float :=
  if e ≤ 308 then f / tenPower e
  else if f == 0 then f
  else scaleDown (f / tenPower 308) (e - 308)
termination_by e

/-- The scaled number, none when it is out of range. -/
def scaled (s : Significand) (e : Int) : Option Float :=
  let f := (UInt64.ofNat s.value).toFloat
  match e with
  | .ofNat k =>
    if k ≤ 308 then
      let f := f * tenPower k
      if f.isInf then none else some f
    else if f == 0 then some f else none
  | .negSucc k => some (scaleDown f (k + 1))

/-- The text of a number, taken apart. The exponent has its sign and at least one digit. -/
structure NumberText where
  negative : Bool
  whole : List Char
  places : Option (List Char)
  exponent : Option (Bool × List Char)

def signed (negative : Bool) (x : Float) : Float :=
  if negative then -x else x

/-- Exponents are kept within 32 bits. -/
def clampExponent (e : Int) : Int :=
  max (-2147483648) (min e 2147483647)

def NumberText.value? (t : NumberText) : Option Number :=
  let s := Significand.of t.whole (t.places.getD [])
  match t.places, t.exponent with
  | none, none =>
    if s.exponent > 0 then (scaled s s.exponent).map fun x => .float (signed t.negative x)
    else if !t.negative then some (.int s.value)
    else if s.value = 0 ∨ s.value > Nat.pow 2 63 then
      some (.float (-(UInt64.ofNat s.value).toFloat))
    else some (.int (-(s.value : Int)))
  | _, none => (scaled s s.exponent).map fun x => .float (signed t.negative x)
  | _, some (down, ds) =>
    let n := Text.natOfDigits ds
    if n ≥ Nat.pow 2 31 then
      if s.value ≠ 0 ∧ !down then none else some (.float (signed t.negative 0))
    else
      let e := clampExponent (if down then s.exponent - n else s.exponent + n)
      (scaled s e).map fun x => .float (signed t.negative x)

end PrecheckLoad.Json
