import PrecheckLoad.Text.Basic

/-!
# Coded labels

A label beyond ASCII is coded as its ASCII characters, a dash, and numbers that tell which character
comes next and where it is put in. The digits of a number weigh more the further back they stand,
by thresholds that follow the numbers before. Numbers are words of 32 bits.
-/
namespace PrecheckLoad.DomainName

open Text

namespace Punycode

def base : Nat := 36

def wordLimit : Nat := 4294967296

/-- Letters count from 0, digits after them. -/
def digit? (c : Char) : Option Nat :=
  if isDigit c then some (c.toNat - 48 + 26)
  else if 'a' ≤ c ∧ c ≤ 'z' then some (c.toNat - 97)
  else none

/-- The least digit that another one follows, at a position. -/
def threshold (bias position : Nat) : Nat :=
  if position ≤ bias then 1 else if bias + 26 ≤ position then 26 else position - bias

/-- How often a number can be divided until it is small, times the base, and what is left. -/
def shrink (delta : Nat) : Nat × Nat :=
  if 455 < delta then
    let (k, rest) := shrink (delta / 35)
    (k + base, rest)
  else (0, delta)
termination_by delta
decreasing_by omega

/-- The bias after a number, for a text that has so many characters by now. -/
def adapt (delta size : Nat) (first : Bool) : Nat :=
  let delta := if first then delta / 700 else delta / 2
  let (k, rest) := shrink (delta + delta / size)
  k + base * rest / (rest + 38)

/-- What has been read. -/
structure State where
  text : List Char
  /-- The character put in last, or the last one of ASCII. -/
  code : Nat := 128
  /-- Where the last character was put in, moved on by the digits of the current number. -/
  place : Nat := 0
  bias : Nat := 72
  /-- Where the current number began. -/
  start : Nat := 0
  weight : Nat := 1
  position : Nat := base

/-- Whether a number has begun and not ended. -/
def State.isOpen (st : State) : Bool :=
  st.position ≠ base

/-- The end of a number: puts the character in. -/
def State.insert (st : State) : Option State :=
  let size := st.text.length + 1
  let code := st.code + st.place / size
  let place := st.place % size
  if h : code.isValidChar then
    some {
      text := st.text.insertIdx place (Char.ofNatAux code h)
      code
      place := place + 1
      bias := adapt (st.place - st.start) size (st.start = 0)
      start := place + 1 }
  else none

def State.read (st : State) (c : Char) : Option State := do
  let d ← digit? c
  let place := st.place + d * st.weight
  if wordLimit ≤ place then none
  else
    let st := { st with place }
    let t := threshold st.bias st.position
    if d < t then st.insert
    else if wordLimit ≤ st.weight * (base - t) then none
    else some { st with weight := st.weight * (base - t), position := st.position + base }

/-- The ASCII characters in front of the last dash, and the numbers behind it. A dash in front of
everything belongs to the numbers, where it is a fault. -/
def splitCoded (s : List Char) : List Char × List Char :=
  let numbers := (s.reverse.takeWhile (· ≠ '-')).reverse
  let plain := s.take (s.length - numbers.length - 1)
  if plain.isEmpty then ([], s) else (plain, numbers)

/-- The text of a coded label, in lower case and without its prefix. -/
def decode? (s : List Char) : Option (List Char) := do
  let (plain, numbers) := splitCoded s
  if plain.all (·.toNat < 128) then
    let st ← numbers.foldlM State.read { text := plain }
    if st.isOpen then none else some st.text
  else none

end Punycode
end PrecheckLoad.DomainName
