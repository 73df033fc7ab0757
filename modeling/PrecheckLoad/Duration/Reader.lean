import PrecheckLoad.Duration.Basic
import PrecheckLoad.Duration.Phrase
import PrecheckLoad.Text.Basic
import PrecheckLoad.Text.Quoted

/-!
# Reading durations

A text is a row of numbers, each with a unit. More can be read than is written: every name of a
unit, blanks anywhere between digits, fractions, and units in any order. The parts are added up in
64-bit seconds and nanoseconds, and what does not fit exactly is refused.
-/
namespace PrecheckLoad.Duration

open Text

inductive PhraseError
  | empty
  | numberExpected (offset : Nat)
  | invalidCharacter (offset : Nat)
  | unitMissing (number : Nat)
  | unknownUnit (unit : String)
  | tooLarge
  /-- The sum is out of the range of durations. -/
  | overflow
deriving DecidableEq, Repr

def PhraseError.message : PhraseError → String
  | .empty => "value was empty"
  | .numberExpected offset => "expected number at " ++ toString offset
  | .invalidCharacter offset => "invalid character at " ++ toString offset
  | .unitMissing n =>
    "time unit needed, for example " ++ toString n ++ "sec or " ++ toString n ++ "ms"
  | .unknownUnit unit =>
    "unknown time unit " ++ quoted unit ++ ", supported units: ns, us/µs, ms, sec, min, " ++
      "hours, days, weeks, months, years (and few variations)"
  | .tooLarge =>
    "number is too large or cannot be represented without a lack of precision " ++
      "(values below 1ns are not supported)"
  | .overflow => "overflow when adding durations"

/-- A number that 64 bits hold. -/
def word (n : Nat) : Except PhraseError Nat :=
  if n < Nat.pow 2 64 then .ok n else .error .tooLarge

structure Fraction where
  numerator : Nat
  denominator : Nat

/-- The parts added up so far. -/
structure Sum where
  seconds : Nat := 0
  nanos : Nat := 0

/-- Nanoseconds are carried into seconds once they are more than a second; a sum of exactly one
second is carried too, but without a check of its own. -/
def Sum.addNanos (t : Sum) (n : Nat) : Except PhraseError Sum := do
  let ns ← word (t.nanos + n)
  if ns > 1000000000 then
    let s ← word (t.seconds + ns / 1000000000)
    return ⟨s, ns % 1000000000⟩
  else if ns = 1000000000 then
    if t.seconds + 1 < Nat.pow 2 64 then return ⟨t.seconds + 1, 0⟩ else throw .overflow
  else return ⟨t.seconds, ns⟩

def Sum.addSeconds (t : Sum) (s : Nat) : Except PhraseError Sum := do
  let s ← word (t.seconds + s)
  return ⟨s, t.nanos⟩

def Sum.add (t : Sum) (count : Nat) : Grain → Except PhraseError Sum
  | .nanos size => do t.addNanos (← word (count * size))
  | .seconds size => do t.addSeconds (← word (count * size))

/-- A fraction counts only if it is a whole number of the grain. -/
def Fraction.count (f : Fraction) (size : Nat) : Except PhraseError Nat := do
  let n ← word (f.numerator * size)
  if n % f.denominator = 0 then return n / f.denominator else throw .tooLarge

def Sum.addFraction (t : Sum) (f : Fraction) (unit : TimeUnit) : Except PhraseError Sum :=
  match unit.fractionGrain? with
  | none => throw .tooLarge
  | some (.nanos size) => do t.addNanos (← f.count size)
  | some (.seconds size) => do t.addSeconds (← f.count size)

/-- A number and its unit, as they stand in the text. -/
structure Item where
  number : Nat
  fraction : Option Fraction
  unit : String

def Sum.addItem (t : Sum) (item : Item) : Except PhraseError Sum := do
  let unit ← match TimeUnit.ofName? item.unit with
    | some u => pure u
    | none => throw (if item.unit.isEmpty then .unitMissing item.number else .unknownUnit item.unit)
  let t ← t.add item.number unit.grain
  match item.fraction with
  | none => return t
  | some f => t.addFraction f unit

def isUnitLetter (c : Char) : Bool :=
  isLetter c || c = 'µ'

/-- Where the reading stands: what it is in the middle of. -/
inductive Phase
  /-- Before the number of an item. `since` is the offset where the search began. -/
  | before (since : Nat)
  | whole (number : Nat)
  /-- After the point. A fault is blamed on the end of what has been accepted so far, at first on
  the point. -/
  | places (number : Nat) (fraction : Fraction) (leading : Bool) (accepted : Nat)
  | unit (number : Nat) (fraction : Option Fraction) (letters : List Char)

structure ReadState where
  offset : Nat
  phase : Phase
  sum : Sum

def nextDigit (n : Nat) (c : Char) : Except PhraseError Nat :=
  word (n * 10 + digitValue c)

/-- One digit after the point. Zeros in front of the first other digit leave the numerator alone. -/
def Fraction.push (f : Fraction) (leading : Bool) (c : Char) :
    Except PhraseError (Fraction × Bool) := do
  let denominator ← word (f.denominator * 10)
  if c = '0' && leading then return (⟨f.numerator, denominator⟩, true)
  let numerator ← nextDigit f.numerator c
  return (⟨numerator, denominator⟩, false)

def finishFraction (f : Fraction) (offset : Nat) : Except PhraseError Fraction :=
  if f.denominator = 1 then .error (.invalidCharacter offset) else .ok f

/-- Reads one character at its offset. -/
def readChar (st : ReadState) (c : Char) : Except PhraseError ReadState := do
  let offset := st.offset + c.utf8Size
  match st.phase with
  | .before since =>
    if isDigit c then return { st with offset, phase := .whole (digitValue c) }
    else if isBlank c then return { st with offset }
    else throw (.numberExpected since)
  | .whole n =>
    if isDigit c then return { st with offset, phase := .whole (← nextDigit n c) }
    else if isBlank c then return { st with offset }
    else if isUnitLetter c then return { st with offset, phase := .unit n none [c] }
    else if c = '.' then return { st with offset, phase := .places n ⟨0, 1⟩ true st.offset }
    else throw (.invalidCharacter st.offset)
  | .places n f leading accepted =>
    if isDigit c then
      let (f, leading) ← f.push leading c
      return { st with offset, phase := .places n f leading offset }
    else if isBlank c then return { st with offset, phase := .places n f leading offset }
    else if isUnitLetter c then
      return { st with offset, phase := .unit n (← finishFraction f accepted) [c] }
    else throw (.invalidCharacter accepted)
  | .unit n f letters =>
    if isDigit c then
      let sum ← st.sum.addItem ⟨n, f, String.ofList letters.reverse⟩
      return ⟨offset, .whole (digitValue c), sum⟩
    else if isBlank c then
      let sum ← st.sum.addItem ⟨n, f, String.ofList letters.reverse⟩
      return ⟨offset, .before offset, sum⟩
    else if isUnitLetter c then return { st with offset, phase := .unit n f (c :: letters) }
    else throw (.invalidCharacter st.offset)

/-- The end of the text ends the item that is being read. -/
def ReadState.finish (st : ReadState) : Except PhraseError Sum :=
  match st.phase with
  | .before _ => .ok st.sum
  | .whole n => st.sum.addItem ⟨n, none, ""⟩
  | .places n f _ accepted => do st.sum.addItem ⟨n, ← finishFraction f accepted, ""⟩
  | .unit n f letters => st.sum.addItem ⟨n, f, String.ofList letters.reverse⟩

def Sum.toDuration (t : Sum) : Except PhraseError Duration :=
  (ofNanos (t.seconds * 1000000000 + t.nanos)).mapError fun _ => .overflow

/-- The duration that a text describes. Blanks around it do not count. -/
def ofPhrase (text : String) : Except PhraseError Duration := do
  let cs := trimChars text.toList
  if cs = ['0'] then return zero
  if cs.isEmpty then throw .empty
  let st ← cs.foldlM readChar ⟨0, .before 0, {}⟩
  (← st.finish).toDuration

end PrecheckLoad.Duration
