import PrecheckLoad.Decimal
import PrecheckLoad.Text.Basic

/-!
# Conditions

An aggregation, a comparator and a bound, written without blanks: `p(95)<300`. A text is split at
its first run of comparator signs; both sides are trimmed. Faults are found in the order
comparator, bound, aggregation.
-/
namespace PrecheckLoad

inductive Comparator
  | lt
  | le
  | gt
  | ge
  | eq
  | ne
deriving DecidableEq, Repr, Inhabited

namespace Comparator

def all : List Comparator := [.lt, .le, .gt, .ge, .eq, .ne]

def symbol : Comparator → String
  | .lt => "<"
  | .le => "<="
  | .gt => ">"
  | .ge => ">="
  | .eq => "=="
  | .ne => "!="

/-- Besides the symbols, equality may be written with one more sign. -/
def ofText? (s : String) : Option Comparator :=
  if s = "===" then some .eq
  else if s = "!==" then some .ne
  else all.find? fun c => c.symbol = s

def holds (c : Comparator) (observed bound : Float) : Bool :=
  match c with
  | .lt => observed < bound
  | .le => observed ≤ bound
  | .gt => observed > bound
  | .ge => observed ≥ bound
  | .eq => observed == bound
  | .ne => observed != bound

end Comparator

inductive Aggregation
  | percentile (p : Float)
  | avg
  | min
  | med
  | max
  | rate
  | count

def Aggregation.text : Aggregation → String
  | .percentile p => "p(" ++ Decimal.plain p ++ ")"
  | .avg => "avg"
  | .min => "min"
  | .med => "med"
  | .max => "max"
  | .rate => "rate"
  | .count => "count"

/-- Why a text is no condition. -/
inductive ConditionFault
  | missingComparator
  | unknownComparator (text : String)
  | boundNotNumber
  | boundNotFinite
  | missingAggregation
  | unknownAggregation (text : String)
  | invalidPercentile (text : String)
  | percentileOutside (p : Float)

def Comparator.unknown (text : String) : String :=
  "unknown comparator `" ++ text ++ "`"

def ConditionFault.message : ConditionFault → String
  | .missingComparator => "missing comparator"
  | .unknownComparator text => Comparator.unknown text
  | .boundNotNumber => "bound is not a number"
  | .boundNotFinite => "bound is not finite"
  | .missingAggregation => "missing aggregation"
  | .unknownAggregation text => "unknown aggregation `" ++ text ++ "`"
  | .invalidPercentile text => "invalid percentile `" ++ text ++ "`"
  | .percentileOutside p => "percentile " ++ Decimal.plain p ++ " outside [0, 100]"

/-- What stands between `p(` and the closing parenthesis at the end. -/
def percentileArgument? (s : List Char) : Option (List Char) :=
  match s with
  | 'p' :: '(' :: rest => if rest.getLast? = some ')' then some rest.dropLast else none
  | _ => none

def Aggregation.ofText (s : String) : Except ConditionFault Aggregation :=
  if s = "avg" then .ok .avg
  else if s = "min" then .ok .min
  else if s = "med" then .ok .med
  else if s = "max" then .ok .max
  else if s = "rate" then .ok .rate
  else if s = "count" then .ok .count
  else if s.isEmpty then .error .missingAggregation
  else match percentileArgument? s.toList with
    | none => .error (.unknownAggregation s)
    | some inner =>
      match Decimal.read? (String.ofList (Text.trimChars inner)) with
      | none => .error (.invalidPercentile (String.ofList inner))
      | some p =>
        if 0 ≤ p && p ≤ 100 then .ok (.percentile p) else .error (.percentileOutside p)

structure Condition where
  aggregation : Aggregation
  comparator : Comparator
  bound : Float

namespace Condition

def text (c : Condition) : String :=
  c.aggregation.text ++ c.comparator.symbol ++ Decimal.plain c.bound

def isSign (c : Char) : Bool :=
  c = '<' || c = '>' || c = '=' || c = '!'

/-- The text before the first sign, the run of signs from there, and the rest. -/
def split (s : List Char) : List Char × List Char × List Char :=
  let lhs := s.takeWhile fun c => !isSign c
  let rest := s.dropWhile fun c => !isSign c
  (lhs, rest.takeWhile isSign, rest.dropWhile isSign)

def ofText (s : String) : Except ConditionFault Condition := do
  let (lhs, op, rhs) := split s.toList
  if op.isEmpty then throw .missingComparator
  let op := String.ofList op
  let comparator ← match Comparator.ofText? op with
    | some c => pure c
    | none => throw (.unknownComparator op)
  let bound ← match Decimal.read? (String.ofList (Text.trimChars rhs)) with
    | some x => pure x
    | none => throw .boundNotNumber
  unless bound.isFinite do throw .boundNotFinite
  let aggregation ← Aggregation.ofText (String.ofList (Text.trimChars lhs))
  return ⟨aggregation, comparator, bound⟩

end Condition
end PrecheckLoad
