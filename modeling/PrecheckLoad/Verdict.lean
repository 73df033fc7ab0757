import PrecheckLoad.Samples

/-!
# Verdicts

The verdict of a run holds one outcome per threshold name, sorted by name; where two thresholds
have one name the later one counts. The run passes when every outcome does.
-/
namespace PrecheckLoad

/-- Keyed entries in ascending order of their keys. -/
def putEntry {κ ν : Type} [DecidableEq κ] [LT κ] [DecidableLT κ] (k : κ) (v : ν) :
    List (κ × ν) → List (κ × ν)
  | [] => [(k, v)]
  | (k', v') :: rest =>
    if k = k' then (k, v) :: rest
    else if k < k' then (k, v) :: (k', v') :: rest
    else (k', v') :: putEntry k v rest

/-- Entries by key; of those with one key the last. -/
def entriesOf {κ ν : Type} [DecidableEq κ] [LT κ] [DecidableLT κ] (xs : List (κ × ν)) :
    List (κ × ν) :=
  xs.foldl (fun acc (k, v) => putEntry k v acc) []

/-- Changes the value of a key, from a start where it has none yet. -/
def updateEntry {κ ν : Type} [DecidableEq κ] [LT κ] [DecidableLT κ] (k : κ) (start : ν)
    (f : ν → ν) (es : List (κ × ν)) : List (κ × ν) :=
  putEntry k (f ((es.lookup k).getD start)) es

structure ThresholdOutcome where
  expression : String
  observed : Float
  comparator : Comparator
  bound : Float
  passed : Bool

def Threshold.outcome (t : Threshold) (l : SampleLog) (sorted : List Float) : ThresholdOutcome :=
  let observed := t.observe l sorted
  { expression := t.condition.text
    observed
    comparator := t.condition.comparator
    bound := t.condition.bound
    passed := t.condition.comparator.holds observed t.condition.bound }

structure Verdict where
  passed : Bool
  outcomes : List (String × ThresholdOutcome)

/-- The exit code of a run whose verdict failed. -/
def exitBreach : Nat := 99

/-- The exit code of a run that was rejected before its start. -/
def exitRejected : Nat := 104

namespace Verdict

def of (outcomes : List (String × ThresholdOutcome)) : Verdict :=
  let entries := entriesOf outcomes
  ⟨entries.all (·.2.passed), entries⟩

def evaluate (ts : List Threshold) (l : SampleLog) : Verdict :=
  let sorted := sortedMillis l.samples
  .of (ts.map fun t => (t.name, t.outcome l sorted))

def exitCode (v : Verdict) : Nat :=
  if v.passed then 0 else exitBreach

end Verdict
end PrecheckLoad
