import PrecheckLoad.Pattern.Request

/-!
# Predicates and checks

A predicate judges a response by its status and body. A check is a named judgement of an outcome;
where there is no response every check fails, whatever it says.
-/
namespace PrecheckLoad

inductive Predicate
  | statusIs (status : UInt16)
  | statusIn (statuses : List UInt16)
  | bodyContains (text : String)
  | all (ps : List Predicate)
  | any (ps : List Predicate)
  | not (p : Predicate)

namespace Predicate

inductive Kind
  | statusIs
  | statusIn
  | bodyContains
  | all
  | any
  | not
deriving DecidableEq, Repr

def kinds : List Kind := [.statusIs, .statusIn, .bodyContains, .all, .any, .not]

def Kind.name : Kind → String
  | .statusIs => "status_is"
  | .statusIn => "status_in"
  | .bodyContains => "body_contains"
  | .all => "all"
  | .any => "any"
  | .not => "not"

mutual

def holds (status : UInt16) (body : Text.Bytes) : Predicate → Bool
  | .statusIs s => status == s
  | .statusIn ss => ss.contains status
  | .bodyContains text => Text.occursIn (Text.encode text) body
  | .all ps => allHold status body ps
  | .any ps => anyHolds status body ps
  | .not p => !holds status body p

def allHold (status : UInt16) (body : Text.Bytes) : List Predicate → Bool
  | [] => true
  | p :: rest => holds status body p && allHold status body rest

def anyHolds (status : UInt16) (body : Text.Bytes) : List Predicate → Bool
  | [] => false
  | p :: rest => holds status body p || anyHolds status body rest

end

mutual

/-- Whether two predicates are one. -/
def same : Predicate → Predicate → Bool
  | .statusIs s, .statusIs t => s == t
  | .statusIn ss, .statusIn ts => ss == ts
  | .bodyContains a, .bodyContains b => a == b
  | .all ps, .all qs => allSame ps qs
  | .any ps, .any qs => allSame ps qs
  | .not p, .not q => same p q
  | _, _ => false

def allSame : List Predicate → List Predicate → Bool
  | [], [] => true
  | p :: ps, q :: qs => same p q && allSame ps qs
  | _, _ => false

end

end Predicate

/-- A check as it is declared in a configuration. -/
structure CheckSpec where
  name : String
  predicate : Predicate

/-- Any judgement of a response. -/
structure Judgement where
  judge : Response → Bool

/-- The body has to contain a text once its bytes are read as text. -/
def Judgement.contains (text : String) : Judgement :=
  ⟨fun r => Text.occursIn (Text.encode text) (Text.encode r.text)⟩

instance : Coe String Judgement := ⟨.contains⟩

/-- How a check is carried out: by a predicate, or by any other judgement of the response. -/
inductive Assertion
  | predicate (p : Predicate)
  | logic (j : Judgement)

/-- A judgement, given as such or by the text that the body has to contain. -/
@[match_pattern] def Assertion.textContains (j : Judgement) : Assertion := .logic j

structure Check where
  name : String
  assertion : Assertion

def CheckSpec.check (s : CheckSpec) : Check := ⟨s.name, .predicate s.predicate⟩

structure CheckResult where
  name : String
  passed : Bool
deriving DecidableEq, Repr

def Assertion.holds (r : Response) : Assertion → Bool
  | .predicate p => p.holds r.status r.body
  | .logic j => j.judge r

def Check.evaluate (o : Outcome) (c : Check) : CheckResult where
  name := c.name
  passed := match o.response? with
    | some r => c.assertion.holds r
    | none => false

/-- One result per check, in order. -/
def evaluateChecks (cs : List Check) (o : Outcome) : List CheckResult :=
  cs.map (Check.evaluate o)

end PrecheckLoad
