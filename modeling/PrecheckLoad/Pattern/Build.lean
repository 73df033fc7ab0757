import PrecheckLoad.Pattern.Basic
import PrecheckLoad.Pattern.Request
import PrecheckLoad.Random

/-!
# Building requests

Layers pass on a draft: the identity, whether it is written into the body, and headers. The draft
starts with an identity of its own for each iteration. A layer fails only where it would count by a
period of zero or draw from nothing, which a well formed pattern excludes.
-/
namespace PrecheckLoad

structure Draft where
  identity : String
  bodyIdentity : Bool := true
  headers : Headers := []
deriving DecidableEq, Repr

def Draft.setHeader (d : Draft) (name value : String) : Draft :=
  { d with headers := d.headers.set name value }

inductive LayerFault
  | zeroPeriod
  | emptyRange
deriving DecidableEq, Repr

/-- Whether a period divides a count. -/
def divides (period n : UInt64) : Except LayerFault Bool :=
  if period = 0 then .error .zeroPeriod else .ok (n % period == 0)

def drawNumber (c : Context) (p : Random.Purpose) (lo hi : UInt64) : Except LayerFault Nat :=
  match Random.draw (Random.stream c p) lo hi with
  | .ok n => .ok n.toNat
  | .error _ => .error .emptyRange

def FailureScope.count (s : FailureScope) (c : Context) : UInt64 :=
  match s with
  | .iteration => c.iteration
  | .user => c.user

def setAgent (agent : Option String) (d : Draft) : Draft :=
  match agent with
  | some a => d.setHeader "User-Agent" a
  | none => d

/-- The identity that a header claims. -/
def Spoof.claim (s : Spoof) (c : Context) (identity : String) : Except LayerFault String :=
  match s.mode with
  | .matching => .ok identity
  | .independent => do return s.lead ++ toString (← drawNumber c .spoof 0 s.max)

def Profile.apply (p : Profile) (f : IdentityFormat) (c : Context) (d : Draft) :
    Except LayerFault Draft :=
  match p with
  | .uniformRandom r => do
    let n ← drawNumber c .identity r.min r.max
    let d := { d with identity := r.lead ++ toString n }
    return if r.botAgent then d.setHeader "User-Agent" ("Bot-" ++ toString n) else d
  | .fixedIdentity identity => .ok { d with identity }
  | .duplicate period => do
    return if ← divides period c.iteration then { d with identity := f.fixed c.user } else d
  | .forcedFailure x => do
    return if ← divides x.period (x.scope.count c) then { d with identity := x.sentinel } else d
  | .spoofedHeader s => do
    let claimed ← s.claim c d.identity
    let d := setAgent s.userAgent (d.setHeader s.header claimed)
    return if s.stripBody then { d with bodyIdentity := false } else d

namespace Pattern

/-- The layers by precedence; equals stay in order. -/
def layers (p : Pattern) : List Profile :=
  p.profiles.filter (·.precedence = 0) ++ p.profiles.filter (·.precedence = 1) ++
    p.profiles.filter (·.precedence = 2)

def draft (p : Pattern) (c : Context) : Except LayerFault Draft :=
  p.layers.foldlM (fun d l => l.apply p.identity c d)
    { identity := p.identity.unique c.user c.iteration }

/-- The fields of the body; the product replaces the buyer where both have one name. -/
def bodyJson (b : BodyShape) (d : Draft) : Json :=
  Json.sortedObject <|
    (if d.bodyIdentity then [(b.userField, .string d.identity)] else []) ++
      [(b.productField, .string b.product)]

def Draft.request (p : Pattern) (url : String) (d : Draft) : Request where
  url := url
  body := Text.encode (bodyJson p.body d).compact
  headers := ("Content-Type", "application/json") :: d.headers

/-- The request of one iteration. -/
def build (p : Pattern) (c : Context) (url : String) : Except LayerFault Request := do
  return Draft.request p url (← p.draft c)

end Pattern
end PrecheckLoad
