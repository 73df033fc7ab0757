/-!
# Profiles

A profile is one layer of a traffic pattern. Three of the kinds choose the identity in the body,
one replaces it on some iterations, one claims an identity in a header. Layers apply in the order
of their precedence.
-/
namespace PrecheckLoad

inductive ProfileKind
  | uniformRandom
  | fixedIdentity
  | duplicate
  | forcedFailure
  | spoofedHeader
deriving DecidableEq, Repr

namespace ProfileKind

def all : List ProfileKind :=
  [.uniformRandom, .fixedIdentity, .duplicate, .forcedFailure, .spoofedHeader]

def name : ProfileKind → String
  | .uniformRandom => "uniform-random-identity"
  | .fixedIdentity => "fixed-single-identity"
  | .duplicate => "duplicate-injection"
  | .forcedFailure => "forced-failure-injection"
  | .spoofedHeader => "spoofed-identity-headers"

def isIdentityBase : ProfileKind → Bool
  | .uniformRandom => true
  | .fixedIdentity => true
  | .duplicate => true
  | .forcedFailure => false
  | .spoofedHeader => false

def precedence : ProfileKind → Nat
  | .uniformRandom => 0
  | .fixedIdentity => 0
  | .duplicate => 0
  | .forcedFailure => 1
  | .spoofedHeader => 2

end ProfileKind

/-- Identities made of a lead and a number from `min` up to but not including `max`. -/
structure IdentityRange where
  lead : String := ""
  min : UInt64 := 0
  max : UInt64
  /-- Whether the user agent shows the number as well. -/
  botAgent : Bool := false
deriving DecidableEq, Repr

/-- What a forced failure counts: the iterations of a user, or the users. -/
inductive FailureScope
  | iteration
  | user
deriving DecidableEq, Repr

namespace FailureScope

def all : List FailureScope := [.iteration, .user]

def name : FailureScope → String
  | .iteration => "iteration"
  | .user => "virtual-user"

end FailureScope

/-- The identity that a service answers by failing. -/
def failureSentinel : String := "force-fail"

/-- Every count that the period divides gets the sentinel. -/
structure ForcedFailure where
  period : UInt64 := 50
  sentinel : String := failureSentinel
  scope : FailureScope := .iteration
deriving DecidableEq, Repr

/-- Whether a claimed identity is made up or repeats the one in the body. -/
inductive SpoofMode
  | independent
  | matching
deriving DecidableEq, Repr

namespace SpoofMode

def all : List SpoofMode := [.independent, .matching]

def name : SpoofMode → String
  | .independent => "independent"
  | .matching => "mirror"

end SpoofMode

/-- The header in which a client may claim an identity. -/
def claimHeader : String := "X-User-ID"

structure Spoof where
  header : String := claimHeader
  lead : String := "spoof_"
  max : UInt64 := 999999
  mode : SpoofMode := .independent
  userAgent : Option String := none
  stripBody : Bool := false
deriving DecidableEq, Repr

inductive Profile
  | uniformRandom (range : IdentityRange)
  | fixedIdentity (identity : String)
  /-- Every iteration that the period divides repeats the user's fixed identity. -/
  | duplicate (period : UInt64)
  | forcedFailure (failure : ForcedFailure)
  | spoofedHeader (spoof : Spoof)
deriving DecidableEq, Repr

namespace Profile

def defaultIdentity : String := "attacker_1"

def defaultPeriod : UInt64 := 7

def kind : Profile → ProfileKind
  | .uniformRandom _ => .uniformRandom
  | .fixedIdentity _ => .fixedIdentity
  | .duplicate _ => .duplicate
  | .forcedFailure _ => .forcedFailure
  | .spoofedHeader _ => .spoofedHeader

def precedence (p : Profile) : Nat := p.kind.precedence

end Profile

/-- The profile that a kind stands for by itself. -/
def ProfileKind.profile : ProfileKind → Profile
  | .uniformRandom => .uniformRandom { lead := "user_", max := 1000000 }
  | .fixedIdentity => .fixedIdentity Profile.defaultIdentity
  | .duplicate => .duplicate Profile.defaultPeriod
  | .forcedFailure => .forcedFailure {}
  | .spoofedHeader => .spoofedHeader {}

end PrecheckLoad
