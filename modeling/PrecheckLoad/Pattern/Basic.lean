import PrecheckLoad.Pattern.Profile

/-!
# Traffic patterns

The shape of a body, the format of identities, and the layers. A pattern is well formed when its
body fields have names, the parameters of each layer make sense, no kind occurs twice, and at most
one layer chooses the identity. The first fault in the order of the layers is the one reported, a
layer's own parameters first.
-/
namespace PrecheckLoad

structure BodyShape where
  userField : String := "user_id"
  productField : String := "product_id"
  product : String := "1001"
deriving DecidableEq, Repr

structure IdentityFormat where
  lead : String := "user-"
  separator : String := "-"
deriving DecidableEq, Repr

namespace IdentityFormat

def unique (f : IdentityFormat) (user iteration : UInt64) : String :=
  f.lead ++ toString user.toNat ++ f.separator ++ toString iteration.toNat

def fixed (f : IdentityFormat) (user : UInt64) : String :=
  f.lead ++ toString user.toNat ++ f.separator ++ "fixed"

end IdentityFormat

structure Pattern where
  profiles : List Profile := []
  body : BodyShape := {}
  identity : IdentityFormat := {}
deriving DecidableEq, Repr

inductive PatternFault
  | duplicateProfile (kind : ProfileKind)
  | conflictingIdentity (first second : ProfileKind)
  | zeroPeriod (kind : ProfileKind)
  | emptyRange (kind : ProfileKind) (min max : UInt64)
  | emptyField (name : String)
deriving DecidableEq, Repr

/-- What is wrong with the parameters of a profile, if anything. -/
def Profile.fault? (p : Profile) : Option PatternFault :=
  match p with
  | .uniformRandom r => if r.min ≥ r.max then some (.emptyRange p.kind r.min r.max) else none
  | .fixedIdentity identity => if identity.isEmpty then some (.emptyField "identity") else none
  | .duplicate period => if period = 0 then some (.zeroPeriod p.kind) else none
  | .forcedFailure f =>
    if f.period = 0 then some (.zeroPeriod p.kind)
    else if f.sentinel.isEmpty then some (.emptyField "sentinel")
    else none
  | .spoofedHeader s =>
    if s.header.isEmpty then some (.emptyField "header")
    else if s.max = 0 ∧ s.mode = .independent then some (.emptyRange p.kind 0 0)
    else none

namespace Pattern

/-- Checks the layers one after the other, given the kinds seen and the identity base among them. -/
def checkLayers (seen : List ProfileKind) (base : Option ProfileKind) :
    List Profile → Except PatternFault Unit
  | [] => .ok ()
  | p :: rest =>
    match p.fault? with
    | some f => .error f
    | none =>
      if seen.contains p.kind then .error (.duplicateProfile p.kind)
      else if p.kind.isIdentityBase then
        match base with
        | some b => .error (.conflictingIdentity b p.kind)
        | none => checkLayers (p.kind :: seen) (some p.kind) rest
      else checkLayers (p.kind :: seen) base rest

def validate (p : Pattern) : Except PatternFault Unit :=
  if p.body.userField.isEmpty then .error (.emptyField "user_field")
  else if p.body.productField.isEmpty then .error (.emptyField "product_field")
  else checkLayers [] none p.profiles

end Pattern
end PrecheckLoad
