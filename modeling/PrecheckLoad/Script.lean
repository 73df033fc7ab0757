import PrecheckLoad.Fleet.User

/-!
# Scripted targets

A target that answers by rules: the first rule whose text occurs in the body of a request tells the
outcome and how long it takes.
-/
namespace PrecheckLoad

/-- What requests are answered by whose body contains a text, or by any body if there is none. -/
structure Rule where
  bodyContains : Option String
  delay : Duration
  latency : Duration
  outcome : Outcome

def Rule.applies (r : Rule) (body : Text.Bytes) : Bool :=
  match r.bodyContains with
  | some text => Text.occursIn (Text.encode text) body
  | none => true

/-- A request is under way for a millisecond at least. -/
def Rule.exchange (r : Rule) : Exchange where
  travel := max 1 (Duration.ceilMillis r.delay.nanos)
  outcome := r.outcome
  latency := r.latency
  travel_pos := by omega

/-- The answer where no rule applies. -/
def Exchange.refused : Exchange := ⟨1, .failure .connect, .zero, by decide⟩

/-- The first rule that applies answers. -/
def scripted (rules : List Rule) (r : Request) : Exchange :=
  match rules.find? (·.applies r.body) with
  | some rule => rule.exchange
  | none => .refused

end PrecheckLoad
