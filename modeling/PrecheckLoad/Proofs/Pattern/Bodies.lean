import PrecheckLoad.Proofs.Pattern.Composition
import PrecheckLoad.Proofs.Service.Purchases

/-!
# What the body of a request says

The identity that the layers leave in the end is written into the body, unless one of them strips
it. A service that is sent the body reads off that identity and the product, as they were.
-/
namespace PrecheckLoad

/-- Whether a layer keeps the identity out of the body. -/
def Profile.strips : Profile → Bool
  | .spoofedHeader s => s.stripBody
  | _ => false

variable {f : IdentityFormat} {c : Context} {d e : Draft} {l : Profile}

namespace Profile

theorem setAgent_bodyIdentity (agent : Option String) (d : Draft) :
    (setAgent agent d).bodyIdentity = d.bodyIdentity := by
  cases agent <;> rfl

/-- No layer puts the identity back. -/
theorem apply_bodyIdentity (applied : l.apply f c d = .ok e) :
    e.bodyIdentity = (d.bodyIdentity && !l.strips) := by
  cases l with
  | uniformRandom r =>
    obtain ⟨n, -, made⟩ := bind_eq_ok.mp applied
    cases made
    dsimp only [strips]
    split <;> simp [Draft.setHeader]
  | fixedIdentity identity =>
    cases applied
    simp [strips]
  | duplicate period =>
    obtain ⟨again, -, made⟩ := bind_eq_ok.mp applied
    cases made
    dsimp only [strips]
    split <;> simp
  | forcedFailure x =>
    obtain ⟨selected, -, made⟩ := bind_eq_ok.mp applied
    cases made
    dsimp only [strips]
    split <;> simp
  | spoofedHeader s =>
    obtain ⟨claimed, -, made⟩ := bind_eq_ok.mp applied
    cases made
    cases strip : s.stripBody <;> simp [strips, strip, setAgent_bodyIdentity, Draft.setHeader]

end Profile

namespace Pattern

variable {p : Pattern} {b : BodyShape}

theorem foldlM_bodyIdentity {ls : List Profile}
    (applied : ls.foldlM (fun d l => l.apply f c d) d = .ok e) :
    e.bodyIdentity = (d.bodyIdentity && ls.all (!·.strips)) := by
  induction ls generalizing d with
  | nil =>
    cases applied
    simp
  | cons l ls ih =>
    obtain ⟨d', first, later⟩ := bind_eq_ok.mp applied
    rw [ih later, Profile.apply_bodyIdentity first, List.all_cons, Bool.and_assoc]

/-- The identity is in the body exactly if no layer strips it. -/
theorem bodyIdentity_iff (drafted : p.draft c = .ok d) :
    d.bodyIdentity = true ↔ ∀ l ∈ p.profiles, l.strips = false := by
  rw [foldlM_bodyIdentity drafted, Bool.true_and, List.all_eq_true]
  simp only [mem_layers, Bool.not_eq_true']

theorem bodyJson_eq_written (user : b.userField = "user_id")
    (product : b.productField ∈ Purchase.productNames) (d : Draft) : bodyJson b d =
      Purchase.written b.productField b.product
        (if d.bodyIdentity then some d.identity else none) := by
  obtain ⟨userField, productField, sold⟩ := b
  simp only [Purchase.productNames, List.mem_cons, List.not_mem_nil, or_false] at user product
  subst user
  rcases product with rfl | rfl
  all_goals cases held : d.bodyIdentity <;> simp only [bodyJson, held] <;> rfl

/-- What a service reads off the body of a request: who wants to buy, if that is in the body, and
the product. -/
theorem read_body (user : p.body.userField = "user_id")
    (product : p.body.productField ∈ Purchase.productNames) (url : String) (d : Draft) :
    Purchase.read (Draft.request p url d).body = some {
      user := if d.bodyIdentity then some d.identity else none
      product := some (.string p.body.product) } := by
  have body : (Draft.request p url d).body = Text.encode (bodyJson p.body d).compact := rfl
  rw [body, bodyJson_eq_written user product d]
  exact Purchase.read_written product _ _

end Pattern
end PrecheckLoad
