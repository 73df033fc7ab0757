import PrecheckLoad.Proofs.Pattern.Drafts
import PrecheckLoad.Proofs.Pattern.Layers

/-!
# What a layered pattern means

The layers of an accepted pattern compose to a draft that can be told without any order: a layer
that forces a failure decides the identity where it selects the iteration, elsewhere the one layer
that chooses identities does, and where there is none the identity is unique. A matching claim is
made with the identity that is left in the end.
-/
namespace PrecheckLoad

/-- The period of a forced failure divides the count of a context. -/
def ForcedFailure.Selects (f : ForcedFailure) (c : Context) : Prop :=
  f.period.toNat ∣ (f.scope.count c).toNat

instance (f : ForcedFailure) (c : Context) : Decidable (f.Selects c) :=
  inferInstanceAs (Decidable (_ ∣ _))

/-- Whether a claim sets the user agent, by itself or as the header of the claim. -/
def Spoof.SetsAgent (s : Spoof) : Prop :=
  s.userAgent.isSome = true ∨ Text.sameName s.header "User-Agent" = true

namespace Profile

variable {f : IdentityFormat} {c : Context} {d : Draft}

theorem apply_uniformRandom {r : IdentityRange} (sound : (uniformRandom r).fault? = none) :
    ∃ n, r.min.toNat ≤ n ∧ n < r.max.toNat ∧
      (uniformRandom r).apply f c d = .ok (
        let d := { d with identity := r.lead ++ toString n }
        if r.botAgent then d.setHeader "User-Agent" ("Bot-" ++ toString n) else d) := by
  have range : r.min < r.max := by simpa [fault?] using sound
  obtain ⟨n, drawn, low, high⟩ := drawNumber_in_range c .identity range
  exact ⟨n, low, high, by rw [apply, drawn]; rfl⟩

theorem apply_duplicate {k : UInt64} (sound : (duplicate k).fault? = none) :
    (duplicate k).apply f c d = .ok
      (if k.toNat ∣ c.iteration.toNat then { d with identity := f.fixed c.user } else d) := by
  have period : k ≠ 0 := by simpa [fault?] using sound
  rw [apply, divides_eq_ok period, ok_bind]
  simp only [decide_eq_true_eq]
  rfl

theorem apply_forcedFailure {x : ForcedFailure} (sound : (forcedFailure x).fault? = none) :
    (forcedFailure x).apply f c d = .ok
      (if x.Selects c then { d with identity := x.sentinel } else d) := by
  have period : x.period ≠ 0 := by
    intro zero
    simp [fault?, zero] at sound
  rw [apply, divides_eq_ok period, ok_bind]
  simp only [decide_eq_true_eq]
  rfl

theorem apply_spoofedHeader {s : Spoof} (sound : (spoofedHeader s).fault? = none) :
    ∃ claimed, s.claim c d.identity = .ok claimed ∧
      (spoofedHeader s).apply f c d = .ok (
        let d := setAgent s.userAgent (d.setHeader s.header claimed)
        if s.stripBody then { d with bodyIdentity := false } else d) := by
  obtain ⟨claimed, made⟩ : ∃ claimed, s.claim c d.identity = .ok claimed := by
    cases mode : s.mode with
    | matching => exact ⟨d.identity, by rw [Spoof.claim, mode]⟩
    | independent =>
      have range : (0 : UInt64) < s.max := by
        rw [UInt64.lt_iff_toNat_lt]
        refine Nat.pos_of_ne_zero fun zero => ?_
        have : s.max = 0 := UInt64.toNat_inj.mp zero
        simp only [fault?, this, mode, and_self, if_true] at sound
        split at sound <;> cases sound
      obtain ⟨n, drawn, -, -⟩ := drawNumber_in_range c .spoof range
      exact ⟨s.lead ++ toString n, by rw [Spoof.claim, mode]; simp only [drawn]; rfl⟩
  exact ⟨claimed, made, by rw [apply, made]; rfl⟩

end Profile

namespace Pattern

variable {p q : Pattern} {c : Context} {d : Draft}

/-- A layer of the pattern forces this context to fail with a sentinel. -/
def Forces (p : Pattern) (c : Context) (sentinel : String) : Prop :=
  ∃ f, .forcedFailure f ∈ p.profiles ∧ f.Selects c ∧ f.sentinel = sentinel

/-- The pattern without its claims. -/
def unclaimed (p : Pattern) : Pattern :=
  { p with profiles := p.profiles.filter (·.precedence ≠ 2) }

/-- The draft that the layers of a pattern are to make, whatever their order. -/
structure Composed (p : Pattern) (c : Context) (d : Draft) : Prop where
  forced : ∀ sentinel, p.Forces c sentinel → d.identity = sentinel
  uniform : ∀ r, .uniformRandom r ∈ p.profiles → ∃ n, r.min.toNat ≤ n ∧ n < r.max.toNat ∧
    ((∀ sentinel, ¬ p.Forces c sentinel) → d.identity = r.lead ++ toString n) ∧
    (r.botAgent = true → (∀ s, .spoofedHeader s ∈ p.profiles → ¬ s.SetsAgent) →
      d.headers.find? "User-Agent" = some ("Bot-" ++ toString n))
  fixed : ∀ identity, .fixedIdentity identity ∈ p.profiles →
    (∀ sentinel, ¬ p.Forces c sentinel) → d.identity = identity
  duplicate : ∀ k, .duplicate k ∈ p.profiles → (∀ sentinel, ¬ p.Forces c sentinel) →
    d.identity = if k.toNat ∣ c.iteration.toNat then p.identity.fixed c.user
      else p.identity.unique c.user c.iteration
  unique : (∀ l ∈ p.profiles, l.kind.isIdentityBase = false) →
    (∀ sentinel, ¬ p.Forces c sentinel) → d.identity = p.identity.unique c.user c.iteration
  claimed : ∀ s, .spoofedHeader s ∈ p.profiles → s.mode = .matching →
    ∃ e, p.unclaimed.draft c = .ok e ∧ e.identity = d.identity ∧
      d.headers = (setAgent s.userAgent (e.setHeader s.header d.identity)).headers

/-- The layers of one precedence, applied to a draft. -/
def step (p : Pattern) (c : Context) (k : Nat) (d : Draft) : Except LayerFault Draft :=
  (p.profiles.filter (·.precedence = k)).foldlM (fun d l => l.apply p.identity c d) d

theorem draft_eq (p : Pattern) (c : Context) : p.draft c =
    p.step c 0 { identity := p.identity.unique c.user c.iteration } >>=
      p.step c 1 >>= p.step c 2 := by
  rw [draft, layers, List.foldlM_append, List.foldlM_append]
  rfl

theorem unclaimed_draft (p : Pattern) (c : Context) : p.unclaimed.draft c =
    p.step c 0 { identity := p.identity.unique c.user c.iteration } >>= p.step c 1 := by
  have kept : ∀ k, k ≠ 2 → p.unclaimed.step c k = p.step c k := by
    intro k hk
    have same : (p.profiles.filter (·.precedence ≠ 2)).filter (·.precedence = k) =
        p.profiles.filter (·.precedence = k) := by
      rw [List.filter_filter]
      refine List.filter_congr fun x _ => ?_
      by_cases at_k : x.precedence = k <;> simp [at_k, hk]
    funext d
    rw [step, step, unclaimed, same]
  have none : ∀ d, p.unclaimed.step c 2 d = .ok d := by
    intro d
    have empty : (p.profiles.filter (·.precedence ≠ 2)).filter (·.precedence = 2) = [] := by
      simp
    rw [step, unclaimed, empty]
    rfl
  rw [draft_eq, kept 0 (by omega), kept 1 (by omega), funext none]
  exact bind_pure _

theorem step_cases (wf : WellFormed p.profiles) (c : Context) {k : Nat} (h : k < 3) :
    ((∀ l ∈ p.profiles, l.precedence ≠ k) ∧ ∀ d, p.step c k d = .ok d) ∨
    ∃ l ∈ p.profiles, l.precedence = k ∧ (∀ x ∈ p.profiles, x.precedence = k → x = l) ∧
      ∀ d, p.step c k d = l.apply p.identity c d := by
  rcases slot_cases wf h with ⟨absent, slot⟩ | ⟨l, here, at_k, only, slot⟩
  · exact Or.inl ⟨absent, fun d => by rw [step, slot]; rfl⟩
  · refine Or.inr ⟨l, here, at_k, only, fun d => ?_⟩
    rw [step, slot, List.foldlM_cons]
    exact bind_pure _

/-- What is settled before failures are forced. -/
structure Chosen (p : Pattern) (c : Context) (d : Draft) : Prop where
  uniform : ∀ r, .uniformRandom r ∈ p.profiles → ∃ n, r.min.toNat ≤ n ∧ n < r.max.toNat ∧
    d.identity = r.lead ++ toString n ∧
    (r.botAgent = true → d.headers.find? "User-Agent" = some ("Bot-" ++ toString n))
  fixed : ∀ identity, .fixedIdentity identity ∈ p.profiles → d.identity = identity
  duplicate : ∀ k, .duplicate k ∈ p.profiles →
    d.identity = if k.toNat ∣ c.iteration.toNat then p.identity.fixed c.user
      else p.identity.unique c.user c.iteration
  unique : (∀ l ∈ p.profiles, l.kind.isIdentityBase = false) →
    d.identity = p.identity.unique c.user c.iteration

theorem exists_chosen (wf : WellFormed p.profiles) (c : Context) : ∃ d,
    p.step c 0 { identity := p.identity.unique c.user c.iteration } = .ok d ∧ p.Chosen c d := by
  rcases step_cases wf c (k := 0) (by omega) with ⟨absent, step⟩ | ⟨l, here, base, only, step⟩
  · exact ⟨_, step _,
      { uniform := fun r hr => absurd rfl (absent _ hr)
        fixed := fun i hi => absurd rfl (absent _ hi)
        duplicate := fun k hk => absurd rfl (absent _ hk)
        unique := fun _ => rfl }⟩
  · have sound := wf.sound l here
    rw [step]
    cases l with
    | uniformRandom r =>
      obtain ⟨n, low, high, applied⟩ := Profile.apply_uniformRandom sound
      refine ⟨_, applied, ?_⟩
      exact
        { uniform := fun r' hr => by
            cases only _ hr rfl
            refine ⟨n, low, high, ?_, fun bot => ?_⟩
            · dsimp only
              split <;> rfl
            · simp only [bot, if_true]
              exact Headers.find?_set_self [] (by decide)
          fixed := fun i hi => by cases only _ hi rfl
          duplicate := fun k hk => by cases only _ hk rfl
          unique := fun none => by cases none _ here }
    | fixedIdentity identity =>
      exact ⟨_, rfl,
        { uniform := fun r hr => by cases only _ hr rfl
          fixed := fun i hi => by cases only _ hi rfl; rfl
          duplicate := fun k hk => by cases only _ hk rfl
          unique := fun none => by cases none _ here }⟩
    | duplicate k =>
      refine ⟨_, Profile.apply_duplicate sound, ?_⟩
      exact
        { uniform := fun r hr => by cases only _ hr rfl
          fixed := fun i hi => by cases only _ hi rfl
          duplicate := fun k' hk => by
            cases only _ hk rfl
            split <;> rfl
          unique := fun none => by cases none _ here }
    | forcedFailure f => cases base
    | spoofedHeader s => cases base

/-- Forcing a failure changes the identity only, and only where it selects the context. -/
theorem exists_forced (wf : WellFormed p.profiles) (c : Context) (d : Draft) : ∃ e,
    p.step c 1 d = .ok e ∧ e.headers = d.headers ∧
      (∀ sentinel, p.Forces c sentinel → e.identity = sentinel) ∧
      ((∀ sentinel, ¬ p.Forces c sentinel) → e.identity = d.identity) := by
  rcases step_cases wf c (k := 1) (by omega) with ⟨absent, step⟩ | ⟨l, here, first, only, step⟩
  · refine ⟨d, step d, rfl, fun sentinel forces => ?_, fun _ => rfl⟩
    obtain ⟨f, hf, -⟩ := forces
    exact absurd rfl (absent _ hf)
  · have sound := wf.sound l here
    rw [step]
    cases l with
    | forcedFailure f =>
      refine ⟨_, Profile.apply_forcedFailure sound, by split <;> rfl, fun sentinel forces => ?_,
        fun unforced => ?_⟩
      · obtain ⟨f', hf, selects, rfl⟩ := forces
        cases only _ hf rfl
        rw [if_pos selects]
      · have : ¬ f.Selects c := fun selects => unforced f.sentinel ⟨f, here, selects, rfl⟩
        rw [if_neg this]
    | uniformRandom r => cases first
    | fixedIdentity i => cases first
    | duplicate k => cases first
    | spoofedHeader s => cases first

theorem strip_identity (strip : Bool) (d : Draft) :
    (if strip then { d with bodyIdentity := false } else d).identity = d.identity := by
  cases strip <;> rfl

theorem strip_headers (strip : Bool) (d : Draft) :
    (if strip then { d with bodyIdentity := false } else d).headers = d.headers := by
  cases strip <;> rfl

theorem setAgent_identity (agent : Option String) (d : Draft) :
    (setAgent agent d).identity = d.identity := by
  cases agent <;> rfl

/-- A claim keeps the identity, and the user agent unless it sets that itself. -/
theorem exists_claimed (wf : WellFormed p.profiles) (c : Context) (e : Draft) : ∃ d,
    p.step c 2 e = .ok d ∧ d.identity = e.identity ∧
      ((∀ s, .spoofedHeader s ∈ p.profiles → ¬ s.SetsAgent) →
        d.headers.find? "User-Agent" = e.headers.find? "User-Agent") ∧
      ∀ s, .spoofedHeader s ∈ p.profiles → s.mode = .matching →
        d.headers = (setAgent s.userAgent (e.setHeader s.header e.identity)).headers := by
  rcases step_cases wf c (k := 2) (by omega) with ⟨absent, step⟩ | ⟨l, here, last, only, step⟩
  · exact ⟨e, step e, rfl, fun _ => rfl, fun s hs => absurd rfl (absent _ hs)⟩
  · have sound := wf.sound l here
    rw [step]
    cases l with
    | spoofedHeader s =>
      obtain ⟨claimed, made, applied⟩ :=
        Profile.apply_spoofedHeader (f := p.identity) (c := c) (d := e) sound
      refine ⟨_, applied, ?_, fun keeps => ?_, fun s' hs matching => ?_⟩
      · rw [strip_identity, setAgent_identity]
        rfl
      · rw [strip_headers]
        obtain ⟨silent, apart⟩ := not_or.mp (keeps s here)
        rw [Option.not_isSome_iff_eq_none.mp silent]
        exact Headers.find?_set_other _ (Bool.eq_false_iff.mpr apart)
      · cases only _ hs rfl
        rw [Spoof.claim, matching] at made
        cases made
        rw [strip_headers]
    | uniformRandom r => cases last
    | fixedIdentity i => cases last
    | duplicate k => cases last
    | forcedFailure f => cases last

theorem exists_composed (wf : WellFormed p.profiles) (c : Context) :
    ∃ d, p.draft c = .ok d ∧ p.Composed c d := by
  obtain ⟨b, first, chosen⟩ := exists_chosen wf c
  obtain ⟨e, second, headers, forced, unforced⟩ := exists_forced wf c b
  obtain ⟨d, third, identity, agent, claimed⟩ := exists_claimed wf c e
  refine ⟨d, by rw [draft_eq, first, ok_bind, second, ok_bind, third], ?_⟩
  exact
    { forced := fun sentinel forces => identity.trans (forced sentinel forces)
      uniform := fun r hr => by
        obtain ⟨n, low, high, chosen, bot⟩ := chosen.uniform r hr
        refine ⟨n, low, high, fun none => identity.trans ((unforced none).trans chosen), ?_⟩
        intro shows keeps
        rw [agent keeps, headers, bot shows]
      fixed := fun i hi none => identity.trans ((unforced none).trans (chosen.fixed i hi))
      duplicate := fun k hk none => identity.trans ((unforced none).trans (chosen.duplicate k hk))
      unique := fun base none => identity.trans ((unforced none).trans (chosen.unique base))
      claimed := fun s hs matching => by
        refine ⟨e, by rw [unclaimed_draft, first, ok_bind, second], identity.symm, ?_⟩
        rw [identity]
        exact claimed s hs matching }

theorem build_of_draft (url : String) (drafted : p.draft c = .ok d) :
    p.build c url = .ok (Draft.request p url d) := by
  rw [build, drafted]
  rfl

/-- The type of the content stands in front of what the layers have set. -/
theorem request_header (p : Pattern) (url : String) (d : Draft) (name : String) :
    (Draft.request p url d).header name =
      if Text.sameName "Content-Type" name then some "application/json"
      else d.headers.find? name := by
  rw [Request.header, Draft.request, Headers.find?_cons]

/-- The layers of an accepted pattern compose to what they mean, whatever the order in which they
are declared. -/
theorem build_composed (p : Pattern) (ps : List Profile) (accepted : p.validate = .ok ())
    (reordered : p.profiles.Perm ps) (c : Context) (url : String) :
    { p with profiles := ps }.validate = .ok () ∧
    ∃ d, p.draft c = .ok d ∧ p.Composed c d ∧
      p.build c url = .ok (Draft.request p url d) ∧
      { p with profiles := ps }.build c url = .ok (Draft.request p url d) ∧
      ∀ name, Text.sameName "Content-Type" name = false →
        (Draft.request p url d).header name = d.headers.find? name := by
  have wf := (validate_eq_ok.mp accepted).2.2
  let q : Pattern := { p with profiles := ps }
  obtain ⟨d, drafted, composed⟩ := exists_composed wf c
  have same : q.draft c = .ok d := by
    have layers : p.layers = q.layers := layers_eq_of_perm wf reordered
    rw [← drafted, draft, draft, layers]
  refine ⟨validate_eq_ok_of_perm accepted rfl reordered, d, drafted, composed, ?_, ?_, ?_⟩
  · rw [build, drafted]
    rfl
  · have built : q.build c url = .ok (Draft.request q url d) := by
      rw [build, same]
      rfl
    exact built
  · intro name other
    rw [request_header, other, if_neg Bool.false_ne_true]

/-- Bots that show their number, every fiftieth of which is forced to fail, and all of which claim
to be who they are. -/
def honestBots : Pattern where
  profiles := [
    .spoofedHeader { mode := .matching },
    .forcedFailure {},
    .uniformRandom { lead := "bot_", min := 100, max := 200, botAgent := true }]

/-- Declared the other way round, they send the same. -/
theorem build_composed_of_honestBots : honestBots.validate = .ok () ∧
    { honestBots with profiles := honestBots.profiles.reverse }.validate = .ok () ∧
    ∃ d, honestBots.draft ⟨1, 7, 99⟩ = .ok d ∧ honestBots.Composed ⟨1, 7, 99⟩ d ∧
      { honestBots with profiles := honestBots.profiles.reverse }.build ⟨1, 7, 99⟩ "http://shop" =
        honestBots.build ⟨1, 7, 99⟩ "http://shop" := by
  have accepted : honestBots.validate = .ok () := rfl
  obtain ⟨again, d, drafted, composed, built, same, -⟩ :=
    build_composed honestBots honestBots.profiles.reverse accepted (List.reverse_perm _).symm
      ⟨1, 7, 99⟩ "http://shop"
  exact ⟨accepted, again, d, drafted, composed, same.trans built.symm⟩

end Pattern
end PrecheckLoad
