import Mathlib.Data.List.Infix
import PrecheckLoad.Proofs.Pattern.Layers

/-!
# Which patterns are refused, and for what

A pattern is accepted if its fields are named and its profiles go together: each is valid by itself,
none has the kind of another, and at most one chooses the identity. The profiles are checked one
after the other. So a pattern is refused for the shortest beginning of its list that does not go
together, and the fault is that of the profile by which it ends.
-/
namespace PrecheckLoad

/-- Parameters that mean something. -/
inductive Profile.Valid : Profile → Prop
  | uniformRandom (r : IdentityRange) (some_number : r.min < r.max) : Valid (.uniformRandom r)
  | fixedIdentity (identity : String) (named : identity ≠ "") : Valid (.fixedIdentity identity)
  | duplicate (period : UInt64) (counts : period ≠ 0) : Valid (.duplicate period)
  | forcedFailure (f : ForcedFailure) (counts : f.period ≠ 0) (named : f.sentinel ≠ "") :
    Valid (.forcedFailure f)
  | spoofedHeader (s : Spoof) (named : s.header ≠ "")
    (some_number : s.mode = .independent → s.max ≠ 0) : Valid (.spoofedHeader s)

/-- What is wrong with parameters that mean nothing. Of two faults the one that is listed first. -/
inductive Profile.Spoiled : Profile → PatternFault → Prop
  | noNumber (r : IdentityRange) (none : r.max ≤ r.min) :
    Spoiled (.uniformRandom r) (.emptyRange .uniformRandom r.min r.max)
  | unnamedIdentity : Spoiled (.fixedIdentity "") (.emptyField "identity")
  | countless : Spoiled (.duplicate 0) (.zeroPeriod .duplicate)
  | countlessFailure (f : ForcedFailure) (zero : f.period = 0) :
    Spoiled (.forcedFailure f) (.zeroPeriod .forcedFailure)
  | unnamedSentinel (f : ForcedFailure) (counts : f.period ≠ 0) (unnamed : f.sentinel = "") :
    Spoiled (.forcedFailure f) (.emptyField "sentinel")
  | unnamedHeader (s : Spoof) (unnamed : s.header = "") :
    Spoiled (.spoofedHeader s) (.emptyField "header")
  | noClaim (s : Spoof) (named : s.header ≠ "") (mode : s.mode = .independent) (none : s.max = 0) :
    Spoiled (.spoofedHeader s) (.emptyRange .spoofedHeader 0 0)

/-- What a profile does wrong behind others that go together. Its own parameters come first, then
that its kind is there already, then that another chooses the identity. -/
inductive Profile.Offends (before : List Profile) (p : Profile) : PatternFault → Prop
  | spoiled (f : PatternFault) (wrong : p.Spoiled f) : Offends before p f
  | repeated (valid : p.Valid) (again : p.kind ∈ before.map Profile.kind) :
    Offends before p (.duplicateProfile p.kind)
  | conflicting (b : Profile) (valid : p.Valid) (new : p.kind ∉ before.map Profile.kind)
    (base : p.kind.isIdentityBase = true) (there : b ∈ before)
    (other : b.kind.isIdentityBase = true) : Offends before p (.conflictingIdentity b.kind p.kind)

variable {p l : Profile} {f f' : PatternFault} {before after ps : List Profile}

namespace Profile

theorem Valid.fault?_eq (valid : p.Valid) : p.fault? = none := by
  cases valid with
  | uniformRandom r some_number => simp [fault?, some_number]
  | fixedIdentity identity named => simp [fault?, named]
  | duplicate period counts => simp [fault?, counts]
  | forcedFailure x counts named => simp [fault?, counts, named]
  | spoofedHeader s named some_number =>
    have some_claim : ¬ (s.max = 0 ∧ s.mode = .independent) :=
      fun ⟨zero, mode⟩ => some_number mode zero
    simp [fault?, named, some_claim]

theorem Spoiled.fault?_eq (wrong : p.Spoiled f) : p.fault? = some f := by
  cases wrong with
  | noNumber r none => simp [fault?, none, kind]
  | unnamedIdentity => rfl
  | countless => rfl
  | countlessFailure x zero => simp [fault?, zero, kind]
  | unnamedSentinel x counts unnamed => simp [fault?, counts, unnamed]
  | unnamedHeader s unnamed => simp [fault?, unnamed]
  | noClaim s named mode none => simp [fault?, named, mode, none, kind]

/-- Parameters mean something, or there is a reason why not. -/
theorem valid_or_spoiled (p : Profile) : p.Valid ∨ ∃ f, p.Spoiled f := by
  cases p with
  | uniformRandom r =>
    by_cases some_number : r.min < r.max
    · exact .inl (.uniformRandom r some_number)
    · exact .inr ⟨_, .noNumber r (UInt64.not_lt.mp some_number)⟩
  | fixedIdentity identity =>
    by_cases unnamed : identity = ""
    · subst unnamed
      exact .inr ⟨_, .unnamedIdentity⟩
    · exact .inl (.fixedIdentity identity unnamed)
  | duplicate period =>
    by_cases zero : period = 0
    · subst zero
      exact .inr ⟨_, .countless⟩
    · exact .inl (.duplicate period zero)
  | forcedFailure x =>
    by_cases zero : x.period = 0
    · exact .inr ⟨_, .countlessFailure x zero⟩
    · by_cases unnamed : x.sentinel = ""
      · exact .inr ⟨_, .unnamedSentinel x zero unnamed⟩
      · exact .inl (.forcedFailure x zero unnamed)
  | spoofedHeader s =>
    by_cases unnamed : s.header = ""
    · exact .inr ⟨_, .unnamedHeader s unnamed⟩
    · by_cases none : s.mode = .independent ∧ s.max = 0
      · exact .inr ⟨_, .noClaim s unnamed none.1 none.2⟩
      · exact .inl (.spoofedHeader s unnamed fun mode zero => none ⟨mode, zero⟩)

theorem fault?_eq_none_iff : p.fault? = none ↔ p.Valid := by
  constructor
  · intro sound
    rcases p.valid_or_spoiled with valid | ⟨f, wrong⟩
    · exact valid
    · rw [wrong.fault?_eq] at sound
      cases sound
  · exact Valid.fault?_eq

end Profile

/-- Profiles of which each is valid, no two are of one kind and at most one chooses the identity. -/
structure Compatible (ps : List Profile) : Prop where
  valid : ∀ p ∈ ps, p.Valid
  distinct : (ps.map Profile.kind).Nodup
  base : (ps.filter (·.kind.isIdentityBase)).length ≤ 1

theorem wellFormed_iff_compatible : WellFormed ps ↔ Compatible ps := by
  constructor
  · rintro ⟨sound, distinct, base⟩
    exact ⟨fun p mem => Profile.fault?_eq_none_iff.mp (sound p mem), distinct, base⟩
  · rintro ⟨valid, distinct, base⟩
    exact ⟨fun p mem => (valid p mem).fault?_eq, distinct, base⟩

theorem compatible_nil : Compatible [] where
  valid := fun _ mem => absurd mem List.not_mem_nil
  distinct := List.nodup_nil
  base := Nat.zero_le 1

namespace Compatible

theorem of_sublist {qs : List Profile} (good : Compatible ps) (part : qs.Sublist ps) :
    Compatible qs where
  valid := fun q mem => good.valid q (part.subset mem)
  distinct := good.distinct.sublist (part.map Profile.kind)
  base := (part.filter _).length_le.trans good.base

/-- Another profile may follow unless it offends. -/
theorem append_singleton (good : Compatible before) (valid : l.Valid)
    (new : l.kind ∉ before.map Profile.kind)
    (alone : l.kind.isIdentityBase = true → ∀ b ∈ before, b.kind.isIdentityBase = false) :
    Compatible (before ++ [l]) where
  valid := by
    intro p mem
    rcases List.mem_append.mp mem with there | last
    · exact good.valid p there
    · rw [List.mem_singleton.mp last]
      exact valid
  distinct := by
    rw [List.map_append, List.map_singleton, ← List.concat_eq_append, List.nodup_concat]
    exact ⟨new, good.distinct⟩
  base := by
    rw [List.filter_append, List.length_append]
    by_cases base : l.kind.isIdentityBase = true
    · have none : before.filter (·.kind.isIdentityBase) = [] := by
        rw [List.filter_eq_nil_iff]
        intro b there
        rw [alone base b there]
        exact Bool.false_ne_true
      rw [none, List.length_nil, Nat.zero_add]
      exact List.length_filter_le _ [l]
    · have none : [l].filter (·.kind.isIdentityBase) = [] := List.filter_cons_of_neg base
      rw [none]
      exact good.base

end Compatible

theorem exists_offends (good : Compatible before) (bad : ¬ Compatible (before ++ [l])) :
    ∃ f, l.Offends before f := by
  rcases l.valid_or_spoiled with valid | ⟨f, wrong⟩
  · by_cases again : l.kind ∈ before.map Profile.kind
    · exact ⟨_, .repeated valid again⟩
    · by_cases other : l.kind.isIdentityBase = true ∧ ∃ b ∈ before, b.kind.isIdentityBase = true
      · obtain ⟨base, b, there, chooses⟩ := other
        exact ⟨_, .conflicting b valid again base there chooses⟩
      · refine absurd (good.append_singleton valid again fun base b there => ?_) bad
        by_contra chooses
        exact other ⟨base, b, there, Bool.not_eq_false _ ▸ chooses⟩
  · exact ⟨f, .spoiled f wrong⟩

/-- A list that does not go together has a shortest beginning that does not. -/
theorem exists_first_offence (bad : ¬ Compatible ps) : ∃ before l after f,
    ps = before ++ l :: after ∧ Compatible before ∧ l.Offends before f := by
  induction ps using List.reverseRecOn with
  | nil => exact absurd compatible_nil bad
  | append_singleton ps x ih =>
    by_cases good : Compatible ps
    · obtain ⟨f, offends⟩ := exists_offends good bad
      exact ⟨ps, x, [], f, rfl, good, offends⟩
    · obtain ⟨before, l, after, f, rfl, good, offends⟩ := ih good
      refine ⟨before, l, after ++ [x], f, ?_, good, offends⟩
      rw [List.append_assoc, List.cons_append]

namespace Pattern

variable {seen : List ProfileKind} {base : Option ProfileKind}

/-- The kind that chooses the identity, if any does. -/
def baseOf (ps : List Profile) : Option ProfileKind :=
  (ps.map Profile.kind).find? ProfileKind.isIdentityBase

theorem baseOf_eq_some (good : Compatible before) {b : Profile} (there : b ∈ before)
    (chooses : b.kind.isIdentityBase = true) : baseOf before = some b.kind := by
  have found : b ∈ before.filter (·.kind.isIdentityBase) := List.mem_filter.mpr ⟨there, chooses⟩
  obtain ⟨x, only⟩ := List.length_eq_one_iff.mp
    (Nat.le_antisymm good.base (List.length_pos_of_mem found))
  rw [only, List.mem_singleton] at found
  rw [baseOf, List.find?_map]
  have first : (before.filter (·.kind.isIdentityBase)).head? =
      before.find? (ProfileKind.isIdentityBase ∘ Profile.kind) := List.head?_filter
  rw [← first, only, found]
  rfl

theorem baseOf_cons (p : Profile) (ps : List Profile) :
    baseOf (p :: ps) = (baseOf [p]).or (baseOf ps) := by
  unfold baseOf
  rw [List.map_cons, List.find?_cons, List.map_singleton, List.find?_cons]
  cases p.kind.isIdentityBase with
  | true => rfl
  | false => rfl

/-- Of a profile that is passed its kind is remembered, and whether it chooses identities. -/
theorem checkLayers_step {rest : List Profile} (passed : checkLayers seen base (p :: rest) = .ok ())
    (ps : List Profile) :
    checkLayers seen base (p :: ps) = checkLayers (p.kind :: seen) (base.or (baseOf [p])) ps := by
  unfold checkLayers at passed
  split at passed
  · cases passed
  · next sound =>
    split at passed
    · cases passed
    · next new =>
      split at passed
      · next chooses =>
        cases base with
        | some b => cases passed
        | none =>
          have last : baseOf [p] = some p.kind := by simp [baseOf, chooses]
          rw [checkLayers, sound, if_neg new, if_pos chooses, last, Option.none_or]
      · next other =>
        have none : baseOf [p] = none := by simp [baseOf, other]
        conv_lhs => unfold checkLayers
        rw [sound, if_neg new, if_neg other, none, Option.or_none]

/-- Of what is accepted the kinds are remembered, and the one among them that chooses identities. -/
theorem checkLayers_append (accepted : checkLayers seen base before = .ok ())
    (rest : List Profile) : checkLayers seen base (before ++ rest) =
      checkLayers ((before.map Profile.kind).reverse ++ seen) (base.or (baseOf before)) rest := by
  induction before generalizing seen base with
  | nil =>
    rw [baseOf]
    simp
  | cons p before ih =>
    have step := checkLayers_step accepted
    rw [List.cons_append, step, ih (step before ▸ accepted), baseOf_cons p before,
      Option.or_assoc, List.map_cons, List.reverse_cons, List.append_assoc, List.singleton_append]

theorem checkLayers_of_compatible (good : Compatible ps) : checkLayers [] none ps = .ok () := by
  have wf := wellFormed_iff_compatible.mpr good
  exact checkLayers_eq_ok.mpr ⟨wf.sound, wf.distinct, by simp, by simpa using wf.base⟩

theorem checkLayers_of_offends (good : Compatible before) (offends : l.Offends before f)
    (after : List Profile) : checkLayers [] none (before ++ l :: after) = .error f := by
  rw [checkLayers_append (checkLayers_of_compatible good), List.append_nil, Option.none_or]
  cases offends with
  | spoiled f wrong => simp [checkLayers, wrong.fault?_eq]
  | repeated valid again =>
    have known : l.kind ∈ (before.map Profile.kind).reverse := List.mem_reverse.mpr again
    simp [checkLayers, valid.fault?_eq, known]
  | conflicting b valid new chooses there other =>
    have unknown : l.kind ∉ (before.map Profile.kind).reverse := by rwa [List.mem_reverse]
    simp [checkLayers, valid.fault?_eq, unknown, chooses, baseOf_eq_some good there other]

/-- A profile that offends those before it does not go together with them. -/
theorem not_compatible_of_offends (good : Compatible before) (offends : l.Offends before f) :
    ¬ Compatible (before ++ [l]) := by
  intro together
  have accepted := checkLayers_of_compatible together
  rw [checkLayers_of_offends good offends []] at accepted
  cases accepted

/-- The beginnings that go together are those that end before the profile that offends. -/
theorem compatible_iff_of_isPrefix (good : Compatible before) (offends : l.Offends before f)
    (part : ps <+: before ++ l :: after) : Compatible ps ↔ ps.length ≤ before.length := by
  have first : before ++ [l] <+: before ++ l :: after := ⟨after, by simp⟩
  constructor
  · intro together
    by_contra long
    have within : before ++ [l] <+: ps := by
      refine List.prefix_of_prefix_length_le first part ?_
      rw [List.length_append, List.length_singleton]
      exact Nat.lt_of_not_le long
    exact not_compatible_of_offends good offends (together.of_sublist within.sublist)
  · intro short
    have within : ps <+: before :=
      List.prefix_of_prefix_length_le part (List.prefix_append _ _) short
    exact good.of_sublist within.sublist

theorem validate_of_named {p : Pattern} (user : p.body.userField ≠ "")
    (product : p.body.productField ≠ "") : p.validate = checkLayers [] none p.profiles := by
  rw [validate, if_neg (by simpa using user), if_neg (by simpa using product)]

/-- A pattern is accepted exactly if its fields are named and its profiles go together, in whatever
order, and then no two of them are of one precedence. With named fields it is refused for the
shortest beginning of its profiles that does not go together, with the fault of the profile by which
that ends. -/
theorem accepts_iff_compatible (p : Pattern) :
    (p.validate = .ok () ↔
      p.body.userField ≠ "" ∧ p.body.productField ≠ "" ∧ Compatible p.profiles) ∧
    (∀ ps, p.profiles.Perm ps →
      ({ p with profiles := ps }.validate = .ok () ↔ p.validate = .ok ())) ∧
    (p.validate = .ok () → ∀ k, (p.profiles.filter (·.precedence = k)).length ≤ 1) ∧
    (p.body.userField ≠ "" → p.body.productField ≠ "" → ∀ f, p.validate = .error f ↔
      ∃ before l after, p.profiles = before ++ l :: after ∧
        (∀ ps, ps <+: p.profiles → (Compatible ps ↔ ps.length ≤ before.length)) ∧
        l.Offends before f ∧ { p with profiles := before ++ [l] }.validate = .error f) := by
  refine ⟨?_, fun ps reordered => ⟨fun accepted => ?_, fun accepted => ?_⟩, fun accepted k => ?_,
    fun user product f => ⟨fun refused => ?_, ?_⟩⟩
  · rw [validate_eq_ok, wellFormed_iff_compatible]
  · exact validate_eq_ok_of_perm accepted rfl reordered.symm
  · exact validate_eq_ok_of_perm accepted rfl reordered
  · have wf := (validate_eq_ok.mp accepted).2.2
    by_cases some_layer : k < 3
    · exact length_filter_precedence_le wf some_layer
    · have none : p.profiles.filter (·.precedence = k) = [] := by
        rw [List.filter_eq_nil_iff]
        intro l _ same
        have below := precedence_lt l
        rw [of_decide_eq_true same] at below
        exact some_layer below
      rw [none]
      exact Nat.zero_le 1
  · rw [validate_of_named user product] at refused
    have bad : ¬ Compatible p.profiles := by
      intro together
      rw [checkLayers_of_compatible together] at refused
      cases refused
    obtain ⟨before, l, after, f', whole, good, offends⟩ := exists_first_offence bad
    rw [whole, checkLayers_of_offends good offends after] at refused
    cases refused
    refine ⟨before, l, after, whole, fun ps part => ?_, offends, ?_⟩
    · exact compatible_iff_of_isPrefix good offends (whole ▸ part)
    · refine Eq.trans (validate_of_named user product) ?_
      exact checkLayers_of_offends good offends []
  · rintro ⟨before, l, after, whole, shortest, offends, -⟩
    have part : before <+: p.profiles := whole ▸ List.prefix_append before (l :: after)
    have good := (shortest before part).mpr (Nat.le_refl _)
    rw [validate_of_named user product, whole]
    exact checkLayers_of_offends good offends after

/-- The second profile that chooses the identity is refused, and not the one without a period that
follows it. -/
def crowded : Pattern where
  profiles := [.duplicate 7, .forcedFailure {}, .fixedIdentity "attacker_1", .duplicate 0]

/-- The first two of them are accepted in either order. -/
def uncrowded : Pattern where
  profiles := [.duplicate 7, .forcedFailure {}]

theorem accepts_iff_compatible_of_crowded :
    (crowded.validate = .error (.conflictingIdentity .duplicate .fixedIdentity) ∧
      ∃ before l after, crowded.profiles = before ++ l :: after ∧
        l.Offends before (.conflictingIdentity .duplicate .fixedIdentity)) ∧
    uncrowded.validate = .ok () ∧
      { uncrowded with profiles := uncrowded.profiles.reverse }.validate = .ok () ∧
      (uncrowded.profiles.filter (·.precedence = 0)).length ≤ 1 := by
  have refused : crowded.validate = .error (.conflictingIdentity .duplicate .fixedIdentity) := rfl
  have accepted : uncrowded.validate = .ok () := rfl
  obtain ⟨before, l, after, whole, -, offends, -⟩ :=
    ((accepts_iff_compatible crowded).2.2.2 (by decide) (by decide) _).mp refused
  obtain ⟨-, anyhow, alone, -⟩ := accepts_iff_compatible uncrowded
  exact ⟨⟨refused, before, l, after, whole, offends⟩, accepted,
    (anyhow _ (List.reverse_perm _).symm).mpr accepted, alone accepted 0⟩

end Pattern
end PrecheckLoad
