import PrecheckLoad.Proofs.Pattern.Acceptance
import PrecheckLoad.Proofs.Pattern.Drafts

/-!
# Layers that have a result

A layer has no result where it counts by a period of zero or draws from nothing. Its parameters
alone tell whether it does, so a layer fails in every context or in none, and a pattern builds
requests exactly if none of its layers fails. Validation asks for more than that.
-/
namespace PrecheckLoad

/-- What a layer cannot compute. A claim that repeats the identity draws nothing. -/
inductive Profile.Undefined : Profile → LayerFault → Prop
  | uniformRandom (r : IdentityRange) (empty : r.max ≤ r.min) :
    Undefined (.uniformRandom r) .emptyRange
  | duplicate : Undefined (.duplicate 0) .zeroPeriod
  | forcedFailure (f : ForcedFailure) (zero : f.period = 0) :
    Undefined (.forcedFailure f) .zeroPeriod
  | spoofedHeader (s : Spoof) (mode : s.mode = .independent) (empty : s.max = 0) :
    Undefined (.spoofedHeader s) .emptyRange

variable {l : Profile} {f : IdentityFormat} {c : Context} {d : Draft} {fault : LayerFault}

theorem divides_eq_error_iff {period n : UInt64} :
    divides period n = .error fault ↔ period = 0 ∧ fault = .zeroPeriod := by
  unfold divides
  split
  · next zero => simp [zero, eq_comm]
  · next counts => simp [counts]

theorem drawNumber_eq_error_iff {p : Random.Purpose} {lo hi : UInt64} :
    drawNumber c p lo hi = .error fault ↔ hi ≤ lo ∧ fault = .emptyRange := by
  unfold drawNumber Random.draw
  by_cases some_number : lo < hi
  · have filled : ¬ hi ≤ lo := UInt64.not_le.mpr some_number
    simp [some_number, filled]
  · simp [some_number, UInt64.not_lt.mp some_number, eq_comm]

theorem Spoof.claim_eq_error_iff {s : Spoof} {identity : String} :
    s.claim c identity = .error fault ↔
      s.mode = .independent ∧ s.max = 0 ∧ fault = .emptyRange := by
  unfold Spoof.claim
  cases mode : s.mode with
  | matching => simp
  | independent =>
    dsimp only
    rw [bind_pure_eq_error, drawNumber_eq_error_iff]
    simp

namespace Profile

/-- Whether a layer fails depends neither on the context nor on what earlier layers made. -/
theorem apply_eq_error_iff : l.apply f c d = .error fault ↔ l.Undefined fault := by
  cases l with
  | uniformRandom r =>
    rw [apply, bind_pure_eq_error, drawNumber_eq_error_iff]
    constructor
    · rintro ⟨empty, rfl⟩
      exact .uniformRandom r empty
    · rintro ⟨⟩
      exact ⟨‹_›, rfl⟩
  | fixedIdentity identity =>
    constructor
    · intro failed
      cases failed
    · intro undefined
      cases undefined
  | duplicate period =>
    rw [apply, bind_pure_eq_error, divides_eq_error_iff]
    constructor
    · rintro ⟨rfl, rfl⟩
      exact .duplicate
    · rintro ⟨⟩
      exact ⟨rfl, rfl⟩
  | forcedFailure x =>
    rw [apply, bind_pure_eq_error, divides_eq_error_iff]
    constructor
    · rintro ⟨zero, rfl⟩
      exact .forcedFailure x zero
    · rintro ⟨⟩
      exact ⟨‹_›, rfl⟩
  | spoofedHeader s =>
    rw [apply, bind_pure_eq_error, Spoof.claim_eq_error_iff]
    constructor
    · rintro ⟨mode, empty, rfl⟩
      exact .spoofedHeader s mode empty
    · rintro ⟨⟩
      exact ⟨‹_›, ‹_›, rfl⟩

theorem exists_apply (defined : ∀ fault, ¬ l.Undefined fault) (f : IdentityFormat) (c : Context)
    (d : Draft) : ∃ e, l.apply f c d = .ok e := by
  cases applied : l.apply f c d with
  | ok e => exact ⟨e, rfl⟩
  | error fault => exact absurd (apply_eq_error_iff.mp applied) (defined fault)

/-- Parameters that mean something can be computed with. -/
theorem Valid.not_undefined (valid : l.Valid) (fault : LayerFault) : ¬ l.Undefined fault := by
  intro undefined
  cases undefined with
  | uniformRandom r empty =>
    cases valid with
    | uniformRandom r some_number => exact UInt64.not_lt.mpr empty some_number
  | duplicate =>
    cases valid with
    | duplicate period counts => exact counts rfl
  | forcedFailure x zero =>
    cases valid with
    | forcedFailure x counts named => exact counts zero
  | spoofedHeader s mode empty =>
    cases valid with
    | spoofedHeader s named some_number => exact some_number mode empty

end Profile

namespace Pattern

variable {p : Pattern} {ls : List Profile}

/-- One layer without a result is enough, wherever it stands. -/
theorem exists_foldlM_iff (f : IdentityFormat) (c : Context) (d : Draft) :
    (∃ e, ls.foldlM (fun d l => l.apply f c d) d = .ok e) ↔
      ∀ l ∈ ls, ∀ fault, ¬ l.Undefined fault := by
  induction ls generalizing d with
  | nil => simp [pure_eq_ok]
  | cons l ls ih =>
    rw [List.foldlM_cons, List.forall_mem_cons]
    cases applied : l.apply f c d with
    | error fault =>
      have undefined := Profile.apply_eq_error_iff.mp applied
      constructor
      · rintro ⟨e, made⟩
        cases made
      · rintro ⟨defined, -⟩
        exact absurd undefined (defined fault)
    | ok e =>
      have defined : ∀ fault, ¬ l.Undefined fault := by
        intro fault undefined
        rw [Profile.apply_eq_error_iff.mpr undefined] at applied
        cases applied
      rw [ok_bind, ih e]
      exact ⟨fun later => ⟨defined, later⟩, And.right⟩

theorem exists_build_iff (p : Pattern) (c : Context) (url : String) :
    (∃ r, p.build c url = .ok r) ↔ ∀ l ∈ p.profiles, ∀ fault, ¬ l.Undefined fault := by
  have drafted : (∃ d, p.draft c = .ok d) ↔ ∀ l ∈ p.profiles, ∀ fault, ¬ l.Undefined fault := by
    rw [draft, exists_foldlM_iff]
    simp only [mem_layers]
  rw [← drafted]
  constructor
  · rintro ⟨r, built⟩
    obtain ⟨d, made, -⟩ := bind_eq_ok.mp built
    exact ⟨d, made⟩
  · rintro ⟨d, made⟩
    exact ⟨_, bind_eq_ok.mpr ⟨d, made, rfl⟩⟩

/-- A pattern builds requests, in every context, exactly if none of its layers has anything to
compute without a result, which is the same in all contexts. An accepted pattern has no such layer,
and a pattern that has one anywhere is refused. -/
theorem builds_iff_defined (p : Pattern) :
    (∀ c url, (∃ r, p.build c url = .ok r) ↔
      ∀ l ∈ p.profiles, ∀ fault, ¬ l.Undefined fault) ∧
    (∀ (l : Profile) f c d fault, l.apply f c d = .error fault ↔ l.Undefined fault) ∧
    (p.validate = .ok () →
      (∀ l ∈ p.profiles, ∀ f c d, ∃ e, l.apply f c d = .ok e) ∧
      ∀ c url, ∃ r, p.build c url = .ok r) ∧
    ∀ l ∈ p.profiles, ∀ fault, l.Undefined fault → ∃ f, p.validate = .error f := by
  have defined : p.validate = .ok () → ∀ l ∈ p.profiles, ∀ fault, ¬ l.Undefined fault := by
    intro accepted l there
    obtain ⟨-, -, wf⟩ := validate_eq_ok.mp accepted
    exact (Profile.fault?_eq_none_iff.mp (wf.sound l there)).not_undefined
  refine ⟨exists_build_iff p, fun l f c d fault => Profile.apply_eq_error_iff,
    fun accepted => ⟨fun l there => ?_, fun c url => ?_⟩, fun l there fault undefined => ?_⟩
  · exact Profile.exists_apply (defined accepted l there)
  · exact (exists_build_iff p c url).mpr (defined accepted)
  · cases checked : p.validate with
    | error f => exact ⟨f, rfl⟩
    | ok accepted => exact absurd undefined (defined checked l there fault)

/-- A claim that repeats the identity has nothing to draw from, and needs nothing. -/
def drawless : Pattern where
  profiles := [.spoofedHeader { max := 0, mode := .matching }, .forcedFailure {}]

/-- The same with a claim of its own would draw. -/
def drawing : Pattern where
  profiles := [.forcedFailure {}, .spoofedHeader { max := 0 }]

theorem builds_iff_defined_of_drawless : drawless.validate = .ok () ∧
    (∃ r, drawless.build ⟨0, 18446744073709551615, 7⟩ "http://shop" = .ok r) ∧
    ∃ f, drawing.validate = .error f := by
  have accepted : drawless.validate = .ok () := rfl
  obtain ⟨-, -, total, -⟩ := builds_iff_defined drawless
  obtain ⟨-, -, -, refuses⟩ := builds_iff_defined drawing
  have last : .spoofedHeader { max := 0 } ∈ drawing.profiles := by simp [drawing]
  exact ⟨accepted, (total accepted).2 _ _, refuses _ last _ (.spoofedHeader _ rfl rfl)⟩

end Pattern
end PrecheckLoad
