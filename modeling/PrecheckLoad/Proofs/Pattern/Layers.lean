import Mathlib.Data.List.Nodup
import PrecheckLoad.Pattern.Build
import PrecheckLoad.Proofs.Fallible

/-!
# Layers and the order in which they are declared

A pattern is accepted when each of its profiles is sound by itself, no kind occurs twice, and at
most one chooses the identity. None of this depends on the order of the profiles. So each step of
precedence has at most one layer, and the layers are the same for every order of declaration.
-/
namespace PrecheckLoad

/-- Profiles that may be layered, in any order. -/
structure WellFormed (ps : List Profile) : Prop where
  sound : ∀ p ∈ ps, p.fault? = none
  distinct : (ps.map Profile.kind).Nodup
  base : (ps.filter (·.kind.isIdentityBase)).length ≤ 1

theorem WellFormed.perm {ps qs : List Profile} (h : WellFormed ps) (p : ps.Perm qs) :
    WellFormed qs where
  sound := fun q hq => h.sound q (p.mem_iff.mpr hq)
  distinct := (p.map Profile.kind).nodup_iff.mp h.distinct
  base := (p.filter _).length_eq ▸ h.base

namespace Pattern

variable {p q : Pattern} {ps : List Profile} {seen : List ProfileKind}

/-- What has been seen counts towards what may not occur again. -/
theorem checkLayers_eq_ok {base : Option ProfileKind} : checkLayers seen base ps = .ok () ↔
    (∀ p ∈ ps, p.fault? = none) ∧ (ps.map Profile.kind).Nodup ∧ (∀ p ∈ ps, p.kind ∉ seen) ∧
      (ps.filter (·.kind.isIdentityBase)).length + base.toList.length ≤ 1 := by
  induction ps generalizing seen base with
  | nil => cases base <;> simp [checkLayers]
  | cons p ps ih =>
    cases fault : p.fault? with
    | some f => simp [checkLayers, fault]
    | none =>
      have apart : (∀ x ∈ ps, x.kind ∉ p.kind :: seen) ↔
          p.kind ∉ ps.map Profile.kind ∧ ∀ x ∈ ps, x.kind ∉ seen := by
        simp only [List.mem_cons, not_or, List.mem_map, not_exists, not_and]
        exact forall₂_and
      by_cases known : p.kind ∈ seen
      · simp [checkLayers, fault, known]
      · by_cases isBase : p.kind.isIdentityBase = true
        · cases base with
          | some b => simp [checkLayers, fault, known, isBase]
          | none =>
            have step : checkLayers seen none (p :: ps) =
                checkLayers (p.kind :: seen) (some p.kind) ps := by
              simp [checkLayers, fault, known, isBase]
            rw [step, ih, apart]
            simp [fault, known, isBase]
            grind
        · have step : checkLayers seen base (p :: ps) =
              checkLayers (p.kind :: seen) base ps := by
            simp [checkLayers, fault, known, isBase]
          rw [step, ih, apart]
          simp [fault, known, isBase]
          grind

theorem validate_eq_ok : p.validate = .ok () ↔
    p.body.userField ≠ "" ∧ p.body.productField ≠ "" ∧ WellFormed p.profiles := by
  rw [validate]
  split
  · next user => simp_all
  · next user =>
    split
    · next product => simp_all
    · next product =>
      rw [checkLayers_eq_ok]
      constructor
      · rintro ⟨sound, distinct, -, base⟩
        exact ⟨by simpa using user, by simpa using product, sound, distinct, by simpa using base⟩
      · rintro ⟨-, -, wf⟩
        exact ⟨wf.sound, wf.distinct, by simp, by simpa using wf.base⟩

/-- The order in which profiles are declared does not decide whether they are accepted. -/
theorem validate_eq_ok_of_perm (accepted : p.validate = .ok ()) (body : q.body = p.body)
    (perm : p.profiles.Perm q.profiles) : q.validate = .ok () := by
  obtain ⟨user, product, wf⟩ := validate_eq_ok.mp accepted
  exact validate_eq_ok.mpr ⟨body ▸ user, body ▸ product, wf.perm perm⟩

theorem precedence_lt (p : Profile) : p.precedence < 3 := by
  rw [Profile.precedence]
  cases p.kind <;> decide

theorem eq_filters_of_sorted (sorted : ps.Pairwise fun a b => a.precedence ≤ b.precedence) :
    ps = ps.filter (·.precedence = 0) ++ ps.filter (·.precedence = 1) ++
      ps.filter (·.precedence = 2) := by
  induction ps with
  | nil => rfl
  | cons p ps ih =>
    obtain ⟨least, rest⟩ := List.pairwise_cons.mp sorted
    have none : ∀ k < p.precedence, ps.filter (·.precedence = k) = [] := by
      intro k hk
      rw [List.filter_eq_nil_iff]
      intro x hx same
      have := least x hx
      have := of_decide_eq_true same
      omega
    have below := precedence_lt p
    have := ih rest
    obtain h | h | h : p.precedence = 0 ∨ p.precedence = 1 ∨ p.precedence = 2 := by omega
    · simpa [h] using this
    · simpa [h, none 0 (by omega)] using this
    · simpa [h, none 0 (by omega), none 1 (by omega)] using this

/-- The layers are the profiles sorted by precedence, and those of one precedence stay in order. -/
theorem layers_eq_mergeSort (p : Pattern) :
    p.layers = p.profiles.mergeSort fun a b => a.precedence ≤ b.precedence := by
  let le (a b : Profile) : Bool := a.precedence ≤ b.precedence
  have trans : ∀ a b c, le a b = true → le b c = true → le a c = true := by
    intro a b c hab hbc
    simp only [le, decide_eq_true_eq] at hab hbc ⊢
    omega
  have total : ∀ a b, (le a b || le b a) = true := by
    intro a b
    simp only [le, Bool.or_eq_true, decide_eq_true_eq]
    omega
  have sorted := (List.pairwise_mergeSort trans total p.profiles).imp of_decide_eq_true
  have stable : ∀ k, (p.profiles.mergeSort le).filter (·.precedence = k) =
      p.profiles.filter (·.precedence = k) := by
    intro k
    let atStep (x : Profile) : Bool := x.precedence = k
    have alike : (p.profiles.filter atStep).Pairwise fun a b => le a b = true := by
      refine List.pairwise_of_forall_mem_list fun a ha b hb => ?_
      have hak := of_decide_eq_true (List.mem_filter.mp ha).2
      have hbk := of_decide_eq_true (List.mem_filter.mp hb).2
      exact decide_eq_true (by omega)
    have kept := (List.sublist_mergeSort trans total alike List.filter_sublist).filter atStep
    simp only [List.filter_filter, Bool.and_self] at kept
    have size := ((List.mergeSort_perm p.profiles le).filter atStep).length_eq
    exact (kept.eq_of_length size.symm).symm
  have parts := eq_filters_of_sorted sorted
  rw [layers, ← stable 0, ← stable 1, ← stable 2]
  exact parts.symm

theorem mem_layers {l : Profile} : l ∈ p.layers ↔ l ∈ p.profiles := by
  rw [layers_eq_mergeSort]
  exact (List.mergeSort_perm _ _).mem_iff

theorem length_filter_kind_le (wf : WellFormed ps) (k : ProfileKind) :
    (ps.filter (·.kind = k)).length ≤ 1 := by
  have once := List.nodup_iff_count_le_one.mp wf.distinct k
  rw [List.count, List.countP_map, List.countP_eq_length_filter] at once
  exact once

theorem length_filter_precedence_le (wf : WellFormed ps) {k : Nat} (h : k < 3) :
    (ps.filter (·.precedence = k)).length ≤ 1 := by
  have alike : ∀ {f : Profile → Bool}, (∀ p : Profile, (p.precedence = k) = f p) →
      ps.filter (·.precedence = k) = ps.filter f := fun same =>
    List.filter_congr fun p _ => by simp [same p]
  obtain rfl | rfl | rfl : k = 0 ∨ k = 1 ∨ k = 2 := by omega
  · rw [alike (f := fun p => p.kind.isIdentityBase) fun p => by
      cases p <;> simp [Profile.precedence, Profile.kind, ProfileKind.precedence,
        ProfileKind.isIdentityBase]]
    exact wf.base
  · rw [alike (f := fun p => p.kind = .forcedFailure) fun p => by
      cases p <;> simp [Profile.precedence, Profile.kind, ProfileKind.precedence]]
    exact length_filter_kind_le wf .forcedFailure
  · rw [alike (f := fun p => p.kind = .spoofedHeader) fun p => by
      cases p <;> simp [Profile.precedence, Profile.kind, ProfileKind.precedence]]
    exact length_filter_kind_le wf .spoofedHeader

/-- A precedence has no layer, or one and no other. -/
theorem slot_cases (wf : WellFormed ps) {k : Nat} (h : k < 3) :
    ((∀ l ∈ ps, l.precedence ≠ k) ∧ ps.filter (·.precedence = k) = []) ∨
    ∃ l ∈ ps, l.precedence = k ∧ (∀ x ∈ ps, x.precedence = k → x = l) ∧
      ps.filter (·.precedence = k) = [l] := by
  have member : ∀ x, x ∈ ps.filter (·.precedence = k) ↔ x ∈ ps ∧ x.precedence = k := by simp
  rcases Nat.le_one_iff_eq_zero_or_eq_one.mp (length_filter_precedence_le wf h) with none | one
  · have slot := List.length_eq_zero_iff.mp none
    refine Or.inl ⟨fun l hl same => ?_, slot⟩
    have := (member l).mpr ⟨hl, same⟩
    rw [slot] at this
    cases this
  · obtain ⟨l, slot⟩ := List.length_eq_one_iff.mp one
    simp only [slot, List.mem_singleton] at member
    obtain ⟨here, at_k⟩ := (member l).mp rfl
    exact Or.inr ⟨l, here, at_k, fun x hx same => (member x).mpr ⟨hx, same⟩, slot⟩

theorem eq_of_perm_of_length_le_one {α : Type} {xs ys : List α} (p : xs.Perm ys)
    (short : xs.length ≤ 1) : xs = ys := by
  match xs, short with
  | [], _ => exact p.nil_eq
  | [x], _ => exact (List.perm_singleton.mp p.symm).symm

theorem layers_eq_of_perm (wf : WellFormed p.profiles) (perm : p.profiles.Perm q.profiles) :
    p.layers = q.layers := by
  have same : ∀ k < 3,
      p.profiles.filter (·.precedence = k) = q.profiles.filter (·.precedence = k) :=
    fun k hk => eq_of_perm_of_length_le_one (perm.filter _) (length_filter_precedence_le wf hk)
  rw [layers, layers, same 0 (by omega), same 1 (by omega), same 2 (by omega)]

end Pattern
end PrecheckLoad
