import Mathlib
import PrecheckLoad.Proofs.Pattern.Acceptance
import PrecheckLoad.Proofs.Pattern.Identities

/-!
# Repeated purchases

With duplicates as the only layer, a user takes his fixed identity in every iteration that the
period divides, and a fresh one in all others. A fixed identity ends in a letter and a fresh one in
a digit, so neither is ever taken for the other, whatever stands in front. So many periods have so
many repeats, wherever they begin.
-/
namespace PrecheckLoad

open Text Decimal

namespace IdentityFormat

variable {v v' i : UInt64}

theorem fixed_injective (f : IdentityFormat) : Function.Injective f.fixed := by
  intro v v' same
  unfold fixed at same
  rw [String.append_left_inj, String.append_left_inj, String.append_right_inj] at same
  exact UInt64.toNat_inj.mp (Nat.repr_inj.mp same)

theorem getLast?_toList_fixed (f : IdentityFormat) : (f.fixed v).toList.getLast? = some 'd' := by
  rw [fixed, String.toList_append, List.getLast?_append]
  rfl

theorem getLast?_toList_unique (f : IdentityFormat) :
    (f.unique v i).toList.getLast? = (digitChars i.toNat).getLast? := by
  have digits : (toString i.toNat).toList = digitChars i.toNat := Nat.toList_repr
  rw [unique, String.toList_append, digits,
    List.getLast?_append_of_ne_nil _ (digitChars_ne_nil _)]

theorem fixed_ne_unique (f : IdentityFormat) : f.fixed v ≠ f.unique v' i := by
  intro same
  have last : 'd' ∈ digitChars i.toNat := by
    refine List.mem_of_getLast? ?_
    rw [← f.getLast?_toList_unique, ← same, f.getLast?_toList_fixed]
  have digit := isDigit_of_mem_digitChars last
  revert digit
  decide

/-- The fixed identity in every iteration that a period divides, and a fresh one in all others. -/
def repeating (f : IdentityFormat) (k user iteration : UInt64) : String :=
  if k.toNat ∣ iteration.toNat then f.fixed user else f.unique user iteration

theorem repeating_eq_fixed_iff (f : IdentityFormat) {k user : UInt64} :
    f.repeating k user i = f.fixed v ↔ k.toNat ∣ i.toNat ∧ v = user := by
  rw [repeating]
  split
  · next divides => rw [f.fixed_injective.eq_iff, eq_comm, and_iff_right divides]
  · next other => simp [other, f.fixed_ne_unique.symm]

end IdentityFormat

/-- As many multiples as periods, wherever the first period begins. -/
theorem card_multiples {k : Nat} (pos : 0 < k) (a n : Nat) :
    ((Finset.Ico a (a + n * k)).filter (k ∣ ·)).card = n := by
  have periodic : Function.Periodic (k ∣ ·) (n * k) := by
    intro i
    exact propext (Nat.dvd_add_left (Nat.dvd_mul_left k n))
  have first : Nat.count (k ∣ ·) (n * k) = n := by
    simp only [← Nat.modEq_zero_iff_dvd]
    rw [Nat.count_modEq_card _ pos, Nat.mul_div_cancel _ pos, Nat.zero_mod, Nat.mul_mod_left,
      if_neg (Nat.lt_irrefl 0), Nat.add_zero]
  rw [Nat.filter_Ico_card_eq_of_periodic _ _ _ periodic, first]

namespace Pattern

variable {p : Pattern} {k : UInt64}

/-- The identity that a context is drafted with. -/
def identity? (p : Pattern) (c : Context) : Option String :=
  (p.draft c).toOption.map (·.identity)

/-- The iterations from `a` up to but not including `b` in which a user has an identity. -/
def iterationsAs (p : Pattern) (identity : String) (user seed : UInt64) (a b : Nat) : Finset Nat :=
  (Finset.Ico a b).filter fun i => p.identity? ⟨user, UInt64.ofNat i, seed⟩ = some identity

theorem draft_of_duplicate (only : p.profiles = [.duplicate k]) (counts : 0 < k) (c : Context) :
    p.draft c = .ok { identity := p.identity.repeating k c.user c.iteration } := by
  have layers : p.layers = [.duplicate k] := by
    rw [layers, only]
    rfl
  have sound : (Profile.duplicate k).fault? = none :=
    (Profile.Valid.duplicate k (UInt64.pos_iff_ne_zero.mp counts)).fault?_eq
  rw [draft, layers, List.foldlM_cons, Profile.apply_duplicate sound, ok_bind, List.foldlM_nil,
    IdentityFormat.repeating]
  split
  · rfl
  · rfl

theorem identity?_of_duplicate (only : p.profiles = [.duplicate k]) (counts : 0 < k) (c : Context) :
    p.identity? c = some (p.identity.repeating k c.user c.iteration) := by
  rw [identity?, draft_of_duplicate only counts]
  rfl

/-- With duplicates as the only layer, an identity is fixed exactly in the iterations that the
period divides, and then it is the one of the user himself, which no other user has. So it is also
named in the body where the buyer has a name of his own. Any window of whole periods has as many of
a user's repeats as it has periods. -/
theorem repeats_iff_divides (p : Pattern) (only : p.profiles = [.duplicate k]) (counts : 0 < k) :
    (∀ c url, ∃ d r, p.draft c = .ok d ∧ p.build c url = .ok r ∧
      (∀ v, d.identity = p.identity.fixed v ↔ k.toNat ∣ c.iteration.toNat ∧ v = c.user) ∧
      (p.body.userField ≠ p.body.productField →
        ∃ v, r.json? = some v ∧ v.field? p.body.userField = some (.string d.identity))) ∧
    (∀ v v', v ≠ v' → p.identity.fixed v ≠ p.identity.fixed v') ∧
    ∀ user seed a n, a + n * k.toNat ≤ 2 ^ 64 →
      (p.iterationsAs (p.identity.fixed user) user seed a (a + n * k.toNat)).card = n := by
  refine ⟨fun c url => ?_, fun v v' => p.identity.fixed_injective.ne, ?_⟩
  · have drafted := draft_of_duplicate only counts c
    have kept : ∀ l ∈ p.profiles, l.strips = false := by
      rw [only]
      exact List.forall_mem_singleton.mpr rfl
    refine ⟨_, _, drafted, build_of_draft url drafted, ?_, fun apart => ?_⟩
    · exact fun v => p.identity.repeating_eq_fixed_iff
    · obtain ⟨v, read, -, buyer⟩ := exists_named drafted kept url
      exact ⟨v, read, buyer.mpr (.inl apart)⟩
  · intro user seed a n room
    have pos : 0 < k.toNat := UInt64.lt_iff_toNat_lt.mp counts
    have multiples : p.iterationsAs (p.identity.fixed user) user seed a (a + n * k.toNat) =
        (Finset.Ico a (a + n * k.toNat)).filter (k.toNat ∣ ·) := by
      refine Finset.filter_congr fun i mem => ?_
      have word : (UInt64.ofNat i).toNat = i :=
        UInt64.toNat_ofNat_of_lt' (Nat.lt_of_lt_of_le (Finset.mem_Ico.mp mem).2 room)
      rw [identity?_of_duplicate only counts, Option.some.injEq,
        p.identity.repeating_eq_fixed_iff, word, and_iff_left rfl]
    rw [multiples, card_multiples pos]

/-- Every seventh purchase is a repeat. Identities begin with the word that the fixed ones end with,
and nothing separates the number of the user from what comes after it. -/
def weekly : Pattern where
  profiles := [.duplicate 7]
  identity := { lead := "fixed", separator := "" }

/-- The last window of two periods that iterations have. -/
theorem repeats_iff_divides_of_weekly :
    (∃ d, weekly.draft ⟨11, 14, 3⟩ = .ok d ∧ d.identity = weekly.identity.fixed 11) ∧
    (weekly.iterationsAs (weekly.identity.fixed 11) 11 3 18446744073709551602
      18446744073709551616).card = 2 := by
  obtain ⟨drafts, -, windows⟩ := repeats_iff_divides weekly (k := 7) rfl (by decide)
  obtain ⟨d, -, drafted, -, fixed, -⟩ := drafts ⟨11, 14, 3⟩ "http://shop"
  refine ⟨⟨d, drafted, (fixed 11).mpr ⟨by decide, rfl⟩⟩, ?_⟩
  exact windows 11 3 18446744073709551602 2 (by decide)

end Pattern
end PrecheckLoad
