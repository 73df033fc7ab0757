import Mathlib.Algebra.Group.Units.Equiv
import Mathlib.Data.Fintype.EquivFin
import Mathlib.Data.UInt
import Mathlib.Logic.Function.Basic
import PrecheckLoad.Random

/-!
# Seeds of neighbouring streams

The seed of a stream is made of the run, the purpose, the user and the iteration by mixing three
times. Mixing only adds a word, multiplies by odd ones, and lays the upper bits of a word over its
lower ones. Each of these can be taken back, so no two words are mixed to one. Hence two streams
that differ in a single coordinate have different seeds, whatever the others are.
-/
namespace PrecheckLoad.Random

open Function

theorem xor_word_bijective (a : UInt64) : Bijective (fun x : UInt64 => x ^^^ a) := by
  have involutive : Involutive (fun x : UInt64 => x ^^^ a) := by
    intro x
    show x ^^^ a ^^^ a = x
    rw [UInt64.xor_assoc, UInt64.xor_self, UInt64.xor_zero]
  exact involutive.bijective

/-- A word with its upper bits laid over the lower ones. -/
def overlay (k x : UInt64) : UInt64 := x ^^^ (x >>> k)

/-- Takes the upper bits off again, and then those that they had hidden of themselves. -/
def uncover (k x : UInt64) : UInt64 := x ^^^ (x >>> k) ^^^ (x >>> k >>> k)

variable {k : UInt64}

theorem uncover_overlay (k x : UInt64) :
    uncover k (overlay k x) = x ^^^ (x >>> k >>> k >>> k) := by
  calc uncover k (overlay k x)
      = x ^^^ (x >>> k ^^^ x >>> k) ^^^ (x >>> k >>> k ^^^ x >>> k >>> k) ^^^
          (x >>> k >>> k >>> k) := by
        simp only [uncover, overlay, UInt64.shiftRight_xor]
        ac_rfl
    _ = x ^^^ (x >>> k >>> k >>> k) := by rw [UInt64.xor_self, UInt64.xor_self,
        UInt64.xor_zero, UInt64.xor_zero]

theorem overlay_uncover (k x : UInt64) : overlay k (uncover k x) = uncover k (overlay k x) := by
  simp only [uncover, overlay, UInt64.shiftRight_xor]
  ac_rfl

/-- Three shifts, each by a third of a word or more, leave nothing. -/
theorem shift_thrice (third : 22 ≤ k.toNat) (within : k.toNat < 64) (x : UInt64) :
    x >>> k >>> k >>> k = 0 := by
  have amount : k.toNat % 64 = k.toNat := Nat.mod_eq_of_lt within
  have whole : (x >>> k >>> k >>> k).toNat = x.toNat >>> (k.toNat + k.toNat + k.toNat) := by
    rw [UInt64.toNat_shiftRight, UInt64.toNat_shiftRight, UInt64.toNat_shiftRight, amount,
      Nat.shiftRight_add, Nat.shiftRight_add]
  have small : x.toNat < 2 ^ (k.toNat + k.toNat + k.toNat) :=
    Nat.lt_of_lt_of_le x.toNat_lt (Nat.pow_le_pow_right (by decide) (by omega))
  rw [← UInt64.toNat_inj, whole, Nat.shiftRight_eq_div_pow, Nat.div_eq_of_lt small]
  rfl

theorem overlay_bijective (third : 22 ≤ k.toNat) (within : k.toNat < 64) :
    Bijective (overlay k) := by
  have back : ∀ x, uncover k (overlay k x) = x := by
    intro x
    rw [uncover_overlay, shift_thrice third within, UInt64.xor_zero]
  refine bijective_iff_has_inverse.mpr ⟨uncover k, back, fun y => ?_⟩
  rw [overlay_uncover, back]

/-- An odd word has an inverse modulo `2^64`. -/
theorem mix_bijective : Bijective mix := by
  have first : Bijective fun x : UInt64 => overlay 30 (x + 0x9E3779B97F4A7C15) :=
    (overlay_bijective (by decide) (by decide)).comp (AddGroup.addRight_bijective _)
  have second : Bijective fun x : UInt64 => overlay 27 (x * 0xBF58476D1CE4E5B9) :=
    (overlay_bijective (by decide) (by decide)).comp
      (Units.mkOfMulEqOne _ 0x96DE1B173F119089 (by decide)).mulRight_bijective
  have third : Bijective fun x : UInt64 => overlay 31 (x * 0x94D049BB133111EB) :=
    (overlay_bijective (by decide) (by decide)).comp
      (Units.mkOfMulEqOne _ 0x319642B2D24D8EC3 (by decide)).mulRight_bijective
  exact third.comp (second.comp first)

/-- A seed is mixed with the user first and with the iteration last. -/
def mixIn (user iteration x : UInt64) : UInt64 :=
  mix (mix (mix x ^^^ user) ^^^ iteration)

theorem mixIn_bijective (user iteration : UInt64) : Bijective (mixIn user iteration) :=
  mix_bijective.comp ((xor_word_bijective iteration).comp
    (mix_bijective.comp ((xor_word_bijective user).comp mix_bijective)))

theorem streamSeed_eq (c : Context) (p : Purpose) :
    streamSeed c p = mixIn c.user c.iteration (c.seed ^^^ p.code) := rfl

theorem code_injective : Injective Purpose.code := by
  intro p q same
  cases p <;> cases q <;> simp_all [Purpose.code]

/-- Streams that differ in one coordinate and in no other. -/
inductive Neighbours (c : Context) (p : Purpose) : Context → Purpose → Prop
  | iteration (i : UInt64) (other : i ≠ c.iteration) : Neighbours c p { c with iteration := i } p
  | user (u : UInt64) (other : u ≠ c.user) : Neighbours c p { c with user := u } p
  | seed (s : UInt64) (other : s ≠ c.seed) : Neighbours c p { c with seed := s } p
  | purpose (q : Purpose) (other : q ≠ p) : Neighbours c p c q

/-- Mixing loses nothing of a word, and so streams that differ in one coordinate, whichever it is,
have different seeds. -/
theorem seeds_of_neighbours_differ : Bijective mix ∧
    ∀ c p c' p', Neighbours c p c' p' → streamSeed c p ≠ streamSeed c' p' := by
  refine ⟨mix_bijective, ?_⟩
  intro c p c' p' neighbours same
  cases neighbours with
  | iteration i other =>
    have mixed := mix_bijective.injective same
    exact other ((UInt64.xor_right_inj _).mp mixed).symm
  | user u other =>
    have mixed := (UInt64.xor_left_inj _).mp (mix_bijective.injective same)
    have mixed := mix_bijective.injective mixed
    exact other ((UInt64.xor_right_inj _).mp mixed).symm
  | seed s other =>
    rw [streamSeed_eq, streamSeed_eq] at same
    have mixed := (mixIn_bijective c.user c.iteration).injective same
    exact other ((UInt64.xor_left_inj _).mp mixed).symm
  | purpose q other =>
    rw [streamSeed_eq, streamSeed_eq] at same
    have mixed := (mixIn_bijective c.user c.iteration).injective same
    exact other (code_injective ((UInt64.xor_right_inj _).mp mixed)).symm

/-- Not the last iteration and the first, nor two purposes of one iteration. -/
theorem seeds_of_neighbours_differ_of_last :
    (0 : UInt64) ≠ 18446744073709551615 ∧
      streamSeed ⟨3, 18446744073709551615, 42⟩ .pacing ≠ streamSeed ⟨3, 0, 42⟩ .pacing ∧
      streamSeed ⟨3, 14, 42⟩ .identity ≠ streamSeed ⟨3, 14, 42⟩ .spoof := by
  have differ : (0 : UInt64) ≠ 18446744073709551615 := by decide
  exact ⟨differ, seeds_of_neighbours_differ.2 _ _ _ _ (.iteration 0 differ),
    seeds_of_neighbours_differ.2 _ _ _ _ (.purpose .spoof (by decide))⟩

end PrecheckLoad.Random
