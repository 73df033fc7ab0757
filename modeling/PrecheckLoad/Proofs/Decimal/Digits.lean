import Mathlib.Algebra.GroupWithZero.Nat
import Mathlib.Data.List.Induction
import Mathlib.Data.List.TakeWhile
import PrecheckLoad.Decimal
import PrecheckLoad.Proofs.Text.Parts

/-!
# Numerals

The digits that a number is written with are read back as that number, and digits without a zero in
front are how some number is written. Readers that stop at a limit read a numeral through if its
number is below the limit, since what is read of it never gets less.
-/
namespace PrecheckLoad.Text

open Decimal

variable {c : Char} {n k : Nat} {ds rest : List Char}

theorem isDigit_eq (c : Char) : isDigit c = c.isDigit := rfl

theorem isDigit_of_mem_digitChars (h : c ∈ digitChars n) : isDigit c = true := by
  rw [isDigit_eq]
  exact Nat.isDigit_of_mem_toDigits (by decide) (by decide) h

theorem digitChars_ne_nil (n : Nat) : digitChars n ≠ [] := by
  rw [digitChars]
  exact Nat.toDigits_ne_nil

/-- The number that digits make behind those read before. -/
def readOn (k : Nat) (ds : List Char) : Nat := ds.foldl (fun n c => n * 10 + digitValue c) k

theorem readOn_cons (k : Nat) (c : Char) (ds : List Char) :
    readOn k (c :: ds) = readOn (k * 10 + digitValue c) ds := by
  rw [readOn, List.foldl_cons, readOn]

theorem le_readOn (k : Nat) (ds : List Char) : k ≤ readOn k ds := by
  induction ds generalizing k with
  | nil => exact Nat.le_refl k
  | cons c ds ih =>
    have step : k ≤ k * 10 + digitValue c := by omega
    rw [readOn_cons]
    exact Nat.le_trans step (ih _)

theorem readOn_append (k : Nat) (ds ds' : List Char) :
    readOn k (ds ++ ds') = readOn (readOn k ds) ds' := by
  rw [readOn, List.foldl_append, readOn, readOn]

theorem readOn_mono {k' : Nat} (le : k ≤ k') (ds : List Char) : readOn k ds ≤ readOn k' ds := by
  induction ds generalizing k k' with
  | nil => exact le
  | cons c ds ih =>
    rw [readOn_cons, readOn_cons]
    exact ih (by omega)

theorem ten_mul_le_readOn (k : Nat) (some_digit : ds ≠ []) : 10 * k ≤ readOn k ds := by
  cases ds with
  | nil => exact absurd rfl some_digit
  | cons c ds =>
    have step : 10 * k ≤ k * 10 + digitValue c := by omega
    rw [readOn_cons]
    exact Nat.le_trans step (le_readOn _ _)

theorem natOfDigits_digitChars (n : Nat) : natOfDigits (digitChars n) = n := by
  have digits : Nat.ofDigitChars 10 (digitChars n) 0 = n := Nat.ofDigitChars_ten_toDigits
  have step : (fun (k : Nat) (c : Char) => k * 10 + digitValue c) =
      fun k c => 10 * k + (c.toNat - '0'.toNat) := by
    funext k c
    rw [Nat.mul_comm]
    rfl
  rw [natOfDigits, step]
  exact digits

theorem readOn_digitChars (n : Nat) : readOn 0 (digitChars n) = n := natOfDigits_digitChars n

/-- Only zero is written with a zero in front. -/
theorem digitChars_ne_zero_cons (pos : 0 < n) : digitChars n ≠ '0' :: ds := by
  induction n using Nat.strong_induction_on generalizing ds with
  | _ n ih =>
    rw [digitChars, Nat.toDigits_eq_if (by decide)]
    split
    · next small =>
      intro same
      have digit : n.digitChar = '0' := (List.cons.inj same).1
      rw [Nat.digitChar_eq_zero] at digit
      omega
    · intro same
      cases front : Nat.toDigits 10 (n / 10) with
      | nil => exact Nat.toDigits_ne_nil front
      | cons c more =>
        rw [front, List.cons_append] at same
        obtain ⟨rfl, -⟩ := List.cons.inj same
        exact ih (n / 10) (by omega) (by omega) front

theorem digitChars_zero : digitChars 0 = ['0'] := rfl

/-- A part in front of a numeral does not begin with a zero. -/
theorem leads_of_digitChars_eq (written : digitChars n = ds ++ rest) (more : rest ≠ []) :
    ∀ others, ds ≠ '0' :: others := by
  rintro others rfl
  rcases Nat.eq_zero_or_pos n with rfl | pos
  · rw [digitChars_zero, List.cons_append, List.cons.injEq] at written
    exact more (List.append_eq_nil_iff.mp written.2.symm).2
  · exact digitChars_ne_zero_cons pos written

theorem digitValue_lt (digit : isDigit c = true) : digitValue c < 10 := by
  obtain ⟨low, high⟩ := toNat_of_isDigit digit
  rw [digitValue]
  omega

theorem digitChars_digitValue (digit : isDigit c = true) : digitChars (digitValue c) = [c] := by
  obtain ⟨low, high⟩ := toNat_of_isDigit digit
  have same : (digitValue c).digitChar = c := by
    refine Char.toNat_inj.mp ?_
    rw [Nat.toNat_digitChar_of_lt_ten (digitValue_lt digit), digitValue]
    omega
  rw [digitChars, Nat.toDigits_of_lt_base (digitValue_lt digit), same]

theorem natOfDigits_pos (digits : ∀ c ∈ ds, isDigit c = true) (some_digit : ds ≠ [])
    (leads : ∀ others, ds ≠ '0' :: others) : 0 < natOfDigits ds := by
  cases ds with
  | nil => exact absurd rfl some_digit
  | cons c ds =>
    have value : 1 ≤ digitValue c := by
      by_contra small
      have zero : digitValue c = 0 := by omega
      have digit := digitChars_digitValue (digits c List.mem_cons_self)
      rw [zero, digitChars_zero, List.cons.injEq] at digit
      exact leads ds (digit.1 ▸ rfl)
    have first : 1 ≤ 0 * 10 + digitValue c := by omega
    exact Nat.le_trans first (le_readOn _ ds)

/-- Digits are how their number is written, unless there is a zero in front of them. -/
theorem digitChars_natOfDigits (digits : ∀ c ∈ ds, isDigit c = true) (some_digit : ds ≠ [])
    (leads : ∀ others, ds ≠ '0' :: others) : digitChars (natOfDigits ds) = ds := by
  induction ds using List.reverseRecOn with
  | nil => exact absurd rfl some_digit
  | append_singleton front c ih =>
    have digit : isDigit c = true := digits c (by simp)
    have number : natOfDigits (front ++ [c]) = 10 * natOfDigits front + digitValue c := by
      change readOn 0 _ = 10 * readOn 0 front + _
      rw [readOn_append, Nat.mul_comm]
      rfl
    by_cases empty : front = []
    · subst empty
      rw [number, show natOfDigits [] = 0 from rfl, Nat.mul_zero, Nat.zero_add]
      exact digitChars_digitValue digit
    · have before : ∀ c ∈ front, isDigit c = true := fun x mem => digits x (by simp [mem])
      have ahead : ∀ others, front ≠ '0' :: others := by
        rintro others rfl
        exact leads (others ++ [c]) rfl
      have pos := natOfDigits_pos before empty ahead
      rw [number, digitChars, ← Nat.toDigits_append_toDigits (by decide) pos (digitValue_lt digit)]
      exact congrArg₂ (· ++ ·) (ih before empty ahead) (digitChars_digitValue digit)

/-- Text in which no digit stands next. -/
def NoDigitNext (rest : List Char) : Prop := ∀ c s, rest = c :: s → isDigit c = false

theorem spanDigits_append (digits : ∀ c ∈ ds, isDigit c = true) (next : NoDigitNext rest) :
    spanDigits (ds ++ rest) = (ds, rest) := by
  have stop : rest.takeWhile isDigit = [] ∧ rest.dropWhile isDigit = rest := by
    cases rest with
    | nil => exact ⟨rfl, rfl⟩
    | cons c s =>
      have other := next c s rfl
      simp [other]
  rw [spanDigits, List.takeWhile_append_of_pos digits, List.dropWhile_append_of_pos digits, stop.1,
    stop.2, List.append_nil]

end PrecheckLoad.Text
