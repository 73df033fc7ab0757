import Mathlib
import PrecheckLoad.Proofs.Decimal.Grammar
import PrecheckLoad.Proofs.Decimal.Shortest

/-!
# Plain texts are read back

A float comes back from its plain text, bit by bit: the sign and the digits of the text are those of
the float, the digits round to it, and what rounds to a float is read as that float. Zeros,
infinities and what is not a number are written in ways of their own, which are read back too.
-/
namespace PrecheckLoad.Decimal

open Text

variable {m n : Nat} {q e : Int} {x : Float} {negative : Bool} {r ds whole places : List Char}

/-- The bits of a finite float, without that of the sign. -/
def finiteBits (m : Nat) (q : Int) : Nat := (q + 1074).toNat * 2 ^ 52 + m

/-- The float that was taken apart. There is one that is not a number, and its sign is not set. -/
def Binary.float : Binary → Float
  | .nan => withSign false (2047 * 2 ^ 52 + 2 ^ 51)
  | .infinite negative => withSign negative (2047 * 2 ^ 52)
  | .finite negative m q => withSign negative (finiteBits m q)

theorem sign_bit (b : UInt64) : b.toNat =
    if b.toNat / 2 ^ 63 == 1 then b.toNat % 2 ^ 63 + 2 ^ 63 else b.toNat % 2 ^ 63 := by
  have fits := b.toNat_lt
  split
  · next set =>
    rw [beq_iff_eq] at set
    omega
  · next unset =>
    rw [beq_iff_eq] at unset
    omega

/-- A float is given by its sign and its other bits. -/
theorem withSign_eq {bits : Nat} (sign : negative = (x.toBits.toNat / 2 ^ 63 == 1))
    (rest : bits = x.toBits.toNat % 2 ^ 63) : withSign negative bits = x := by
  have all := sign_bit x.toBits
  unfold withSign
  rw [Nat.pow_eq, sign, rest, ← all, UInt64.ofNat_toNat, Float.ofBits_toBits]

theorem packedNaN_toNat : (Float.Model.UnpackedFloat.packedNaN .binary64).toNat =
    2047 * 2 ^ 52 + 2 ^ 51 := by
  decide +kernel

/-- Floats hold no other bits for what is not a number. -/
theorem toNat_toBits_of_nan (exponent : x.toBits.toNat / 2 ^ 52 % 2048 = 2047)
    (rest : x.toBits.toNat % 2 ^ 52 ≠ 0) : x.toBits.toNat = 2047 * 2 ^ 52 + 2 ^ 51 := by
  have bits : x.toBits.toBitVec = Float.Model.UnpackedFloat.packedNaN .binary64 := by
    refine x.toModel.valid.eq_packedNaN ?_ ?_
    · rw [Float.Model.UnpackedFloat.unpackExponent_def]
      apply BitVec.eq_of_toNat_eq
      rw [BitVec.extractLsb'_toNat, Nat.shiftRight_eq_div_pow]
      exact exponent
    · rw [Float.Model.UnpackedFloat.unpackMantissa_def]
      intro zero
      apply rest
      have zero' := congrArg BitVec.toNat zero
      rw [BitVec.extractLsb'_toNat, Nat.shiftRight_eq_div_pow, Nat.pow_zero, Nat.div_one] at zero'
      exact zero'
  rw [← packedNaN_toNat, ← bits]
  rfl

/-- Taking a float apart loses nothing. -/
theorem float_of (x : Float) : (Binary.of x).float = x := by
  unfold Binary.of Binary.ofBits
  simp only [Nat.pow_eq]
  split
  · next exponent =>
    split
    · next infinite =>
      refine withSign_eq rfl ?_
      omega
    · next rest =>
      have value := toNat_toBits_of_nan exponent rest
      refine withSign_eq ?_ ?_
      · rw [value]
        rfl
      · rw [value]
        rfl
  · split
    · next subnormal =>
      refine withSign_eq rfl ?_
      unfold finiteBits
      omega
    · next normal =>
      refine withSign_eq rfl ?_
      unfold finiteBits
      omega

/-- A finite float has a significand of its exponent, unless it is zero. -/
theorem canonical_or_zero (h : Binary.of x = .finite negative m q) :
    Canonical m q ∨ m = 0 ∧ q = -1074 := by
  unfold Binary.of Binary.ofBits at h
  simp only [Nat.pow_eq] at h
  split at h
  · split at h
    · cases h
    · cases h
  · split at h
    · next subnormal =>
      cases h
      by_cases zero : x.toBits.toNat % 2 ^ 52 = 0
      · exact .inr ⟨zero, rfl⟩
      · exact .inl ⟨by omega, by omega, by omega, by omega, .inr rfl⟩
    · next normal =>
      cases h
      exact .inl ⟨by omega, by omega, by omega, by omega, .inl (by omega)⟩

theorem takeSign_signChars (negative : Bool) (plain : Unsigned r) :
    takeSign (signChars negative ++ r) = (negative, r) := by
  cases negative with
  | true => rfl
  | false =>
    unfold signChars takeSign
    rw [if_neg Bool.false_ne_true, List.nil_append]
    split
    · exact absurd rfl (plain '-' rfl).2
    · exact absurd rfl (plain '+' rfl).1
    · rfl

/-- A run of digits is spanned to its end. -/
theorem spanDigits_self (digits : ∀ c ∈ ds, isDigit c = true) : spanDigits ds = (ds, []) := by
  have spanned := spanDigits_append digits (fun c s (shape : [] = c :: s) => nomatch shape)
  rwa [List.append_nil] at spanned

theorem readUnsigned?_whole (negative : Bool) (digits : DigitRun whole) :
    readUnsigned? negative whole = some (nearestTen negative (natOfDigits whole) 0) := by
  have filled := List.isEmpty_eq_false_iff.mpr digits.some_digit
  unfold readUnsigned?
  rw [spanDigits_self digits.digits]
  dsimp only
  rw [filled, List.append_nil]
  rfl

theorem readUnsigned?_pointed (negative : Bool) (digits : DigitRun (whole ++ places)) :
    readUnsigned? negative (whole ++ '.' :: places) =
      some (nearestTen negative (natOfDigits (whole ++ places)) (-places.length)) := by
  have digits_whole : ∀ c ∈ whole, isDigit c = true := fun c mem =>
    digits.digits c (List.mem_append_left places mem)
  have digits_places : ∀ c ∈ places, isDigit c = true := fun c mem =>
    digits.digits c (List.mem_append_right whole mem)
  have point : NoDigitNext ('.' :: places) := by
    intro c s shape
    cases shape
    rfl
  have spanned := spanDigits_append digits_whole point
  have filled : ¬ (whole.isEmpty && places.isEmpty) = true := by
    rw [Bool.and_eq_true, List.isEmpty_iff, List.isEmpty_iff, ← List.append_eq_nil_iff]
    exact digits.some_digit
  unfold readUnsigned?
  rw [spanned]
  dsimp only
  split
  · next r shape =>
    obtain rfl : places = r := (List.cons.inj shape).2
    rw [spanDigits_self digits_places]
    dsimp only
    rw [if_neg filled, readExponent?, Option.map_some, zero_sub]
  · next pointless => exact absurd rfl (pointless places)

theorem lowerChar_of_isDigit {c : Char} (digit : isDigit c = true) : lowerChar c = c := by
  rw [isDigit, Bool.and_eq_true, decide_eq_true_eq, decide_eq_true_eq] at digit
  exact if_neg fun upper => absurd (upper.1.trans digit.2) (by decide)

/-- No word takes the place of digits. -/
theorem DigitRun.not_word (digits : DigitRun ds) (r : List Char) :
    String.ofList ((ds ++ r).map lowerChar) ∉ ["inf", "infinity", "nan"] := by
  intro named
  obtain ⟨c, more, rfl⟩ := List.exists_cons_of_ne_nil digits.some_digit
  have digit := digits.digits c List.mem_cons_self
  have letter := lowerChar_head_of_word named c rfl
  rw [lowerChar_of_isDigit digit] at letter
  rcases letter with rfl | rfl
  · cases digit
  · cases digit

/-- A sign before digits decides on the sign of the number. -/
theorem read?_signChars (negative : Bool) (digits : DigitRun ds) (r : List Char) :
    read? (String.ofList (signChars negative ++ (ds ++ r))) = readUnsigned? negative (ds ++ r) := by
  have plain := digits.unsigned r
  have other := digits.not_word r
  simp only [List.mem_cons, List.not_mem_nil, or_false, not_or] at other
  unfold read?
  rw [String.toList_ofList, takeSign_signChars negative plain]
  dsimp only
  rw [if_neg (not_or.mpr ⟨other.1, other.2.1⟩), if_neg other.2.2]

theorem readOn_zeros (k n : Nat) : readOn k (List.replicate n '0') = k * 10 ^ n := by
  induction n generalizing k with
  | zero => rw [List.replicate_zero, pow_zero, mul_one]; rfl
  | succ n ih =>
    rw [List.replicate_succ, readOn_cons, show digitValue '0' = 0 from rfl, ih]
    ring

/-- What digits with a point among them stand for. -/
structure Places (parts : List Char × List Char) (v : ℚ) : Prop where
  whole : DigitRun parts.1
  places : ∀ c ∈ parts.2, isDigit c = true
  value : natOfDigits (parts.1 ++ parts.2) * 10 ^ (-(parts.2.length : Int)) = v

theorem isDigit_of_mem_zeros {c : Char} {k : Nat} (mem : c ∈ List.replicate k '0') :
    isDigit c = true := by
  rw [(List.mem_replicate.mp mem).2]
  rfl

theorem places_before (n k : Nat) : Places (['0'], List.replicate k '0' ++ digitChars n)
    (n * 10 ^ (-((k + (digitChars n).length : Nat) : Int))) where
  whole := ⟨List.cons_ne_nil _ _, fun c mem => by
    rw [List.mem_singleton.mp mem]
    rfl⟩
  places := fun c mem =>
    (List.mem_append.mp mem).elim isDigit_of_mem_zeros isDigit_of_mem_digitChars
  value := by
    have read : natOfDigits (['0'] ++ (List.replicate k '0' ++ digitChars n)) = n := by
      change readOn 0 _ = n
      rw [readOn_append, readOn_append, readOn_zeros, show readOn 0 ['0'] = 0 from rfl, zero_mul,
        readOn_digitChars]
    rw [read, List.length_append, List.length_replicate]

theorem places_behind (n k : Nat) :
    Places (digitChars n ++ List.replicate k '0', []) (n * 10 ^ (k : Int)) where
  whole := ⟨List.append_ne_nil_of_left_ne_nil (digitChars_ne_nil n) _, fun c mem =>
    (List.mem_append.mp mem).elim isDigit_of_mem_digitChars isDigit_of_mem_zeros⟩
  places := fun c mem => nomatch mem
  value := by
    have read : natOfDigits (digitChars n ++ List.replicate k '0') = n * 10 ^ k := by
      change readOn 0 _ = _
      rw [readOn_append, readOn_zeros, readOn_digitChars]
    rw [List.append_nil, read, List.length_nil]
    push_cast
    simp

theorem places_among (n : Nat) {k : Nat} (some_digit : 0 < k) :
    Places ((digitChars n).take k, (digitChars n).drop k)
      (n * 10 ^ (-(((digitChars n).length - k : Nat) : Int))) where
  whole := by
    refine ⟨?_, fun c mem => isDigit_of_mem_digitChars (List.mem_of_mem_take mem)⟩
    rw [Ne, List.take_eq_nil_iff, not_or]
    exact ⟨Nat.pos_iff_ne_zero.mp some_digit, digitChars_ne_nil n⟩
  places := fun c mem => isDigit_of_mem_digitChars (List.mem_of_mem_drop mem)
  value := by rw [List.take_append_drop, natOfDigits_digitChars, List.length_drop]

/-- Digits keep their value wherever the point has to go. -/
theorem places_placePoint (n : Nat) (e : Int) :
    Places (placePoint (digitChars n) ((digitChars n).length + e)) (n * 10 ^ e) := by
  unfold placePoint
  split
  · next before =>
    have p := places_before n (-((digitChars n).length + e)).toNat
    rwa [show -(((-((digitChars n).length + e)).toNat + (digitChars n).length : Nat) : Int) = e by
      omega] at p
  · next inside =>
    by_cases long : 0 ≤ e
    · obtain ⟨k, rfl⟩ := Int.eq_ofNat_of_zero_le long
      have all : (digitChars n).length ≤ ((digitChars n).length + (k : Int)).toNat := by omega
      have fill : ((digitChars n).length + (k : Int)).toNat - (digitChars n).length = k := by omega
      dsimp only
      rw [List.take_of_length_le all, List.drop_of_length_le all, fill]
      exact places_behind n k
    · have fill : ((digitChars n).length + e).toNat - (digitChars n).length = 0 := by omega
      dsimp only
      rw [fill, List.replicate_zero, List.append_nil]
      have some_digit : 0 < ((digitChars n).length + e).toNat := by omega
      have p := places_among n some_digit
      rwa [show -(((digitChars n).length - ((digitChars n).length + e).toNat : Nat) : Int) = e by
        omega] at p

/-- Digits that stand for a number are read as the float it rounds to. -/
theorem read?_places {parts : List Char × List Char} (p : Places parts (n * 10 ^ e))
    (c : Canonical m q) (r : RoundsTo m q (n * 10 ^ e)) (negative : Bool) :
    read? (String.ofList (signChars negative ++ parts.1 ++
      (if parts.2.isEmpty then [] else '.' :: parts.2))) =
        some (withSign negative (finiteBits m q)) := by
  rw [List.append_assoc, read?_signChars negative p.whole]
  have value := p.value
  rw [← value] at r
  have nearest := nearestTen_of_roundsTo c r negative
  split
  · next empty =>
    rw [List.isEmpty_iff.mp empty, List.append_nil] at nearest
    rw [List.append_nil, readUnsigned?_whole negative p.whole]
    exact congrArg some nearest
  · have all : DigitRun (parts.1 ++ parts.2) :=
      ⟨List.append_ne_nil_of_left_ne_nil p.whole.some_digit _, fun c mem =>
        (List.mem_append.mp mem).elim (p.whole.digits c) (p.places c)⟩
    rw [readUnsigned?_pointed negative all]
    exact congrArg some nearest

/-- What a float is written as is read back as that float. -/
theorem read?_plain (x : Float) : read? (plain x) = some x := by
  have same := float_of x
  unfold plain plainChars
  split
  · next nan =>
    rw [← same, nan]
    rfl
  · next negative infinite =>
    rw [← same, infinite]
    cases negative with
    | true => rfl
    | false => rfl
  · next negative q zero =>
    obtain c | ⟨-, rfl⟩ := canonical_or_zero zero
    · exact absurd c.pos (Nat.lt_irrefl 0)
    · rw [← same, zero]
      cases negative with
      | true => rfl
      | false => rfl
  · next negative m q nonzero finite =>
    obtain c | ⟨zero, -⟩ := canonical_or_zero finite
    · have r := shortest_roundsTo c .up
      have p := places_placePoint (shortest .up m q).digits (shortest .up m q).exponent
      have read := read?_places p c r negative
      rw [← same, finite]
      exact read
    · exact absurd zero nonzero

end PrecheckLoad.Decimal
