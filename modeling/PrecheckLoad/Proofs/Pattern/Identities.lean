import PrecheckLoad.Proofs.Decimal.Digits
import PrecheckLoad.Proofs.Pattern.Fields

/-!
# Identities of honest buyers

Where no layer chooses identities and none forces failures, the identity is made of the numbers of
the user and of the iteration, with a separator between them. Validation asks nothing of the
separator. A character in it that is no digit shows where the first number ends, and then no two
iterations have one identity. A separator of digits may be mistaken for a part of the numbers, and
it is told here which of them are.
-/
namespace PrecheckLoad

open Text Decimal

/-- Digits that some word is written with. -/
def WrittenWord (ds : List Char) : Prop := ∃ n : UInt64, digitChars n.toNat = ds

variable {s w u ds : List Char} {v i v' i' : UInt64}

theorem writtenWord_of_digits (digits : ∀ c ∈ ds, isDigit c = true) (some_digit : ds ≠ [])
    (leads : ∀ others, ds ≠ '0' :: others) (fits : natOfDigits ds < 2 ^ 64) : WrittenWord ds := by
  refine ⟨UInt64.ofNat (natOfDigits ds), ?_⟩
  rw [UInt64.toNat_ofNat', Nat.mod_eq_of_lt fits]
  exact digitChars_natOfDigits digits some_digit leads

theorem digitChars_word_injective (same : digitChars v.toNat = digitChars v'.toNat) : v = v' := by
  rw [← UInt64.toNat_inj, ← natOfDigits_digitChars v.toNat, same, natOfDigits_digitChars]

theorem digitChars_word_zero : digitChars (0 : UInt64).toNat = ['0'] := rfl

theorem digitChars_word_one : digitChars (1 : UInt64).toNat = ['1'] := rfl

/-- Of a numeral that goes on, the number is no less than what is read of its front. -/
theorem readOn_front_lt {k : Nat} (number : digitChars v.toNat = ds ++ w)
    (le : k ≤ natOfDigits ds) : readOn k w < 2 ^ 64 := by
  have whole : readOn (natOfDigits ds) w = v.toNat := by
    rw [natOfDigits, ← readOn, ← readOn_append, ← number, readOn_digitChars]
  have mono := readOn_mono le w
  have word := v.toNat_lt
  omega

/-- A separator between two numbers that leaves open where the first of them ends. -/
inductive Blurs (s : List Char) : Prop
  /-- User 1 in iteration `1s1` is taken for user `1s1` in iteration 1. -/
  | short (both : WrittenWord ('1' :: (s ++ ['1']))) : Blurs s
  /-- Behind its first digits `w` the separator goes on as it began, up to its last ones `u`. So
  user 1 in iteration `u0` is taken for user `1w` in iteration 0. -/
  | overlapping (w t u : List Char) (some_digit : w ≠ []) (front : s = w ++ t) (back : s = t ++ u)
    (user : WrittenWord ('1' :: w)) (iteration : WrittenWord (u ++ ['0'])) : Blurs s

theorem Blurs.exists_same (blurs : Blurs s) : ∃ v i v' i' : UInt64, v ≠ v' ∧
    digitChars v.toNat ++ s ++ digitChars i.toNat =
      digitChars v'.toNat ++ s ++ digitChars i'.toNat := by
  cases blurs with
  | short both =>
    obtain ⟨n, number⟩ := both
    refine ⟨1, n, n, 1, ?_, ?_⟩
    · rintro rfl
      rw [digitChars_word_one] at number
      simp at number
    · rw [number, digitChars_word_one]
      simp
  | overlapping w t u some_digit front back user iteration =>
    obtain ⟨m, user⟩ := user
    obtain ⟨n, iteration⟩ := iteration
    refine ⟨1, n, m, 0, ?_, ?_⟩
    · rintro rfl
      rw [digitChars_word_one] at user
      exact some_digit (List.cons.inj user).2.symm
    · calc digitChars (1 : UInt64).toNat ++ s ++ digitChars n.toNat
          = '1' :: (w ++ (t ++ u) ++ ['0']) := by
            rw [iteration, front, digitChars_word_one]
            simp
        _ = digitChars m.toNat ++ s ++ digitChars (0 : UInt64).toNat := by
            rw [user, back, digitChars_word_zero]
            simp

/-- The front of a numeral that ends in another is that of a word which ends in zero. -/
theorem written_before (some_digit : u ≠ [])
    (number : digitChars i.toNat = u ++ digitChars i'.toNat) : WrittenWord (u ++ ['0']) := by
  have digits : ∀ c ∈ u, isDigit c = true := fun c mem =>
    isDigit_of_mem_digitChars (n := i.toNat) (number ▸ List.mem_append_left _ mem)
  have leads := leads_of_digitChars_eq number (digitChars_ne_nil _)
  refine writtenWord_of_digits ?_ (by simp) ?_ ?_
  · exact List.forall_mem_append.mpr ⟨digits, List.forall_mem_singleton.mpr rfl⟩
  · intro others same
    cases u with
    | nil => exact some_digit rfl
    | cons c rest =>
      rw [List.cons_append, List.cons.injEq] at same
      exact leads rest (same.1 ▸ rfl)
  · have value : natOfDigits (u ++ ['0']) = 10 * natOfDigits u := by
      rw [natOfDigits, ← readOn, readOn_append, Nat.mul_comm]
      rfl
    have least := ten_mul_le_readOn (natOfDigits u) (digitChars_ne_nil i'.toNat)
    have fits := readOn_front_lt number (Nat.le_refl _)
    omega

theorem digits_between (digits : ∀ c ∈ s, isDigit c = true) :
    ∀ c ∈ '1' :: (s ++ ['1']), isDigit c = true := by
  have last : ∀ c ∈ ['1'], isDigit c = true := List.forall_mem_singleton.mpr rfl
  exact List.forall_mem_cons.mpr ⟨rfl, List.forall_mem_append.mpr ⟨digits, last⟩⟩

theorem writtenWord_between (digits : ∀ c ∈ s, isDigit c = true)
    (fits : natOfDigits ('1' :: (s ++ ['1'])) < 2 ^ 64) : WrittenWord ('1' :: (s ++ ['1'])) := by
  refine writtenWord_of_digits (digits_between digits) (List.cons_ne_nil _ _) ?_ fits
  intro others same
  cases same

/-- A separator that stands within a numeral is part of a word between two ones. -/
theorem written_between (some_digit : w ≠ [])
    (number : digitChars i.toNat = w ++ (s ++ digitChars i'.toNat)) :
    WrittenWord ('1' :: (s ++ ['1'])) := by
  have digits : ∀ c ∈ w ++ (s ++ digitChars i'.toNat), isDigit c = true := fun c mem =>
    isDigit_of_mem_digitChars (n := i.toNat) (number ▸ mem)
  rw [List.forall_mem_append, List.forall_mem_append] at digits
  have more : s ++ digitChars i'.toNat ≠ [] :=
    List.append_ne_nil_of_right_ne_nil s (digitChars_ne_nil _)
  have pos := natOfDigits_pos digits.1 some_digit (leads_of_digitChars_eq number more)
  have value : natOfDigits ('1' :: (s ++ ['1'])) = 10 * readOn 1 s + 1 := by
    change readOn 1 (s ++ ['1']) = _
    rw [readOn_append, Nat.mul_comm]
    rfl
  have least := ten_mul_le_readOn (readOn 1 s) (digitChars_ne_nil i'.toNat)
  have fits : readOn 1 (s ++ digitChars i'.toNat) < 2 ^ 64 := readOn_front_lt number pos
  rw [readOn_append] at fits
  -- the first number past the words does not end in a one
  exact writtenWord_between digits.2.1 (by omega)

/-- If the first number goes on in one reading and ends in the other, the separator blurs them. -/
theorem blurs_of_longer (some_digit : w ≠ [])
    (longer : digitChars v'.toNat = digitChars v.toNat ++ w)
    (rest : s ++ digitChars i.toNat = w ++ (s ++ digitChars i'.toNat)) : Blurs s := by
  have pos : 1 ≤ natOfDigits (digitChars v.toNat) := by
    refine natOfDigits_pos (fun c mem => isDigit_of_mem_digitChars mem) (digitChars_ne_nil _) ?_
    exact leads_of_digitChars_eq longer some_digit
  have user : WrittenWord ('1' :: w) := by
    refine writtenWord_of_digits ?_ (List.cons_ne_nil _ _) (fun others same => by cases same) ?_
    · intro c mem
      rcases List.mem_cons.mp mem with rfl | mem
      · rfl
      · exact isDigit_of_mem_digitChars (n := v'.toNat) (longer ▸ List.mem_append_right _ mem)
    · change readOn 1 w < 2 ^ 64
      exact readOn_front_lt longer pos
  rcases List.append_eq_append_iff.mp rest with ⟨a, front, number⟩ | ⟨t, front, number⟩
  · by_cases all : a = []
    · subst all
      rw [List.append_nil] at front
      subst front
      exact .overlapping w [] w some_digit (List.append_nil w).symm rfl user
        (written_before some_digit number)
    · exact .short (written_between all number)
  · rcases List.append_eq_append_iff.mp number with ⟨a, within, -⟩ | ⟨u, back, number⟩
    · have size := congrArg List.length front
      have inner := congrArg List.length within
      have some_length := List.length_pos_iff.mpr some_digit
      rw [List.length_append] at size inner
      omega
    · have turned : u ≠ [] := by
        rintro rfl
        have size := congrArg List.length (front.symm.trans back)
        have some_length := List.length_pos_iff.mpr some_digit
        simp only [List.length_append, List.length_nil] at size
        omega
      exact .overlapping w t u some_digit front back user (written_before turned number)

/-- Where the first numbers are the same, so are the second ones. -/
theorem goes_on_of_same (differ : v ≠ v' ∨ i ≠ i')
    (longer : digitChars v'.toNat = digitChars v.toNat ++ w)
    (rest : s ++ digitChars i.toNat = w ++ (s ++ digitChars i'.toNat)) : w ≠ [] := by
  rintro rfl
  rw [List.append_nil] at longer
  have users := digitChars_word_injective longer
  have iterations := digitChars_word_injective (List.append_cancel_left rest)
  rcases differ with differ | differ
  · exact differ users.symm
  · exact differ iterations

theorem blurs_of_same (differ : v ≠ v' ∨ i ≠ i')
    (same : digitChars v.toNat ++ s ++ digitChars i.toNat =
      digitChars v'.toNat ++ s ++ digitChars i'.toNat) : Blurs s := by
  rw [List.append_assoc, List.append_assoc] at same
  rcases List.append_eq_append_iff.mp same with ⟨w, longer, rest⟩ | ⟨w, longer, rest⟩
  · exact blurs_of_longer (goes_on_of_same differ longer rest) longer rest
  · have turned : v' ≠ v ∨ i' ≠ i := differ.imp Ne.symm Ne.symm
    exact blurs_of_longer (goes_on_of_same turned longer rest) longer rest

/-- A character other than a digit ends the number in front of it. -/
theorem not_blurs_of_foreign {c : Char} (foreign : isDigit c = false) (mem : c ∈ s) :
    ¬ Blurs s := by
  intro blurs
  obtain ⟨v, i, v', i', differ, same⟩ := blurs.exists_same
  obtain ⟨a, b, rfl, first⟩ := List.eq_append_cons_of_mem mem
  have free : ∀ n : UInt64, ∀ x ∈ digitChars n.toNat ++ a, (x == c) = false := by
    rintro n x among
    rw [beq_eq_false_iff_ne]
    rintro rfl
    rcases List.mem_append.mp among with number | before
    · rw [isDigit_of_mem_digitChars number] at foreign
      cases foreign
    · exact first before
  have cut : digitChars v.toNat ++ a ++ c :: (b ++ digitChars i.toNat) =
      digitChars v'.toNat ++ a ++ c :: (b ++ digitChars i'.toNat) := by simpa using same
  have users := (first_cut_unique (free v) (free v') (beq_self_eq_true c) (beq_self_eq_true c)
    cut).1
  exact differ (digitChars_word_injective (List.append_cancel_right users))

/-- Few enough digits are mistaken for digits of a number. -/
theorem blurs_of_digits (digits : ∀ c ∈ s, isDigit c = true) (short : s.length ≤ 17) : Blurs s := by
  have number := digitChars_natOfDigits (digits_between digits) (List.cons_ne_nil _ _)
    (fun others same => by cases same)
  have size : (digitChars (natOfDigits ('1' :: (s ++ ['1'])))).length ≤ 19 := by
    rw [number]
    simp only [List.length_cons, List.length_append, List.length_nil]
    omega
  have below : natOfDigits ('1' :: (s ++ ['1'])) < 10 ^ 19 :=
    (Nat.length_toDigits_le_iff (by decide) (by decide)).mp size
  exact .short (writtenWord_between digits (by omega))

namespace IdentityFormat

theorem unique_eq_iff (f : IdentityFormat) : f.unique v i = f.unique v' i' ↔
    digitChars v.toNat ++ f.separator.toList ++ digitChars i.toNat =
      digitChars v'.toNat ++ f.separator.toList ++ digitChars i'.toNat := by
  have text : ∀ v i, (f.unique v i).toList =
      f.lead.toList ++ (digitChars v.toNat ++ f.separator.toList ++ digitChars i.toNat) := by
    intro v i
    simp only [unique, String.toList_append, Nat.toString_eq_ofList_toDigits, String.toList_ofList,
      List.append_assoc, digitChars]
  rw [← String.toList_inj, text, text, List.append_cancel_left_eq]

/-- An identity has one user and one iteration exactly if the separator does not blur them. -/
theorem unique_injective_iff (f : IdentityFormat) :
    (∀ v i v' i', v ≠ v' ∨ i ≠ i' → f.unique v i ≠ f.unique v' i') ↔
      ¬ Blurs f.separator.toList := by
  constructor
  · intro unique blurs
    obtain ⟨v, i, v', i', differ, same⟩ := blurs.exists_same
    exact unique v i v' i' (.inl differ) (f.unique_eq_iff.mpr same)
  · intro clear v i v' i' differ same
    exact clear (blurs_of_same differ (f.unique_eq_iff.mp same))

end IdentityFormat

namespace Pattern

/-- An accepted pattern without a layer that chooses identities or forces failures. Its buyers are
named by user and iteration, also in the bodies that have a buyer. Any two of them differ, unless
both are of one iteration of one user, exactly if the separator does not blur their numbers. With a
character that is no digit it does not, and with up to 17 digits and nothing else it does. -/
theorem identities_differ_iff (p : Pattern) (accepted : p.validate = .ok ())
    (unchosen : ∀ l ∈ p.profiles, l.kind.isIdentityBase = false)
    (unforced : ∀ f, .forcedFailure f ∉ p.profiles) :
    (∀ c url, ∃ d r, p.draft c = .ok d ∧ p.build c url = .ok r ∧
      d.identity = p.identity.unique c.user c.iteration ∧
      ((∀ l ∈ p.profiles, l.strips = false) → p.body.userField ≠ p.body.productField →
        ∃ v, r.json? = some v ∧ v.field? p.body.userField = some (.string d.identity))) ∧
    ((∀ c c' d d', p.draft c = .ok d → p.draft c' = .ok d' →
      (c.user ≠ c'.user ∨ c.iteration ≠ c'.iteration) → d.identity ≠ d'.identity) ↔
        ¬ Blurs p.identity.separator.toList) ∧
    ((∃ x ∈ p.identity.separator.toList, isDigit x = false) →
      ¬ Blurs p.identity.separator.toList) ∧
    ((∀ x ∈ p.identity.separator.toList, isDigit x = true) →
      p.identity.separator.toList.length ≤ 17 → Blurs p.identity.separator.toList) := by
  have named : ∀ c, ∃ d, p.draft c = .ok d ∧
      d.identity = p.identity.unique c.user c.iteration := by
    intro c
    obtain ⟨d, drafted, composed⟩ := exists_composed (validate_eq_ok.mp accepted).2.2 c
    refine ⟨d, drafted, composed.unique unchosen ?_⟩
    rintro sentinel ⟨f, mem, -⟩
    exact unforced f mem
  refine ⟨fun c url => ?_, ?_, ?_, blurs_of_digits⟩
  · obtain ⟨d, drafted, identity⟩ := named c
    refine ⟨d, _, drafted, build_of_draft url drafted, identity, fun kept apart => ?_⟩
    obtain ⟨v, read, -, buyer⟩ := exists_named drafted kept url
    exact ⟨v, read, buyer.mpr (.inl apart)⟩
  · rw [← p.identity.unique_injective_iff]
    constructor
    · intro differ v i v' i' apart
      obtain ⟨d, drafted, identity⟩ := named ⟨v, i, 0⟩
      obtain ⟨d', drafted', identity'⟩ := named ⟨v', i', 0⟩
      rw [← identity, ← identity']
      exact differ _ _ _ _ drafted drafted' apart
    · intro differ c c' d d' drafted drafted' apart
      obtain ⟨e, again, identity⟩ := named c
      obtain ⟨e', again', identity'⟩ := named c'
      cases drafted.symm.trans again
      cases drafted'.symm.trans again'
      rw [identity, identity']
      exact differ _ _ _ _ apart
  · rintro ⟨x, mem, foreign⟩
    exact not_blurs_of_foreign foreign mem

/-- Buyers whose numbers have a separator that is made of digits but for one character. -/
def honest : Pattern where
  profiles := [.spoofedHeader { mode := .matching }]
  identity := { lead := "1", separator := "1x1" }

theorem identities_differ_iff_of_honest : honest.validate = .ok () ∧
    ∃ d d', honest.draft ⟨1, 11, 7⟩ = .ok d ∧ honest.draft ⟨11, 1, 7⟩ = .ok d' ∧
      d.identity ≠ d'.identity := by
  have accepted : honest.validate = .ok () := rfl
  obtain ⟨named, differ, clear, -⟩ := identities_differ_iff honest accepted (by decide)
    (fun f mem => by simp [honest] at mem)
  obtain ⟨d, -, drafted, -⟩ := named ⟨1, 11, 7⟩ "http://shop"
  obtain ⟨d', -, drafted', -⟩ := named ⟨11, 1, 7⟩ "http://shop"
  have apart := differ.mpr (clear ⟨'x', by decide, rfl⟩)
  exact ⟨accepted, d, d', drafted, drafted', apart _ _ _ _ drafted drafted' (.inl (by decide))⟩

/-- Buyers whose numbers have nothing between them. -/
def muddled : Pattern where
  identity := { separator := "" }

/-- Two users of this pattern, which is accepted and has no layers, make the same purchase. -/
theorem purchase_repeated_by_honest : muddled.validate = .ok () ∧ muddled.profiles = [] ∧
    ∃ d r, muddled.draft ⟨1, 11, 7⟩ = .ok d ∧ muddled.draft ⟨11, 1, 7⟩ = .ok d ∧
      muddled.build ⟨1, 11, 7⟩ "http://shop" = .ok r ∧
      muddled.build ⟨11, 1, 7⟩ "http://shop" = .ok r := by
  have one : muddled.draft ⟨1, 11, 7⟩ = .ok { identity := "user-111" } := by decide
  have other : muddled.draft ⟨11, 1, 7⟩ = .ok { identity := "user-111" } := by decide
  exact ⟨rfl, rfl, _, _, one, other, build_of_draft _ one, build_of_draft _ other⟩

end Pattern
end PrecheckLoad
