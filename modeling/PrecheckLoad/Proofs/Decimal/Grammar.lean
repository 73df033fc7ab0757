import Mathlib.Data.String.Basic
import PrecheckLoad.Proofs.Decimal.Digits

/-!
# The grammar of numbers

The texts that are read as numbers, by their grammar: a sign or none, then a word for an infinity or
for no number at all in any case, or digits with at most one point among or around them and an
exponent or none. Nothing else is read, and nothing of that kind is refused.
-/
namespace PrecheckLoad.Decimal

open Text

inductive Sign : List Char → Prop
  | none : Sign []
  | plus : Sign ['+']
  | minus : Sign ['-']

/-- At least one digit, and nothing but digits. -/
structure DigitRun (ds : List Char) : Prop where
  some_digit : ds ≠ []
  digits : ∀ c ∈ ds, isDigit c = true

/-- Digits with a point among or around them, or without one. -/
inductive Mantissa : List Char → Prop
  | whole (ds : List Char) (digits : DigitRun ds) : Mantissa ds
  | pointed (whole places : List Char) (digits : DigitRun (whole ++ places)) :
    Mantissa (whole ++ '.' :: places)

inductive Exponent : List Char → Prop
  | none : Exponent []
  | power (e : Char) (sign ds : List Char) (letter : e = 'e' ∨ e = 'E') (signed : Sign sign)
    (digits : DigitRun ds) : Exponent (e :: (sign ++ ds))

/-- A text that stands for a number, or for what takes the place of one. -/
inductive Numeral : List Char → Prop
  | word (sign w : List Char) (signed : Sign sign)
    (named : String.ofList (w.map lowerChar) ∈ ["inf", "infinity", "nan"]) : Numeral (sign ++ w)
  | number (sign m e : List Char) (signed : Sign sign) (mantissa : Mantissa m)
    (exponent : Exponent e) : Numeral (sign ++ (m ++ e))

variable {s r ds m e sign : List Char} {c : Char}

/-- Text that does not begin with a sign. -/
def Unsigned (r : List Char) : Prop := ∀ c ∈ r.head?, c ≠ '+' ∧ c ≠ '-'

theorem takeSign_append (signed : Sign sign) (plain : Unsigned r) :
    (takeSign (sign ++ r)).2 = r := by
  cases signed with
  | none =>
    unfold takeSign
    rw [List.nil_append]
    split
    · exact absurd rfl (plain '-' rfl).2
    · exact absurd rfl (plain '+' rfl).1
    · rfl
  | plus => rfl
  | minus => rfl

theorem exists_sign (s : List Char) : ∃ sign, Sign sign ∧ s = sign ++ (takeSign s).2 := by
  unfold takeSign
  split
  · exact ⟨['-'], .minus, rfl⟩
  · exact ⟨['+'], .plus, rfl⟩
  · exact ⟨[], .none, rfl⟩

theorem unsigned_of_isDigit (digit : isDigit c = true) (r : List Char) : Unsigned (c :: r) := by
  intro c' first
  obtain rfl : c = c' := Option.some.inj first
  constructor
  · rintro rfl
    cases digit
  · rintro rfl
    cases digit

theorem DigitRun.unsigned (digits : DigitRun ds) (r : List Char) : Unsigned (ds ++ r) := by
  obtain ⟨c, more, rfl⟩ := List.exists_cons_of_ne_nil digits.some_digit
  exact unsigned_of_isDigit (digits.digits c List.mem_cons_self) (more ++ r)

theorem Mantissa.unsigned (mantissa : Mantissa m) (r : List Char) : Unsigned (m ++ r) := by
  cases mantissa with
  | whole ds digits => exact digits.unsigned r
  | pointed whole places digits =>
    cases whole with
    | nil =>
      intro c first
      obtain rfl : '.' = c := Option.some.inj first
      decide
    | cons d more =>
      exact unsigned_of_isDigit (digits.digits d List.mem_cons_self) (more ++ '.' :: places ++ r)

/-- The letters that words begin with, in lower case. -/
theorem lowerChar_head_of_word {w : List Char}
    (named : String.ofList (w.map lowerChar) ∈ ["inf", "infinity", "nan"]) (c : Char)
    (first : c ∈ w.head?) : lowerChar c = 'i' ∨ lowerChar c = 'n' := by
  have head : (w.map lowerChar).head? = some (lowerChar c) := by
    rw [List.head?_map, Option.mem_def.mp first]
    rfl
  simp only [List.mem_cons, List.not_mem_nil, or_false] at named
  rcases named with inf | infinity | nan
  · rw [String.ofList_eq.mp inf] at head
    exact .inl (Option.some.inj head.symm)
  · rw [String.ofList_eq.mp infinity] at head
    exact .inl (Option.some.inj head.symm)
  · rw [String.ofList_eq.mp nan] at head
    exact .inr (Option.some.inj head.symm)

/-- No word begins with a sign, in whatever case. -/
theorem unsigned_of_word {w : List Char}
    (named : String.ofList (w.map lowerChar) ∈ ["inf", "infinity", "nan"]) : Unsigned w := by
  intro c first
  -- No sign becomes a letter in lower case.
  have letter := lowerChar_head_of_word named c first
  constructor
  · rintro rfl
    exact absurd letter (by decide)
  · rintro rfl
    exact absurd letter (by decide)

theorem readExponent?_isSome_iff : (readExponent? s).isSome = true ↔ Exponent s := by
  constructor
  · intro read
    cases s with
    | nil => exact .none
    | cons c r =>
      rw [readExponent?] at read
      by_cases letter : c = 'e' ∨ c = 'E'
      · rw [if_pos letter] at read
        dsimp only at read
        by_cases other : ((takeSign r).2.isEmpty || !(takeSign r).2.all isDigit) = true
        · rw [if_pos other] at read
          cases read
        · rw [Bool.not_eq_true, Bool.or_eq_false_iff, Bool.not_eq_false', List.all_eq_true] at other
          obtain ⟨sign, signed, parts⟩ := exists_sign r
          rw [parts]
          exact .power c sign _ letter signed ⟨List.isEmpty_eq_false_iff.mp other.1, other.2⟩
      · rw [if_neg letter] at read
        cases read
  · intro exponent
    cases exponent with
    | none => rfl
    | power e sign ds letter signed digits =>
      have rest : (takeSign (sign ++ ds)).2 = ds := by
        have plain := digits.unsigned []
        rw [List.append_nil] at plain
        exact takeSign_append signed plain
      have readable : (ds.isEmpty || !ds.all isDigit) = false := by
        rw [Bool.or_eq_false_iff, Bool.not_eq_false', List.all_eq_true]
        exact ⟨List.isEmpty_eq_false_iff.mpr digits.some_digit, digits.digits⟩
      rw [readExponent?, if_pos letter]
      dsimp only
      rw [rest, readable]
      rfl

theorem Exponent.noDigitNext (exponent : Exponent e) : NoDigitNext e := by
  cases exponent with
  | none =>
    intro c r shape
    cases shape
  | power x sign ds letter signed digits =>
    intro c r shape
    cases shape
    rcases letter with rfl | rfl
    · rfl
    · rfl

theorem Exponent.pointless (exponent : Exponent e) (r : List Char) : e ≠ '.' :: r := by
  rintro rfl
  cases exponent with
  | power x sign ds letter => exact absurd letter (by decide)

theorem exists_spanned (s : List Char) : ∃ ds r, spanDigits s = (ds, r) ∧ s = ds ++ r ∧
    ∀ c ∈ ds, isDigit c = true :=
  ⟨_, _, rfl, (List.takeWhile_append_dropWhile).symm, fun _ mem => List.mem_takeWhile_imp mem⟩

theorem isSome_readUnsigned?_pointed {whole places : List Char} (negative : Bool)
    (spanned : spanDigits s = (whole, '.' :: r)) (spanned_places : spanDigits r = (places, e)) :
    (readUnsigned? negative s).isSome =
      (!(whole ++ places).isEmpty && (readExponent? e).isSome) := by
  rw [readUnsigned?, spanned]
  dsimp only
  split
  · next r' shape =>
    obtain rfl : r = r' := (List.cons.inj shape).2
    rw [spanned_places]
    cases whole <;> cases places <;> simp
  · next pointless => exact absurd rfl (pointless r)

theorem isSome_readUnsigned?_whole (negative : Bool) (spanned : spanDigits s = (ds, e))
    (pointless : ∀ r, e ≠ '.' :: r) :
    (readUnsigned? negative s).isSome = (!ds.isEmpty && (readExponent? e).isSome) := by
  rw [readUnsigned?, spanned]
  dsimp only
  split
  · next r => exact absurd rfl (pointless r)
  · cases ds <;> simp

theorem exists_of_readUnsigned? {negative : Bool}
    (read : (readUnsigned? negative s).isSome = true) :
    ∃ m e, Mantissa m ∧ Exponent e ∧ s = m ++ e := by
  obtain ⟨whole, r, spanned, rfl, digits⟩ := exists_spanned s
  by_cases point : ∃ r', r = '.' :: r'
  · obtain ⟨r', rfl⟩ := point
    obtain ⟨places, e, spanned_places, rfl, digits'⟩ := exists_spanned r'
    rw [isSome_readUnsigned?_pointed negative spanned spanned_places, Bool.and_eq_true,
      Bool.not_eq_true', List.isEmpty_eq_false_iff] at read
    refine ⟨whole ++ '.' :: places, e, .pointed whole places ⟨read.1, ?_⟩,
      readExponent?_isSome_iff.mp read.2, ?_⟩
    · intro c mem
      exact (List.mem_append.mp mem).elim (digits c) (digits' c)
    · rw [List.append_assoc, List.cons_append]
  · have pointless : ∀ r', r ≠ '.' :: r' := fun r' shape => point ⟨r', shape⟩
    rw [isSome_readUnsigned?_whole negative spanned pointless, Bool.and_eq_true, Bool.not_eq_true',
      List.isEmpty_eq_false_iff] at read
    exact ⟨whole, r, .whole whole ⟨read.1, digits⟩, readExponent?_isSome_iff.mp read.2, rfl⟩

theorem isSome_readUnsigned? (negative : Bool) (mantissa : Mantissa m) (exponent : Exponent e) :
    (readUnsigned? negative (m ++ e)).isSome = true := by
  have powered := readExponent?_isSome_iff.mpr exponent
  cases mantissa with
  | whole ds digits =>
    have spanned := spanDigits_append digits.digits exponent.noDigitNext
    rw [isSome_readUnsigned?_whole negative spanned exponent.pointless, powered, Bool.and_true,
      Bool.not_eq_true', List.isEmpty_eq_false_iff]
    exact digits.some_digit
  | pointed whole places digits =>
    have digits_whole : ∀ c ∈ whole, isDigit c = true := fun c mem =>
      digits.digits c (List.mem_append_left places mem)
    have digits_places : ∀ c ∈ places, isDigit c = true := fun c mem =>
      digits.digits c (List.mem_append_right whole mem)
    have point : NoDigitNext ('.' :: (places ++ e)) := by
      intro c r shape
      cases shape
      rfl
    have spanned := spanDigits_append digits_whole point
    have spanned_places := spanDigits_append digits_places exponent.noDigitNext
    rw [List.append_assoc, List.cons_append,
      isSome_readUnsigned?_pointed negative spanned spanned_places, powered, Bool.and_true,
      Bool.not_eq_true', List.isEmpty_eq_false_iff]
    exact digits.some_digit

/-- A text is read as a number exactly if it is one by the grammar. -/
theorem read?_isSome_iff (s : String) : (read? s).isSome = true ↔ Numeral s.toList := by
  have read_eq : (read? s).isSome = true ↔
      String.ofList ((takeSign s.toList).2.map lowerChar) ∈ ["inf", "infinity", "nan"] ∨
        (readUnsigned? (takeSign s.toList).1 (takeSign s.toList).2).isSome = true := by
    unfold read?
    dsimp only
    simp only [List.mem_cons, List.not_mem_nil, or_false]
    split
    · next infinite => exact ⟨fun _ => .inl (infinite.imp_right .inl), fun _ => rfl⟩
    · next finite =>
      split
      · next nan => exact ⟨fun _ => .inl (.inr (.inr nan)), fun _ => rfl⟩
      · next valued =>
        refine ⟨.inr, fun read => read.resolve_left ?_⟩
        rintro (inf | infinity | nan)
        · exact finite (.inl inf)
        · exact finite (.inr infinity)
        · exact valued nan
  rw [read_eq]
  -- The sign decides on the value only. What is left of the text is read the same with either.
  generalize s.toList = s
  constructor
  · obtain ⟨sign, signed, parts⟩ := exists_sign s
    generalize (takeSign s).1 = negative
    generalize (takeSign s).2 = r at parts ⊢
    rw [parts]
    rintro (named | read)
    · exact .word sign r signed named
    · obtain ⟨m, e, mantissa, exponent, rfl⟩ := exists_of_readUnsigned? read
      exact .number sign m e signed mantissa exponent
  · intro numeral
    cases numeral with
    | word sign w signed named =>
      rw [takeSign_append signed (unsigned_of_word named)]
      exact .inl named
    | number sign m e signed mantissa exponent =>
      rw [takeSign_append signed (mantissa.unsigned e)]
      exact .inr (isSome_readUnsigned? _ mantissa exponent)

end PrecheckLoad.Decimal
