import Mathlib.Data.List.DropRight
import PrecheckLoad.Json.Reader
import PrecheckLoad.Proofs.Decimal.Digits

/-!
# Leaves that are read back

What is written of a string, a natural number or a word, and the blanks around it, is read as what
it was. Only a number needs to know what follows it, since it has no end of its own.
-/
namespace PrecheckLoad.Json

open Text Decimal

variable {c : Char} {s rest blanks : List Char} {n : Nat}

def Blanks (s : List Char) : Prop := ∀ c ∈ s, isSpace c = true

theorem Blanks.nil : Blanks [] := fun _ mem => absurd mem List.not_mem_nil

theorem skipSpace_append (h : Blanks blanks) (s : List Char) :
    skipSpace (blanks ++ s) = skipSpace s := by
  rw [skipSpace, skipSpace, List.dropWhile_append_of_pos h]

theorem skipSpace_cons (h : isSpace c = false) (s : List Char) :
    skipSpace (c :: s) = c :: s := by
  rw [skipSpace, List.dropWhile_cons_of_neg (by simp [h])]

theorem skipSpace_skipSpace (s : List Char) : skipSpace (skipSpace s) = skipSpace s := by
  rw [skipSpace, skipSpace, List.dropWhile_idempotent]

theorem blanks_newLine (depth : Nat) : Blanks (newLine depth) := by
  intro c mem
  rcases List.mem_cons.mp mem with rfl | mem
  · decide
  · rw [List.eq_of_mem_replicate mem]
    decide

theorem hexValue?_hexDigit (h : n < 16) : hexValue? (hexDigit n) = some n := by
  revert n
  decide

theorem hexUnit?_control (h : n < 32) :
    hexUnit? '0' '0' (hexDigit (n / 16)) (hexDigit (n % 16)) = some n := by
  have high := hexValue?_hexDigit (show n / 16 < 16 by omega)
  have low := hexValue?_hexDigit (show n % 16 < 16 by omega)
  have zero : hexValue? '0' = some 0 := by decide
  simp only [hexUnit?, high, low, zero, Option.bind_eq_bind, Option.bind_some]
  exact congrArg some (by omega)

theorem pushUnit_control (done : List Char) (h : c.toNat < 32) :
    Partial.pushUnit ⟨done, none, false⟩ c.toNat = ⟨c :: done, none, false⟩ := by
  rw [Partial.pushUnit, if_neg (by omega), if_neg (by omega), Char.ofNat_toNat]
  rfl

theorem readString_printed (done : List Char) (quote : c ≠ '"') (slash : c ≠ '\\')
    (printed : ¬ c.toNat < 32) (s : List Char) :
    readString ⟨done, none, false⟩ (c :: s) = readString ⟨c :: done, none, false⟩ s := by
  rw [readString.eq_def]
  split
  case h_1 same => cases same
  case h_2 same => exact absurd (List.cons.inj same).1 quote
  case h_7 same =>
    obtain ⟨rfl, rfl⟩ := List.cons.inj same
    dsimp only
    rw [if_neg printed]
    rfl
  all_goals exact absurd (List.cons.inj (by assumption)).1 slash

/-- What a character is written as is read as that character. -/
theorem readString_escapeChar (done : List Char) (c : Char) (s : List Char) :
    readString ⟨done, none, false⟩ (escapeChar c ++ s) = readString ⟨c :: done, none, false⟩ s := by
  by_cases letter : c ∈ ['"', '\\', '\n', '\r', '\t', '\x08', '\x0c']
  · simp only [List.mem_cons, List.not_mem_nil, or_false] at letter
    rcases letter with rfl | rfl | rfl | rfl | rfl | rfl | rfl
    all_goals rfl
  · simp only [List.mem_cons, List.not_mem_nil, or_false, not_or] at letter
    obtain ⟨quote, slash, line, back, tab, erase, page⟩ := letter
    simp only [escapeChar, quote, slash, line, back, tab, erase, page, if_false]
    by_cases control : c.toNat < 32
    · rw [if_pos control]
      simp only [List.cons_append, List.nil_append]
      rw [readString]
      simp only [hexUnit?_control control, pushUnit_control done control]
    · rw [if_neg control]
      exact readString_printed done quote slash control s

theorem readString_escaped (done cs s : List Char) :
    readString ⟨done, none, false⟩ (cs.flatMap escapeChar ++ '"' :: s) =
      (.string (String.ofList (done.reverse ++ cs)), some s) := by
  induction cs generalizing done with
  | nil =>
    rw [List.append_nil]
    rfl
  | cons c cs ih =>
    rw [List.flatMap_cons, List.append_assoc, readString_escapeChar, ih, List.reverse_cons,
      List.append_assoc]
    rfl

/-- A string is read back, whatever its characters and whatever follows it. -/
theorem readString_stringChars (t : String) (s : List Char) :
    ∃ body, stringChars t = '"' :: body ∧ readString {} (body ++ s) = (.string t, some s) := by
  refine ⟨t.toList.flatMap escapeChar ++ ['"'], rfl, ?_⟩
  rw [List.append_assoc, List.singleton_append]
  have read := readString_escaped [] t.toList s
  rwa [List.reverse_nil, List.nil_append, String.ofList_toList] at read

/-- What follows a number cannot be taken for a part of it. -/
def EndsNumber (rest : List Char) : Prop :=
  ∀ c s, rest = c :: s → isDigit c = false ∧ c ≠ '.' ∧ c ≠ 'e' ∧ c ≠ 'E'

theorem EndsNumber.nil : EndsNumber [] := by
  intro c s same
  cases same

theorem EndsNumber.cons (digit : isDigit c = false) (point : c ≠ '.') (lower : c ≠ 'e')
    (upper : c ≠ 'E') : EndsNumber (c :: s) := by
  intro c' s' same
  obtain ⟨rfl, rfl⟩ := List.cons.inj same
  exact ⟨digit, point, lower, upper⟩

theorem EndsNumber.noDigitNext (h : EndsNumber rest) : NoDigitNext rest :=
  fun c s same => (h c s same).1

/-- Digits whose number fits 64 bits are all taken into the significand. -/
theorem foldl_pushWhole {k : Nat} {ds : List Char} (fits : readOn k ds < 2 ^ 64) :
    ds.foldl Significand.pushWhole ⟨k, 0, false⟩ = ⟨readOn k ds, 0, false⟩ := by
  induction ds generalizing k with
  | nil => rfl
  | cons c ds ih =>
    rw [readOn_cons] at fits ⊢
    have small : k * 10 + digitValue c < 2 ^ 64 := Nat.lt_of_le_of_lt (le_readOn _ ds) fits
    have step : Significand.pushWhole ⟨k, 0, false⟩ c = ⟨k * 10 + digitValue c, 0, false⟩ := by
      rw [Significand.pushWhole]
      dsimp only
      rw [if_neg]
      simp only [Bool.false_or, decide_eq_true_eq]
      exact Nat.not_le.mpr small
    rw [List.foldl_cons, step, ih fits]

theorem value?_digitChars (fits : n < 2 ^ 64) :
    NumberText.value? ⟨false, digitChars n, none, none⟩ = some (.int n) := by
  have whole : Significand.of (digitChars n) [] = ⟨n, 0, false⟩ := by
    have read := readOn_digitChars n
    rw [Significand.of, foldl_pushWhole (by rw [read]; exact fits), read]
    rfl
  rw [NumberText.value?]
  simp only [Option.getD_none, whole]
  rfl

theorem readPlaces_of_endsNumber {t : NumberText} (h : EndsNumber rest) :
    readPlaces t rest = (.ofNumber t.value?, some rest) := by
  cases rest with
  | nil => rfl
  | cons c s =>
    obtain ⟨-, point, lower, upper⟩ := h c s rfl
    rw [readPlaces.eq_def]
    split
    · next same => exact absurd (List.cons.inj same).1 point
    rw [readAfterDigits.eq_def]
    split
    · next same => exact absurd (List.cons.inj same).1 lower
    · next same => exact absurd (List.cons.inj same).1 upper
    · rfl

/-- A natural number that fits 64 bits is read back. -/
theorem readNumber_digitChars (fits : n < 2 ^ 64) (ends : EndsNumber rest) :
    readNumber false (digitChars n ++ rest) = (.number (.int n), some rest) := by
  have value := value?_digitChars fits
  have digits : ∀ c ∈ digitChars n, isDigit c = true := fun c => isDigit_of_mem_digitChars
  rcases Nat.eq_zero_or_pos n with rfl | pos
  · rw [digitChars_zero] at value ⊢
    have places := readPlaces_of_endsNumber (t := ⟨false, ['0'], none, none⟩) ends
    rw [value] at places
    cases rest with
    | nil => exact places
    | cons c s =>
      have other := (ends c s rfl).1
      rw [List.singleton_append, readNumber]
      simp only [other, Bool.false_eq_true, if_false]
      exact places
  · cases shape : digitChars n with
    | nil => exact absurd shape (digitChars_ne_nil n)
    | cons d ds =>
      have first : isDigit d = true := digits d (by rw [shape]; exact List.mem_cons_self)
      have nonzero : d ≠ '0' := by
        rintro rfl
        exact digitChars_ne_zero_cons pos shape
      have split := spanDigits_append digits ends.noDigitNext
      have places := readPlaces_of_endsNumber (t := ⟨false, d :: ds, none, none⟩) ends
      rw [shape] at split value
      rw [value] at places
      rw [List.cons_append] at split ⊢
      rw [readNumber]
      · simp only [first, if_true, split]
        exact places
      · exact nonzero

end PrecheckLoad.Json
