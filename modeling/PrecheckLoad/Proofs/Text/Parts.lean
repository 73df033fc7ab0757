import Mathlib.Data.List.TakeWhile
import PrecheckLoad.Text.Basic

/-!
# Cutting and joining texts

Trimming takes blanks off both ends and nothing else, so padding a text does not change what it
trims to. A text that is cut at its first or its last separator has one reading only, and so has a
list of parts that were joined by a separator none of them contains, such as numerals by commas.
The bytes of a text say all about it: decoding them gives the text back.
-/
namespace PrecheckLoad.Text

section Ends

variable {drop : Char → Bool} {c : Char}

/-- What is stripped of the end. -/
theorem exists_stripped_end (drop : Char → Bool) (s : List Char) :
    ∃ e, (∀ c ∈ e, drop c = true) ∧ s.dropWhile drop = stripChars drop s ++ e := by
  refine ⟨((s.dropWhile drop).reverse.takeWhile drop).reverse, fun c hc => ?_, ?_⟩
  · exact List.mem_takeWhile_imp (List.mem_reverse.mp hc)
  · rw [stripChars, ← List.reverse_append, List.takeWhile_append_dropWhile, List.reverse_reverse]

/-- What is stripped stands in front of what is left, or behind it. -/
theorem exists_stripped (drop : Char → Bool) (s : List Char) :
    ∃ b e, (∀ c ∈ b, drop c = true) ∧ (∀ c ∈ e, drop c = true) ∧
      s = b ++ (stripChars drop s ++ e) := by
  obtain ⟨e, he, left⟩ := exists_stripped_end drop s
  refine ⟨s.takeWhile drop, e, fun c hc => List.mem_takeWhile_imp hc, he, ?_⟩
  rw [← left, List.takeWhile_append_dropWhile]

theorem mem_stripChars_iff (kept : drop c = false) {s : List Char} :
    c ∈ stripChars drop s ↔ c ∈ s := by
  obtain ⟨b, e, hb, he, hs⟩ := exists_stripped drop s
  have notBefore : c ∉ b := fun mem => by simp [hb c mem] at kept
  have notAfter : c ∉ e := fun mem => by simp [he c mem] at kept
  conv => rhs; rw [hs]
  simp only [List.mem_append, notBefore, notAfter, false_or, or_false]

/-- Only the front is stripped of a text with an end that is kept. -/
theorem stripChars_eq_dropWhile_iff {s : List Char} (some_left : s.dropWhile drop ≠ []) :
    stripChars drop s = s.dropWhile drop ↔ ∀ c ∈ s.getLast?, drop c = false := by
  have ends : (s.dropWhile drop).getLast? = s.getLast? := by
    conv => rhs; rw [← List.takeWhile_append_dropWhile (p := drop) (l := s)]
    rw [List.getLast?_append, List.getLast?_eq_some_getLast some_left, Option.some_or]
  rw [← ends, ← List.head?_reverse, stripChars, List.reverse_eq_iff, List.dropWhile_eq_self_iff]
  cases (s.dropWhile drop).reverse with
  | nil => simp
  | cons c cs => simp

theorem dropWhile_append_kept {t : List Char} (kept : t.dropWhile drop = t) (s : List Char) :
    (s ++ t).dropWhile drop = s.dropWhile drop ++ t := by
  rw [List.dropWhile_append, kept]
  split
  · next none => rw [List.isEmpty_iff.mp none, List.nil_append]
  · rfl

theorem exists_dropTrailing (c : Char) (s : String) :
    ∃ e, (∀ x ∈ e, x = c) ∧ s.toList = (dropTrailing c s).toList ++ e := by
  refine ⟨(s.toList.reverse.takeWhile (· == c)).reverse, ?_, ?_⟩
  · intro x mem
    simpa using List.mem_takeWhile_imp (List.mem_reverse.mp mem)
  · rw [dropTrailing, String.toList_ofList, ← List.reverse_append, List.takeWhile_append_dropWhile,
      List.reverse_reverse]

end Ends

/-- Padding: blanks and nothing else. -/
def Padding (s : List Char) : Prop := ∀ c ∈ s, isBlank c = true

theorem dropWhile_padding {b : List Char} (hb : Padding b) : b.dropWhile isBlank = [] :=
  List.dropWhile_eq_nil_iff.mpr hb

theorem trimChars_padding_append {b : List Char} (hb : Padding b) (s : List Char) :
    trimChars (b ++ s) = trimChars s := by
  unfold trimChars stripChars
  rw [List.dropWhile_append_of_pos hb]

theorem trimChars_append_padding {b : List Char} (hb : Padding b) (s : List Char) :
    trimChars (s ++ b) = trimChars s := by
  unfold trimChars stripChars
  rw [List.dropWhile_append]
  by_cases h : s.dropWhile isBlank = []
  · simp [h, dropWhile_padding hb]
  · have hr : ∀ c ∈ b.reverse, isBlank c = true := fun c hc => hb c (List.mem_reverse.mp hc)
    simp [h, List.dropWhile_append_of_pos hr]

/-- A text is what it trims to, padded on both sides. -/
theorem exists_padding (s : List Char) :
    ∃ b e, Padding b ∧ Padding e ∧ s = b ++ (trimChars s ++ e) :=
  exists_stripped isBlank s

theorem not_mem_of_not_mem_trimChars {c : Char} {s : List Char} (hc : isBlank c = false)
    (h : c ∉ trimChars s) : c ∉ s :=
  (mem_stripChars_iff hc).not.mp h

/-- A text without blanks at its ends is left as it is. -/
theorem trimChars_eq_self {s : List Char} (first : ∀ c rest, s = c :: rest → isBlank c = false)
    (last : ∀ front c, s = front ++ [c] → isBlank c = false) : trimChars s = s := by
  have kept : ∀ {t : List Char}, (∀ c rest, t = c :: rest → isBlank c = false) →
      t.dropWhile isBlank = t := by
    intro t head
    cases t with
    | nil => rfl
    | cons c rest => exact List.dropWhile_cons_of_neg (by simp [head c rest rfl])
  have turned : ∀ c rest, s.reverse = c :: rest → isBlank c = false := by
    intro c rest shape
    refine last rest.reverse c ?_
    rw [← List.reverse_cons, ← shape, List.reverse_reverse]
  rw [trimChars, stripChars, kept first, kept turned, List.reverse_reverse]

theorem toNat_of_isDigit {c : Char} (digit : isDigit c = true) : 48 ≤ c.toNat ∧ c.toNat ≤ 57 := by
  simpa [isDigit, Char.le_def, UInt32.le_iff_toNat_le] using digit

theorem isBlank_of_isDigit {c : Char} (digit : isDigit c = true) : isBlank c = false := by
  have range := toNat_of_isDigit digit
  simp only [isBlank, inRanges, blankRanges]
  simp
  omega

theorem isBlank_of_isLetter {c : Char} (letter : isLetter c = true) : isBlank c = false := by
  have range : 97 ≤ c.toNat ∧ c.toNat ≤ 122 ∨ 65 ≤ c.toNat ∧ c.toNat ≤ 90 := by
    simpa [isLetter, Char.le_def, UInt32.le_iff_toNat_le] using letter
  simp only [isBlank, inRanges, blankRanges]
  simp
  omega

/-- What is kept ends where something is not, or with the text. -/
theorem takeWhile_ended {keep : Char → Bool} {a r : List Char} (kept : ∀ c ∈ a, keep c = true)
    (ended : ∀ c ∈ r.head?, keep c = false) : (a ++ r).takeWhile keep = a := by
  rw [List.takeWhile_append_of_pos kept]
  cases r with
  | nil => simp
  | cons c r => simp [ended c rfl]

theorem dropWhile_ended {keep : Char → Bool} {a r : List Char} (kept : ∀ c ∈ a, keep c = true)
    (ended : ∀ c ∈ r.head?, keep c = false) : (a ++ r).dropWhile keep = r := by
  have whole := List.takeWhile_append_dropWhile (p := keep) (l := a ++ r)
  rw [takeWhile_ended kept ended] at whole
  exact List.append_cancel_left whole

theorem cut_unique (keep : Char → Bool) {a a' r r' : List Char}
    (kept : ∀ c ∈ a, keep c = true) (ended : ∀ c ∈ r.head?, keep c = false)
    (kept' : ∀ c ∈ a', keep c = true) (ended' : ∀ c ∈ r'.head?, keep c = false)
    (same : a ++ r = a' ++ r') : a = a' ∧ r = r' := by
  have left : a = a' := by
    rw [← takeWhile_ended kept ended, same, takeWhile_ended kept' ended']
  subst left
  exact ⟨rfl, List.append_cancel_left same⟩

theorem takeWhile_cut {p : Char → Bool} {xs : List Char} {a : Char}
    (hx : ∀ c ∈ xs, p c = false) (ha : p a = true) (ys : List Char) :
    (xs ++ a :: ys).takeWhile (fun c => !p c) = xs :=
  takeWhile_ended (by simpa using hx) (by simpa using ha)

/-- The first separator of a text stands at one place only. -/
theorem first_cut_unique {p : Char → Bool} {xs xs' ys ys' : List Char} {a a' : Char}
    (hx : ∀ c ∈ xs, p c = false) (hx' : ∀ c ∈ xs', p c = false) (ha : p a = true)
    (ha' : p a' = true) (same : xs ++ a :: ys = xs' ++ a' :: ys') :
    xs = xs' ∧ a :: ys = a' :: ys' :=
  cut_unique (fun c => !p c) (by simpa using hx) (by simpa using ha) (by simpa using hx')
    (by simpa using ha') same

/-- And so does the last one. -/
theorem last_cut_unique {xs xs' ys ys' : List Char} {a : Char} (hy : a ∉ ys) (hy' : a ∉ ys')
    (same : xs ++ a :: ys = xs' ++ a :: ys') : xs = xs' ∧ ys = ys' := by
  have turned : ys.reverse ++ a :: xs.reverse = ys'.reverse ++ a :: xs'.reverse := by
    simpa using congrArg List.reverse same
  have free : ∀ {zs : List Char}, a ∉ zs → ∀ c ∈ zs.reverse, (c == a) = false := by
    intro zs hz c hc
    exact beq_eq_false_iff_ne.mpr fun h => hz (h ▸ List.mem_reverse.mp hc)
  obtain ⟨h, ht⟩ := first_cut_unique (p := (· == a)) (free hy) (free hy') (by simp) (by simp) turned
  exact ⟨List.reverse_inj.mp (List.cons.inj ht).2, List.reverse_inj.mp h⟩

theorem splitAtChar_append {sep : Char} {s : List Char} (h : sep ∉ s) (t : List Char) :
    splitAtChar sep (s ++ sep :: t) = s :: splitAtChar sep t := by
  induction s with
  | nil => simp [splitAtChar]
  | cons c s ih =>
    obtain ⟨hc, hs⟩ := not_or.mp (fun hm => h (List.mem_cons.mpr hm))
    simp [splitAtChar, Ne.symm hc, ih hs]

theorem splitAtChar_single {sep : Char} {s : List Char} (h : sep ∉ s) :
    splitAtChar sep s = [s] := by
  induction s with
  | nil => rfl
  | cons c s ih =>
    obtain ⟨hc, hs⟩ := not_or.mp (fun hm => h (List.mem_cons.mpr hm))
    simp [splitAtChar, Ne.symm hc, ih hs]

/-- Splitting undoes joining. -/
theorem splitAtChar_joinWith {sep : Char} {parts : List String} (hne : parts ≠ [])
    (free : ∀ s ∈ parts, sep ∉ s.toList) :
    splitAtChar sep (joinWith (String.singleton sep) parts).toList = parts.map String.toList := by
  induction parts with
  | nil => exact absurd rfl hne
  | cons s rest ih =>
    have hs : sep ∉ s.toList := free s List.mem_cons_self
    cases rest with
    | nil => simpa [joinWith] using splitAtChar_single hs
    | cons s' rest =>
      have tail := ih (by simp) (fun x hx => free x (List.mem_cons_of_mem s hx))
      simp only [joinWith, String.toList_append, String.toList_singleton, List.append_assoc,
        List.singleton_append, splitAtChar_append hs, List.map_cons]
      simpa using tail

theorem joinWith_injective {sep : Char} {xs ys : List String} (hx : xs ≠ []) (hy : ys ≠ [])
    (freex : ∀ s ∈ xs, sep ∉ s.toList) (freey : ∀ s ∈ ys, sep ∉ s.toList)
    (same : joinWith (String.singleton sep) xs = joinWith (String.singleton sep) ys) : xs = ys := by
  have parts : xs.map String.toList = ys.map String.toList := by
    rw [← splitAtChar_joinWith hx freex, same, splitAtChar_joinWith hy freey]
  exact List.map_inj_right (fun _ _ h => String.toList_injective h) |>.mp parts

theorem not_mem_toString_nat {c : Char} (hc : c.isDigit = false) (n : Nat) :
    c ∉ (toString n).toList := by
  intro h
  rw [Nat.toString_eq_ofList_toDigits, String.toList_ofList] at h
  have := Nat.isDigit_of_mem_toDigits (by decide) (by decide) h
  simp [hc] at this

/-- Bytes are listed from where the loop has got to, behind those it has gone through. -/
theorem toList_loop_eq (b : ByteArray) (i : Nat) (done : List UInt8) :
    ByteArray.toList.loop b i done = done.reverse ++ b.data.toList.drop i := by
  fun_induction ByteArray.toList.loop b i done with
  | case1 i done more ih =>
    have inside : i < b.data.toList.length := more
    have here : b.get! i = b.data.toList[i] := by
      show b.data[i]! = b.data.toList[i]
      rw [getElem!_pos b.data i more, Array.getElem_toList]
    rw [ih, here, List.reverse_cons, List.append_assoc, List.singleton_append,
      ← List.drop_eq_getElem_cons inside]
  | case2 i done passed =>
    have beyond : b.data.toList.length ≤ i := Nat.le_of_not_lt passed
    rw [List.drop_eq_nil_of_le beyond, List.append_nil]

theorem toArray_toList_data (b : ByteArray) : b.toList.toArray = b.data := by
  have listed : b.toList = b.data.toList := toList_loop_eq b 0 []
  rw [listed]

/-- A text is decoded from its bytes. -/
theorem decode?_encode (s : String) : decode? (encode s) = some s := by
  have bytes : (⟨(encode s).toArray⟩ : ByteArray) = s.toByteArray := by
    show (⟨s.toByteArray.toList.toArray⟩ : ByteArray) = s.toByteArray
    rw [toArray_toList_data]
  unfold decode? String.fromUTF8?
  rw [bytes, dif_pos s.isValidUTF8]
  rfl

end PrecheckLoad.Text
