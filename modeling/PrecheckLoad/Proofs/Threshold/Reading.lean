import PrecheckLoad.Proofs.Fallible
import PrecheckLoad.Proofs.Text.Parts
import PrecheckLoad.Threshold.Basic

/-!
# What conditions are read from

Reading a condition looks past the blanks around the text, so a condition is a function of what the
text trims to. Its characters come from numbers, comparators and the names of aggregations: a brace
in a text is a reason to refuse it.
-/
namespace PrecheckLoad

open Text

namespace Decimal

/-- Neither a digit nor a letter, a point or a sign. -/
structure Foreign (x : Char) : Prop where
  digit : isDigit x = false
  letter : isLetter x = false
  point : x ≠ '.'
  plus : x ≠ '+'
  minus : x ≠ '-'

variable {x : Char}

theorem Foreign.mem_takeSign (hx : Foreign x) {s : List Char} (h : x ∈ s) : x ∈ (takeSign s).2 := by
  unfold takeSign
  split
  · exact (List.mem_cons.mp h).resolve_left hx.minus
  · exact (List.mem_cons.mp h).resolve_left hx.plus
  · exact h

theorem Foreign.mem_spanDigits (hx : Foreign x) {s : List Char} (h : x ∈ s) :
    x ∈ (spanDigits s).2 := by
  rw [← List.takeWhile_append_dropWhile (p := isDigit) (l := s)] at h
  refine (List.mem_append.mp h).resolve_left fun hw => ?_
  have := List.mem_takeWhile_imp hw
  simp [hx.digit] at this

theorem Foreign.readExponent?_eq_none (hx : Foreign x) {s : List Char} (h : x ∈ s) :
    readExponent? s = none := by
  cases s with
  | nil => simp at h
  | cons c r =>
    rw [readExponent?]
    by_cases hc : c = 'e' ∨ c = 'E'
    · have hxc : x ≠ c := by
        rintro rfl
        rcases hc with rfl | rfl <;> exact absurd hx.letter (by decide)
      have hr := hx.mem_takeSign ((List.mem_cons.mp h).resolve_left hxc)
      have hall : (takeSign r).2.all isDigit = false := by
        rw [List.all_eq_false]
        exact ⟨x, hr, by simp [hx.digit]⟩
      simp [hc, hall]
    · simp [hc]

theorem Foreign.readUnsigned?_eq_none (hx : Foreign x) {s : List Char} (h : x ∈ s)
    (negative : Bool) : readUnsigned? negative s = none := by
  have rest := hx.mem_spanDigits h
  rw [readUnsigned?]
  simp only
  split
  · next r heq =>
    rw [heq] at rest
    have places := hx.mem_spanDigits ((List.mem_cons.mp rest).resolve_left hx.point)
    simp [hx.readExponent?_eq_none places]
  · simp [hx.readExponent?_eq_none rest]

theorem Foreign.lowerChar_eq (hx : Foreign x) : lowerChar x = x := by
  have h := hx.letter
  rw [isLetter] at h
  rw [lowerChar]
  rw [if_neg]
  intro hc
  simp [hc.1, hc.2] at h

/-- A text with a foreign character is no number. -/
theorem Foreign.read?_eq_none (hx : Foreign x) {s : String} (h : x ∈ s.toList) :
    read? s = none := by
  have hr := hx.mem_takeSign h
  have hw : x ∈ (String.ofList ((takeSign s.toList).2.map lowerChar)).toList := by
    rw [String.toList_ofList]
    exact List.mem_map.mpr ⟨x, hr, hx.lowerChar_eq⟩
  have word : ∀ w : String, w.toList.all isLetter = true →
      String.ofList ((takeSign s.toList).2.map lowerChar) ≠ w := by
    intro w letters same
    have := List.all_eq_true.mp letters x (same ▸ hw)
    simp [hx.letter] at this
  rw [read?]
  simp only
  rw [if_neg, if_neg]
  · exact hx.readUnsigned?_eq_none hr _
  · exact word _ (by decide)
  · rintro (h | h)
    · exact word _ (by decide) h
    · exact word _ (by decide) h

end Decimal

namespace Condition

theorem isSign_of_isBlank {c : Char} (h : isBlank c = true) : isSign c = false := by
  by_contra hs
  simp only [isSign, Bool.not_eq_false, Bool.or_eq_true, decide_eq_true_eq] at hs
  rcases hs with ((rfl | rfl) | rfl) | rfl <;> exact absurd h (by decide)

/-- How a text is split is seen from the three parts. -/
theorem split_append {l o r : List Char} (hl : ∀ c ∈ l, isSign c = false)
    (ho : ∀ c ∈ o, isSign c = true) (hr : ∀ c ∈ r.head?, isSign c = false) (hne : o ≠ []) :
    split (l ++ (o ++ r)) = (l, o, r) := by
  have tail : r.takeWhile isSign = [] ∧ r.dropWhile isSign = r := by
    cases r with
    | nil => simp
    | cons c r =>
      have := hr c (by simp)
      simp [this]
  obtain ⟨c, o, rfl⟩ := List.exists_cons_of_ne_nil hne
  have hc : isSign c = true := ho c List.mem_cons_self
  have left : (l ++ (c :: o ++ r)).takeWhile (fun c => !isSign c) = l :=
    takeWhile_cut hl hc (o ++ r)
  have right : (l ++ (c :: o ++ r)).dropWhile (fun c => !isSign c) = c :: o ++ r := by
    rw [List.dropWhile_append_of_pos (by simpa using hl)]
    simp [hc]
  rw [split]
  simp only [left, right]
  rw [List.takeWhile_append_of_pos ho, List.dropWhile_append_of_pos ho, tail.1, tail.2]
  simp

theorem split_parts (s : List Char) :
    s = (split s).1 ++ ((split s).2.1 ++ (split s).2.2) ∧
      (∀ c ∈ (split s).1, isSign c = false) ∧ (∀ c ∈ (split s).2.1, isSign c = true) ∧
      ∀ c ∈ (split s).2.2.head?, isSign c = false := by
  refine ⟨?_, fun c hc => ?_, fun c hc => List.mem_takeWhile_imp hc, fun c hc => ?_⟩
  · simp only [split, List.takeWhile_append_dropWhile]
  · simpa using List.mem_takeWhile_imp hc
  · have hn := List.head?_dropWhile_not isSign (s.dropWhile fun c => !isSign c)
    simp only [split] at hc
    rw [Option.mem_def.mp hc] at hn
    simpa using hn

/-- Without a sign there is nothing behind the signs either. -/
theorem split_rest_eq_nil {s : List Char} (h : (split s).2.1 = []) : (split s).2.2 = [] := by
  simp only [split] at h ⊢
  cases hd : s.dropWhile (fun c => !isSign c) with
  | nil => rfl
  | cons c r =>
    have hn := List.head?_dropWhile_not (fun c => !isSign c) s
    rw [hd] at h hn
    simp_all

/-- Padding moves to the two outer parts. -/
theorem split_padding {b e : List Char} (hb : Padding b) (he : Padding e) (s : List Char) :
    (split (b ++ (s ++ e))).2.1 = (split s).2.1 ∧
      ((split s).2.1 ≠ [] → (split (b ++ (s ++ e))).1 = b ++ (split s).1 ∧
        (split (b ++ (s ++ e))).2.2 = (split s).2.2 ++ e) := by
  obtain ⟨hs, hl, ho, hr⟩ := split_parts s
  by_cases hne : (split s).2.1 = []
  · have none : ∀ c ∈ b ++ (s ++ e), isSign c = false := by
      have right := split_rest_eq_nil hne
      intro c hc
      rw [hs, hne, right] at hc
      simp only [List.append_nil, List.mem_append] at hc
      rcases hc with h | h | h
      · exact isSign_of_isBlank (hb c h)
      · exact hl c h
      · exact isSign_of_isBlank (he c h)
    have gone : (b ++ (s ++ e)).dropWhile (fun c => !isSign c) = [] :=
      List.dropWhile_eq_nil_iff.mpr (by simpa using none)
    refine ⟨?_, fun h => absurd hne h⟩
    rw [hne]
    simp [split, gone]
  · have parts := split_append (l := b ++ (split s).1) (o := (split s).2.1)
      (r := (split s).2.2 ++ e) ?_ ho ?_ hne
    · have whole : b ++ (s ++ e) =
          b ++ (split s).1 ++ ((split s).2.1 ++ ((split s).2.2 ++ e)) :=
        (congrArg (fun x => b ++ (x ++ e)) hs).trans (by simp only [List.append_assoc])
      rw [whole, parts]
      exact ⟨rfl, fun _ => ⟨rfl, rfl⟩⟩
    · intro c hc
      rcases List.mem_append.mp hc with h | h
      · exact isSign_of_isBlank (hb c h)
      · exact hl c h
    · intro c hc
      cases hcase : (split s).2.2 with
      | nil =>
        rw [hcase, List.nil_append] at hc
        exact isSign_of_isBlank (he c (List.mem_of_mem_head? hc))
      | cons a r =>
        rw [hcase] at hc hr
        exact hr c hc

theorem ofText_eq_missing {s : String} (h : (split s.toList).2.1 = []) :
    ofText s = .error .missingComparator := by
  rw [ofText]
  simp only [h, List.isEmpty_nil, if_true]
  rfl

theorem ofText_congr {s t : String} (op : (split s.toList).2.1 = (split t.toList).2.1)
    (sides : (split t.toList).2.1 ≠ [] →
      trimChars (split s.toList).1 = trimChars (split t.toList).1 ∧
      trimChars (split s.toList).2.2 = trimChars (split t.toList).2.2) :
    ofText s = ofText t := by
  by_cases h : (split t.toList).2.1 = []
  · rw [ofText_eq_missing h, ofText_eq_missing (op.trans h)]
  · obtain ⟨hl, hr⟩ := sides h
    unfold ofText
    simp only [op, hl, hr]

/-- Blanks around a condition do not count. -/
theorem ofText_trim (s : String) : ofText (trim s) = ofText s := by
  obtain ⟨b, e, hb, he, hs⟩ := exists_padding s.toList
  have core : (trim s).toList = trimChars s.toList := String.toList_ofList
  obtain ⟨op, sides⟩ := split_padding hb he (trimChars s.toList)
  rw [← hs] at op sides
  apply ofText_congr
  · rw [core, op]
  · intro hne
    rw [op] at hne
    obtain ⟨hl, hr⟩ := sides hne
    rw [core, hl, hr, trimChars_padding_append hb, trimChars_append_padding he]
    exact ⟨rfl, rfl⟩

theorem ofText_eq_of_trim_eq {s t : String} (h : trim s = trim t) : ofText s = ofText t := by
  rw [← ofText_trim s, h, ofText_trim]

/-- The parts that an accepted text is read from. -/
theorem ofText_eq_ok {s : String} {c : Condition} (h : ofText s = .ok c) :
    Comparator.ofText? (String.ofList (split s.toList).2.1) = some c.comparator ∧
      Decimal.read? (String.ofList (trimChars (split s.toList).2.2)) = some c.bound ∧
      Aggregation.ofText (String.ofList (trimChars (split s.toList).1)) = .ok c.aggregation ∧
      c.bound.isFinite = true := by
  rw [ofText] at h
  simp only [throw_bind, pure_bind] at h
  split at h
  · simp at h
  split at h
  · next op hop =>
    split at h
    · next bound hb =>
      split at h
      · next finite =>
        obtain ⟨a, ha, hc⟩ := bind_eq_ok.mp h
        obtain rfl := Except.ok.inj hc
        exact ⟨hop, hb, ha, finite⟩
      · simp at h
    · simp at h
  · simp at h

end Condition

theorem Comparator.symbol_of_ofText? {s : String} {c : Comparator} (h : ofText? s = some c) :
    s.toList.all Condition.isSign = true := by
  rw [ofText?] at h
  split at h
  · next hs => subst hs; decide
  split at h
  · next hs => subst hs; decide
  · have hs := List.find?_some h
    obtain rfl : c.symbol = s := by simpa using hs
    cases c <;> decide

theorem percentileArgument?_eq_some {s inner : List Char} (h : percentileArgument? s = some inner) :
    s = 'p' :: '(' :: (inner ++ [')']) := by
  unfold percentileArgument? at h
  split at h
  · next rest =>
    split at h
    · next hl =>
      obtain ⟨ys, rfl⟩ := List.getLast?_eq_some_iff.mp hl
      obtain rfl := Option.some.inj h
      simp
    · simp at h
  · simp at h

/-- Foreign to conditions altogether. -/
structure Condition.Foreign (x : Char) : Prop extends Decimal.Foreign x where
  blank : isBlank x = false
  sign : isSign x = false
  opening : x ≠ '('
  closing : x ≠ ')'

theorem Condition.foreign_brace : Condition.Foreign '\x7d' where
  digit := by decide
  letter := by decide
  point := by decide
  plus := by decide
  minus := by decide
  blank := by decide
  sign := by decide
  opening := by decide
  closing := by decide

namespace Condition.Foreign

variable {x : Char} (hx : Condition.Foreign x)
include hx

theorem not_mem_number {s : List Char} {v : Float}
    (h : Decimal.read? (String.ofList (trimChars s)) = some v) : x ∉ s := by
  apply not_mem_of_not_mem_trimChars hx.blank
  intro hm
  rw [hx.read?_eq_none (by rwa [String.toList_ofList])] at h
  cases h

theorem not_mem_aggregation {s : List Char} {a : Aggregation}
    (h : Aggregation.ofText (String.ofList s) = .ok a) : x ∉ s := by
  have word : ∀ w : String, w.toList.all isLetter = true → String.ofList s = w → x ∉ s := by
    rintro w letters rfl hm
    rw [String.toList_ofList] at letters
    have := List.all_eq_true.mp letters x hm
    simp [hx.letter] at this
  rw [Aggregation.ofText] at h
  simp only [String.toList_ofList] at h
  split at h
  · next hs => exact word _ (by decide) hs
  split at h
  · next hs => exact word _ (by decide) hs
  split at h
  · next hs => exact word _ (by decide) hs
  split at h
  · next hs => exact word _ (by decide) hs
  split at h
  · next hs => exact word _ (by decide) hs
  split at h
  · next hs => exact word _ (by decide) hs
  split at h
  · cases h
  split at h
  · cases h
  · next inner hi =>
    split at h
    · cases h
    · next p hp =>
      have number := hx.not_mem_number hp
      have hxp : x ≠ 'p' := by rintro rfl; exact absurd hx.letter (by decide)
      rw [percentileArgument?_eq_some hi]
      simp [hxp, hx.opening, hx.closing, number]

theorem not_mem_condition {s : String} {c : Condition} (h : ofText s = .ok c) : x ∉ s.toList := by
  obtain ⟨op, bound, aggregation, -⟩ := ofText_eq_ok h
  have left := not_mem_of_not_mem_trimChars hx.blank (hx.not_mem_aggregation aggregation)
  have right := hx.not_mem_number bound
  have mid : x ∉ (split s.toList).2.1 := by
    intro hm
    have signs := List.all_eq_true.mp (Comparator.symbol_of_ofText? op)
    have := signs x (by rwa [String.toList_ofList])
    simp [hx.sign] at this
  rw [(split_parts s.toList).1]
  simp [left, mid, right]

end Condition.Foreign
end PrecheckLoad
