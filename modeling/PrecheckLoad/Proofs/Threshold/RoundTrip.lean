import PrecheckLoad.Proofs.Decimal.RoundTrip
import PrecheckLoad.Proofs.Threshold.Grammar
import PrecheckLoad.Proofs.Verdict.Conjunction

/-!
# Conditions are read back from their texts

The text of a condition is cut where it was put together: neither an aggregation nor a number holds
a sign of comparators, and a minus is none of them. No blank is in any part, and numbers come back
from their plain texts. So whatever way a condition was declared in, its text denotes it, and so
does the expression that a verdict shows for a threshold.
-/
namespace PrecheckLoad

open Text

variable {x : Char} {c c' : Condition} {a : Aggregation} {lhs op rhs : List Char}

namespace Decimal

theorem foreign_of_isBlank (blank : isBlank x = true) : Foreign x where
  digit := by
    by_contra digit
    rw [isBlank_of_isDigit (Bool.eq_true_of_not_eq_false digit)] at blank
    cases blank
  letter := by
    by_contra letter
    rw [isBlank_of_isLetter (Bool.eq_true_of_not_eq_false letter)] at blank
    cases blank
  point := by
    rintro rfl
    cases blank
  plus := by
    rintro rfl
    cases blank
  minus := by
    rintro rfl
    cases blank

theorem foreign_of_sign (sign : x ∈ Comparator.signs) : Foreign x := by
  simp only [Comparator.signs, List.mem_cons, List.not_mem_nil, or_false] at sign
  rcases sign with rfl | rfl | rfl | rfl
  · exact ⟨rfl, rfl, by decide, by decide, by decide⟩
  · exact ⟨rfl, rfl, by decide, by decide, by decide⟩
  · exact ⟨rfl, rfl, by decide, by decide, by decide⟩
  · exact ⟨rfl, rfl, by decide, by decide, by decide⟩

/-- What is read back has no foreign character. -/
theorem Foreign.not_mem_plain (foreign : Foreign x) (v : Float) : x ∉ (plain v).toList := by
  intro mem
  have read := foreign.read?_eq_none mem
  rw [read?_plain] at read
  cases read

theorem trimChars_plain (v : Float) : trimChars (plain v).toList = (plain v).toList := by
  have unpadded : ∀ c ∈ (plain v).toList, isBlank c = false := by
    intro c mem
    by_contra blank
    exact (foreign_of_isBlank (Bool.eq_true_of_not_eq_false blank)).not_mem_plain v mem
  refine trimChars_eq_self ?_ ?_
  · intro c rest shape
    exact unpadded c (shape ▸ List.mem_cons_self)
  · intro front c shape
    exact unpadded c (shape ▸ List.mem_append_right front List.mem_cons_self)

theorem read?_trimmed_plain (v : Float) :
    read? (String.ofList (trimChars (plain v).toList)) = some v := by
  rw [trimChars_plain, String.ofList_toList, read?_plain]

end Decimal

theorem Aggregation.toList_text_percentile (p : Float) : (percentile p).text.toList =
    'p' :: '(' :: ((Decimal.plain p).toList ++ [')']) := by
  rw [text, String.toList_append, String.toList_append]
  rfl

/-- An aggregation that was written is written as its text says. -/
theorem Aggregation.Written.text (written : Written lhs a) : Written a.text.toList a := by
  cases written with
  | avg => exact .avg
  | min => exact .min
  | med => exact .med
  | max => exact .max
  | rate => exact .rate
  | count => exact .count
  | percentile inner p number from_zero to_hundred =>
    rw [toList_text_percentile]
    exact .percentile _ p (Decimal.read?_trimmed_plain p) from_zero to_hundred

theorem Aggregation.trimChars_text (a : Aggregation) : trimChars a.text.toList = a.text.toList := by
  cases a with
  | percentile p =>
    rw [toList_text_percentile]
    refine trimChars_eq_self ?_ ?_
    · intro c rest shape
      cases shape
      rfl
    · intro front c shape
      have closed : ('p' :: '(' :: (Decimal.plain p).toList) ++ [')'] = front ++ [c] := shape
      cases (List.append_inj' closed rfl).2
      rfl
  | avg => rfl
  | min => rfl
  | med => rfl
  | max => rfl
  | rate => rfl
  | count => rfl

theorem signless_of_all (all : lhs.all (fun x => !Condition.isSign x) = true) :
    ∀ x ∈ lhs, x ∉ Comparator.signs := by
  intro x mem
  have other := List.all_eq_true.mp all x mem
  rw [Bool.not_eq_true'] at other
  exact Condition.isSign_eq_false_iff.mp other

theorem Aggregation.signless_text (a : Aggregation) :
    ∀ x ∈ a.text.toList, x ∉ Comparator.signs := by
  cases a with
  | percentile p =>
    intro x mem sign
    have other := (Decimal.foreign_of_sign sign).not_mem_plain p
    rw [toList_text_percentile] at mem
    simp only [List.mem_cons, List.mem_append, List.not_mem_nil, or_false, other, false_or] at mem
    rcases mem with rfl | rfl | rfl
    · exact absurd sign (by decide)
    · exact absurd sign (by decide)
    · exact absurd sign (by decide)
  | avg => exact signless_of_all rfl
  | min => exact signless_of_all rfl
  | med => exact signless_of_all rfl
  | max => exact signless_of_all rfl
  | rate => exact signless_of_all rfl
  | count => exact signless_of_all rfl

theorem Comparator.written_symbol (c : Comparator) : Written c.symbol.toList c := by
  cases c with
  | lt => exact .lt
  | le => exact .le
  | gt => exact .gt
  | ge => exact .ge
  | eq => exact .eq
  | ne => exact .ne

namespace Condition

/-- The text of a condition is cut where it was put together. -/
theorem cut_text (c : Condition) : Cut c.text.toList c.aggregation.text.toList
    c.comparator.symbol.toList (Decimal.plain c.bound).toList where
  whole := by rw [text, String.toList_append, String.toList_append, List.append_assoc]
  before := c.aggregation.signless_text
  some_sign := c.comparator.written_symbol.ne_nil
  signs := by
    have all : c.comparator.symbol.toList.all isSign = true := by cases c.comparator <;> rfl
    exact fun x mem => isSign_iff.mp (List.all_eq_true.mp all x mem)
  longest := fun x first sign =>
    (Decimal.foreign_of_sign sign).not_mem_plain c.bound (List.mem_of_mem_head? first)

/-- A condition that a text denotes is denoted by its own text. -/
theorem Denotes.text (denotes : Denotes lhs op rhs c) : Denotes c.aggregation.text.toList
    c.comparator.symbol.toList (Decimal.plain c.bound).toList c where
  aggregation := by
    rw [Aggregation.trimChars_text]
    exact denotes.aggregation.text
  comparator := c.comparator.written_symbol
  bound := Decimal.read?_trimmed_plain c.bound
  finite := denotes.finite

theorem ofText_text {s : String} (read : ofText s = .ok c) : ofText c.text = .ok c := by
  obtain ⟨lhs, op, rhs, -, denotes⟩ := denotes_of_ofText read
  exact ofText_eq_ok_of_denotes c.cut_text denotes.text

end Condition

/-- What is shown in a verdict for a threshold that was declared. -/
theorem Verdict.exists_threshold_of_outcome {specs : List ThresholdSpec} {ts : List Threshold}
    (compiled : ThresholdSpec.compileAll specs = .ok ts) {l : SampleLog}
    {e : String × ThresholdOutcome} (shown : e ∈ (evaluate ts l).outcomes) :
    ∃ s ∈ specs, ∃ t, s.compile = .ok t ∧ Condition.ofText s.expr = .ok t.condition ∧
      e = (t.name, t.outcome l (sortedMillis l.samples)) := by
  obtain ⟨before, after, entered, -⟩ := mem_entriesOf.mp shown
  have entry : e ∈ ts.map fun t => (t.name, t.outcome l (sortedMillis l.samples)) := by
    rw [entered]
    exact List.mem_append_right before List.mem_cons_self
  obtain ⟨t, mem, rfl⟩ := List.mem_map.mp entry
  obtain ⟨s, declared, made⟩ := ThresholdSpec.exists_declared compiled mem
  obtain ⟨m, c, -, read, -, -, rfl⟩ := ThresholdSpec.compile_eq_ok.mp made
  exact ⟨s, declared, _, made, read, rfl⟩

namespace Condition

/-- The text of an accepted condition is accepted, is cut where it was put together, and stands for
the same aggregation, comparator and bound, which have the same text again. Two accepted texts stand
for the same condition exactly if their conditions have one text. So what a verdict shows for a
threshold denotes the condition that was declared and evaluated. -/
theorem text_rereads :
    (∀ s c, ofText s = .ok c →
      split c.text.toList = (c.aggregation.text.toList, c.comparator.symbol.toList,
        (Decimal.plain c.bound).toList) ∧
      ∃ c', ofText c.text = .ok c' ∧ c'.aggregation = c.aggregation ∧
        c'.comparator = c.comparator ∧ c'.bound = c.bound ∧ c'.text = c.text) ∧
    (∀ s s' c c', ofText s = .ok c → ofText s' = .ok c' → (c.text = c'.text ↔ c = c')) ∧
    ∀ specs ts l e, ThresholdSpec.compileAll specs = .ok ts →
      e ∈ (Verdict.evaluate ts l).outcomes → ∃ s ∈ specs, ∃ t c, s.compile = .ok t ∧
        e = (t.name, t.outcome l (sortedMillis l.samples)) ∧
        ofText s.expr = .ok c ∧ ofText e.2.expression = .ok c ∧ t.condition = c ∧
        e.2.comparator = c.comparator ∧ e.2.bound = c.bound ∧
        e.2.passed = c.comparator.holds e.2.observed c.bound := by
  refine ⟨?_, ?_, ?_⟩
  · intro s c read
    exact ⟨c.cut_text.split_eq, c, ofText_text read, rfl, rfl, rfl, rfl⟩
  · intro s s' c c' read read'
    refine ⟨fun same => ?_, congrArg text⟩
    have reread := ofText_text read
    rw [same, ofText_text read'] at reread
    exact (Except.ok.inj reread).symm
  · intro specs ts l e compiled shown
    obtain ⟨s, declared, t, made, read, rfl⟩ := Verdict.exists_threshold_of_outcome compiled shown
    exact ⟨s, declared, t, t.condition, made, rfl, read, ofText_text read, rfl, rfl, rfl, rfl⟩

/-- One condition in two spellings, with a negative bound behind an equality. -/
def spelled : ThresholdSpec where
  metric := "http_req_duration"
  expr := " p( 99.90 ) === -2.50e2 "

def respelled : String := "p(+.999e2)==-250"

theorem text_rereads_of_spelled : ∃ c t, ofText spelled.expr = .ok c ∧ ofText respelled = .ok c ∧
    c.text = "p(99.9)==-250" ∧ ofText c.text = .ok c ∧
    ThresholdSpec.compileAll [spelled] = .ok [t] ∧
    ∃ e ∈ (Verdict.evaluate [t] {}).outcomes, ofText e.2.expression = .ok c := by
  obtain ⟨reread, injective, shown⟩ := text_rereads
  have written : (ofText spelled.expr).toOption.map text = some "p(99.9)==-250" := by
    decide +kernel
  have rewritten : (ofText respelled).toOption.map text = some "p(99.9)==-250" := by
    decide +kernel
  have named : spelled.compile.toOption.map Threshold.metric = some .latency := by decide +kernel
  obtain ⟨c, read, written⟩ := exists_ok_of_toOption written
  obtain ⟨other, read_other, rewritten⟩ := exists_ok_of_toOption rewritten
  obtain ⟨t, made, -⟩ := exists_ok_of_toOption named
  obtain rfl := (injective _ _ c other read read_other).mp (written.trans rewritten.symm)
  obtain ⟨-, again, read_again, -, -, -, same⟩ := reread _ c read
  obtain rfl := (injective _ _ again c read_again read).mp same
  have compiled : ThresholdSpec.compileAll [spelled] = .ok [t] :=
    ThresholdSpec.compileAll_cons.mpr ⟨t, [], made, rfl, rfl⟩
  have entered : (t.name, t.outcome {} (sortedMillis [])) ∈ (Verdict.evaluate [t] {}).outcomes :=
    List.mem_singleton_self _
  obtain ⟨s, declared, -, denoted, -, -, read_declared, reread_shown, -⟩ :=
    shown _ _ _ _ compiled entered
  obtain rfl := List.mem_singleton.mp declared
  obtain rfl : again = denoted := Except.ok.inj (read.symm.trans read_declared)
  exact ⟨again, t, read, read_other, written, read_again, compiled, _, entered, reread_shown⟩

end Condition
end PrecheckLoad
