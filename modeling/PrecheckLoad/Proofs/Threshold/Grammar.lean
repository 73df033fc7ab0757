import Mathlib.Tactic.SplitIfs
import PrecheckLoad.Proofs.Decimal.Grammar
import PrecheckLoad.Proofs.Threshold.Names

/-!
# The grammar of thresholds

A declaration names a metric and writes a condition: an aggregation, a comparator and a bound, of
which the comparator is the first run of comparator signs, as long as it goes. What is compiled is
exactly what follows this grammar, and it compiles to the one condition that it denotes. So the
aggregations that are not made of latencies never meet any.
-/
namespace PrecheckLoad

open Text

/-- The signs that comparators are made of. -/
def Comparator.signs : List Char := ['<', '>', '=', '!']

/-- The ways to write a comparator. -/
inductive Comparator.Written : List Char → Comparator → Prop
  | lt : Written ['<'] .lt
  | le : Written ['<', '='] .le
  | gt : Written ['>'] .gt
  | ge : Written ['>', '='] .ge
  | eq : Written ['=', '='] .eq
  | strict_eq : Written ['=', '=', '='] .eq
  | ne : Written ['!', '='] .ne
  | strict_ne : Written ['!', '=', '='] .ne

/-- The ways to write an aggregation. -/
inductive Aggregation.Written : List Char → Aggregation → Prop
  | avg : Written ['a', 'v', 'g'] .avg
  | min : Written ['m', 'i', 'n'] .min
  | med : Written ['m', 'e', 'd'] .med
  | max : Written ['m', 'a', 'x'] .max
  | rate : Written ['r', 'a', 't', 'e'] .rate
  | count : Written ['c', 'o', 'u', 'n', 't'] .count
  | percentile (inner : List Char) (p : Float)
    (number : Decimal.read? (String.ofList (trimChars inner)) = some p)
    (from_zero : 0 ≤ p) (to_hundred : p ≤ 100) :
    Written ('p' :: '(' :: (inner ++ [')'])) (.percentile p)

/-- A text cut at its first run of signs, which is as long as can be. -/
structure Condition.Cut (s lhs op rhs : List Char) : Prop where
  whole : s = lhs ++ (op ++ rhs)
  before : ∀ c ∈ lhs, c ∉ Comparator.signs
  some_sign : op ≠ []
  signs : ∀ c ∈ op, c ∈ Comparator.signs
  longest : ∀ c ∈ rhs.head?, c ∉ Comparator.signs

/-- What the three parts of a text say, blanks around the outer two aside. -/
structure Condition.Denotes (lhs op rhs : List Char) (c : Condition) : Prop where
  aggregation : Aggregation.Written (trimChars lhs) c.aggregation
  comparator : Comparator.Written op c.comparator
  bound : Decimal.read? (String.ofList (trimChars rhs)) = some c.bound
  finite : c.bound.isFinite = true

/-- What each metric can be aggregated to. -/
inductive Metric.Measured : Metric → Aggregation → Prop
  | percentile (p : Float) : Measured .latency (.percentile p)
  | avg : Measured .latency .avg
  | min : Measured .latency .min
  | med : Measured .latency .med
  | max : Measured .latency .max
  | failed : Measured .failed .rate
  | checks : Measured .checks .rate
  | iterations : Measured .iterations .count

/-- A declaration says that a condition is put on a metric. -/
structure ThresholdSpec.Declares (s : ThresholdSpec) (m : Metric) (c : Condition) : Prop where
  metric : trim s.metric = m.name
  condition : ∃ lhs op rhs, Condition.Cut s.expr.toList lhs op rhs ∧ Condition.Denotes lhs op rhs c
  measured : m.Measured c.aggregation
  check : s.check.isSome = true → m = .checks

variable {s : List Char} {lhs op rhs lhs' op' rhs' : List Char} {c c' : Condition}

theorem Condition.isSign_iff {x : Char} : isSign x = true ↔ x ∈ Comparator.signs := by
  simp [isSign, Comparator.signs, or_assoc]

theorem Condition.isSign_eq_false_iff {x : Char} : isSign x = false ↔ x ∉ Comparator.signs := by
  rw [← isSign_iff, Bool.not_eq_true]

theorem Comparator.ofText?_eq_some_iff {c : Comparator} :
    ofText? (String.ofList op) = some c ↔ Written op c := by
  constructor
  · intro found
    unfold ofText? at found
    split at found
    · next same =>
      cases found
      rw [String.ofList_eq.mp same]
      exact .strict_eq
    · split at found
      · next same =>
        cases found
        rw [String.ofList_eq.mp same]
        exact .strict_ne
      · have kept := List.find?_some found
        have same : c.symbol = String.ofList op := of_decide_eq_true kept
        rw [String.ofList_eq.mp same.symm]
        cases c with
        | lt => exact .lt
        | le => exact .le
        | gt => exact .gt
        | ge => exact .ge
        | eq => exact .eq
        | ne => exact .ne
  · intro written
    cases written <;> decide

theorem Comparator.Written.unique {c c' : Comparator} (h : Written op c) (h' : Written op c') :
    c = c' := by
  have same := (ofText?_eq_some_iff.mpr h).symm.trans (ofText?_eq_some_iff.mpr h')
  exact Option.some.inj same

theorem Comparator.Written.ne_nil {c : Comparator} (h : Written op c) : op ≠ [] := by
  rintro rfl
  cases h

theorem percentileArgument?_eq_some_iff {inner : List Char} :
    percentileArgument? s = some inner ↔ s = 'p' :: '(' :: (inner ++ [')']) := by
  refine ⟨percentileArgument?_eq_some, ?_⟩
  rintro rfl
  simp [percentileArgument?]

/-- A text in the form of a percentile is no word, so its number decides. -/
theorem Aggregation.ofText_percentile {inner : List Char} {p : Float}
    (number : Decimal.read? (String.ofList (trimChars inner)) = some p)
    (from_zero : 0 ≤ p) (to_hundred : p ≤ 100) :
    ofText (String.ofList ('p' :: '(' :: (inner ++ [')']))) = .ok (.percentile p) := by
  -- Only a word that begins with the same letter could be meant, and there is none.
  have apart : ∀ w : String, w.toList.head? ≠ some 'p' →
      String.ofList ('p' :: '(' :: (inner ++ [')'])) ≠ w := by
    rintro w other rfl
    rw [String.toList_ofList] at other
    exact other rfl
  have filled : ¬ (String.ofList ('p' :: '(' :: (inner ++ [')']))).isEmpty = true := by
    rw [String.isEmpty_iff]
    exact apart "" (by decide)
  have argument : percentileArgument? ('p' :: '(' :: (inner ++ [')'])) = some inner :=
    percentileArgument?_eq_some_iff.mpr rfl
  rw [ofText, if_neg (apart "avg" (by decide)), if_neg (apart "min" (by decide)),
    if_neg (apart "med" (by decide)), if_neg (apart "max" (by decide)),
    if_neg (apart "rate" (by decide)), if_neg (apart "count" (by decide)), if_neg filled,
    String.toList_ofList, argument]
  dsimp only
  rw [number]
  dsimp only
  rw [if_pos]
  rw [Bool.and_eq_true, decide_eq_true_eq, decide_eq_true_eq]
  exact ⟨from_zero, to_hundred⟩

theorem Aggregation.ofText_eq_ok_iff {a : Aggregation} :
    ofText (String.ofList s) = .ok a ↔ Written s a := by
  constructor
  · intro read
    unfold ofText at read
    split_ifs at read with avg min med max rate count empty
    · cases read
      rw [String.ofList_eq.mp avg]
      exact .avg
    · cases read
      rw [String.ofList_eq.mp min]
      exact .min
    · cases read
      rw [String.ofList_eq.mp med]
      exact .med
    · cases read
      rw [String.ofList_eq.mp max]
      exact .max
    · cases read
      rw [String.ofList_eq.mp rate]
      exact .rate
    · cases read
      rw [String.ofList_eq.mp count]
      exact .count
    · rw [String.toList_ofList] at read
      split at read
      · cases read
      · next inner argument =>
        split at read
        · cases read
        · next p number =>
          split at read
          · next within =>
            cases read
            rw [Bool.and_eq_true, decide_eq_true_eq, decide_eq_true_eq] at within
            rw [percentileArgument?_eq_some_iff.mp argument]
            exact .percentile inner p number within.1 within.2
          · cases read
  · intro written
    cases written with
    | avg => rfl
    | min => rfl
    | med => rfl
    | max => rfl
    | rate => rfl
    | count => rfl
    | percentile inner p number from_zero to_hundred =>
      exact ofText_percentile number from_zero to_hundred

theorem Aggregation.Written.unique {a a' : Aggregation} (h : Written s a) (h' : Written s a') :
    a = a' := by
  have same := (ofText_eq_ok_iff.mpr h).symm.trans (ofText_eq_ok_iff.mpr h')
  exact Except.ok.inj same

theorem Metric.supports_iff {m : Metric} {a : Aggregation} :
    m.supports a = true ↔ m.Measured a := by
  constructor
  · intro supported
    cases m with
    | latency =>
      cases a with
      | percentile p => exact .percentile p
      | avg => exact .avg
      | min => exact .min
      | med => exact .med
      | max => exact .max
      | rate => cases supported
      | count => cases supported
    | failed =>
      cases a with
      | rate => exact .failed
      | _ => cases supported
    | checks =>
      cases a with
      | rate => exact .checks
      | _ => cases supported
    | iterations =>
      cases a with
      | count => exact .iterations
      | _ => cases supported
  · intro measured
    cases measured <;> rfl

/-- What an aggregation makes of latencies. Neither a rate nor a count is made of any. -/
def Aggregation.statistic? (a : Aggregation) (sorted : List Float) : Option Float :=
  match a with
  | .percentile p => some (Statistics.percentile sorted p)
  | .avg => some (Statistics.mean sorted)
  | .med => some (Statistics.median sorted)
  | .min => sorted.head?
  | .max => sorted.getLast?
  | .rate => none
  | .count => none

theorem Metric.Measured.statistic?_eq {a : Aggregation} (measured : Metric.latency.Measured a)
    {sorted : List Float} (some_latency : sorted ≠ []) :
    a.statistic? sorted = some (a.apply sorted) := by
  have filled : ¬ sorted.isEmpty = true := by
    rw [List.isEmpty_iff]
    exact some_latency
  unfold Aggregation.apply
  rw [if_neg filled]
  cases measured with
  | percentile p => rfl
  | avg => rfl
  | med => rfl
  | min =>
    obtain ⟨x, rest, rfl⟩ := List.exists_cons_of_ne_nil some_latency
    rfl
  | max =>
    show sorted.getLast? = some (sorted.getLast?.getD 0)
    rw [List.getLast?_eq_some_getLast some_latency]
    rfl

namespace Condition

theorem Cut.split_eq (cut : Cut s lhs op rhs) : split s = (lhs, op, rhs) := by
  rw [cut.whole]
  exact split_append (fun x mem => isSign_eq_false_iff.mpr (cut.before x mem))
    (fun x mem => isSign_iff.mpr (cut.signs x mem))
    (fun x mem => isSign_eq_false_iff.mpr (cut.longest x mem)) cut.some_sign

theorem cut_of_split (parts : split s = (lhs, op, rhs)) (some_sign : op ≠ []) :
    Cut s lhs op rhs := by
  obtain ⟨whole, before, signs, longest⟩ := split_parts s
  rw [parts] at whole before signs longest
  exact ⟨whole, fun x mem => isSign_eq_false_iff.mp (before x mem), some_sign,
    fun x mem => isSign_iff.mp (signs x mem), fun x mem => isSign_eq_false_iff.mp (longest x mem)⟩

/-- There is one way to cut a text. -/
theorem Cut.unique (h : Cut s lhs op rhs) (h' : Cut s lhs' op' rhs') :
    lhs = lhs' ∧ op = op' ∧ rhs = rhs' := by
  have same := h.split_eq.symm.trans h'.split_eq
  cases same
  exact ⟨rfl, rfl, rfl⟩

/-- Its parts denote one condition at most. -/
theorem Denotes.unique (h : Denotes lhs op rhs c) (h' : Denotes lhs op rhs c') : c = c' := by
  have aggregation := h.aggregation.unique h'.aggregation
  have comparator := h.comparator.unique h'.comparator
  have bound := Option.some.inj (h.bound.symm.trans h'.bound)
  cases c
  cases c'
  cases aggregation
  cases comparator
  cases bound
  rfl

theorem ofText_eq_ok_of_denotes {text : String} (cut : Cut text.toList lhs op rhs)
    (denotes : Denotes lhs op rhs c) : ofText text = .ok c := by
  have started : op.isEmpty = false := List.isEmpty_eq_false_iff.mpr cut.some_sign
  have comparator := Comparator.ofText?_eq_some_iff.mpr denotes.comparator
  have aggregation := Aggregation.ofText_eq_ok_iff.mpr denotes.aggregation
  unfold ofText
  simp only [cut.split_eq, started, comparator, denotes.bound, denotes.finite, aggregation,
    Bool.false_eq_true, if_false, if_true, pure_bind, ok_bind]
  rfl

theorem denotes_of_ofText {text : String} (read : ofText text = .ok c) :
    ∃ lhs op rhs, Cut text.toList lhs op rhs ∧ Denotes lhs op rhs c := by
  obtain ⟨op, bound, aggregation, finite⟩ := ofText_eq_ok read
  have comparator := Comparator.ofText?_eq_some_iff.mp op
  have some_sign : (split text.toList).2.1 ≠ [] := comparator.ne_nil
  exact ⟨_, _, _, cut_of_split rfl some_sign, Aggregation.ofText_eq_ok_iff.mp aggregation,
    comparator, bound, finite⟩

theorem ofText_eq_ok_iff {text : String} : ofText text = .ok c ↔
    ∃ lhs op rhs, Cut text.toList lhs op rhs ∧ Denotes lhs op rhs c := by
  constructor
  · exact denotes_of_ofText
  · rintro ⟨lhs, op, rhs, cut, denotes⟩
    exact ofText_eq_ok_of_denotes cut denotes

end Condition

namespace ThresholdSpec

variable {spec : ThresholdSpec} {m m' : Metric} {t : Threshold}

/-- What a declaration says is all that is compiled from it. -/
theorem compile_eq_ok_iff_declares : spec.compile = .ok t ↔
    ∃ m c, spec.Declares m c ∧ t = ⟨spec.thresholdName m, m, c, spec.tolerate, spec.check⟩ := by
  rw [compile_eq_ok]
  constructor
  · rintro ⟨m, c, metric, condition, supported, check, rfl⟩
    exact ⟨m, c, ⟨metric, Condition.ofText_eq_ok_iff.mp condition,
      Metric.supports_iff.mp supported, check⟩, rfl⟩
  · rintro ⟨m, c, ⟨metric, condition, measured, check⟩, rfl⟩
    exact ⟨m, c, metric, Condition.ofText_eq_ok_iff.mpr condition,
      Metric.supports_iff.mpr measured, check, rfl⟩

theorem Declares.unique (h : spec.Declares m c) (h' : spec.Declares m' c') : m = m' ∧ c = c' := by
  constructor
  · exact metric_name_injective (h.metric.symm.trans h'.metric)
  · obtain ⟨lhs, op, rhs, cut, denotes⟩ := h.condition
    obtain ⟨lhs', op', rhs', cut', denotes'⟩ := h'.condition
    obtain ⟨rfl, rfl, rfl⟩ := cut.unique cut'
    exact denotes.unique denotes'

/-- A declaration compiles exactly if it follows the grammar, whatever its texts. There is one way
to cut its expression, what it says is one condition on one metric, and that is what it compiles to.
So a compiled threshold on latencies is on a statistic of them, which is what it observes. The
numbers in it are texts of their own grammar. -/
theorem compiles_iff_declares (s : ThresholdSpec) :
    ((∃ t, s.compile = .ok t) ↔ ∃ m c, s.Declares m c) ∧
    (∀ lhs op rhs lhs' op' rhs', Condition.Cut s.expr.toList lhs op rhs →
      Condition.Cut s.expr.toList lhs' op' rhs' → lhs = lhs' ∧ op = op' ∧ rhs = rhs') ∧
    (∀ t, s.compile = .ok t →
      t = ⟨s.thresholdName t.metric, t.metric, t.condition, s.tolerate, s.check⟩ ∧
      s.Declares t.metric t.condition ∧
      (∀ m c, s.Declares m c → m = t.metric ∧ c = t.condition) ∧
      (t.metric = .latency →
        t.condition.aggregation ≠ .rate ∧ t.condition.aggregation ≠ .count ∧
        ∀ l sorted, sorted ≠ [] →
          t.condition.aggregation.statistic? sorted = some (t.observe l sorted))) ∧
    ∀ text, (Decimal.read? text).isSome = true ↔ Decimal.Numeral text.toList := by
  refine ⟨?_, fun _ _ _ _ _ _ cut cut' => cut.unique cut', ?_, Decimal.read?_isSome_iff⟩
  · constructor
    · rintro ⟨t, compiled⟩
      obtain ⟨m, c, declares, -⟩ := compile_eq_ok_iff_declares.mp compiled
      exact ⟨m, c, declares⟩
    · rintro ⟨m, c, declares⟩
      exact ⟨_, compile_eq_ok_iff_declares.mpr ⟨m, c, declares, rfl⟩⟩
  · intro t compiled
    obtain ⟨m, c, declares, rfl⟩ := compile_eq_ok_iff_declares.mp compiled
    refine ⟨rfl, declares, fun m' c' declares' => declares'.unique declares, ?_⟩
    rintro rfl
    have measured := declares.measured
    refine ⟨?_, ?_, fun l sorted some_latency => measured.statistic?_eq some_latency⟩
    · intro rate
      rw [rate] at measured
      cases measured
    · intro count
      rw [count] at measured
      cases measured

/-- Blanks may stand around the metric, the aggregation, its percentage and the bound. -/
def spaced : ThresholdSpec where
  metric := " http_req_duration "
  expr := " p( 99.9 ) <= +3e2 "

theorem compiles_iff_declares_of_spaced : ∃ t, spaced.compile = .ok t ∧
    spaced.Declares t.metric t.condition ∧ t.condition.aggregation ≠ .rate := by
  have named : spaced.compile.toOption.map Threshold.metric = some .latency := by decide +kernel
  obtain ⟨t, compiled, metric⟩ := exists_ok_of_toOption named
  obtain ⟨-, declares, -, latencies⟩ := (compiles_iff_declares spaced).2.2.1 t compiled
  exact ⟨t, compiled, declares, (latencies metric).1⟩

end ThresholdSpec
end PrecheckLoad
