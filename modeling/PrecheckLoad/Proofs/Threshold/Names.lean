import Mathlib
import PrecheckLoad.Proofs.Threshold.Reading
import PrecheckLoad.Samples

/-!
# Names of thresholds

The name of a compiled threshold tells its metric, its label and its expression, and each can be
read off the name again. What cannot be told is where a label comes from: a check may be called like
a tolerance. Apart from that, two thresholds with one name judge every log alike.
-/
namespace PrecheckLoad

open Text

theorem Metric.ofText_eq_ok {text : String} {m : Metric} :
    Metric.ofText text = .ok m ↔ trim text = m.name := by
  unfold Metric.ofText
  constructor
  · intro h
    simp only at h
    split at h
    · next m' hm =>
      obtain rfl := Except.ok.inj h
      have := List.find?_some hm
      simpa [eq_comm] using this
    · cases h
  · intro h
    simp only [h]
    cases m <;> rfl

namespace ThresholdSpec

/-- A compiled threshold keeps what was declared. -/
theorem compile_eq_ok {s : ThresholdSpec} {t : Threshold} :
    s.compile = .ok t ↔ ∃ m c, trim s.metric = m.name ∧ Condition.ofText s.expr = .ok c ∧
      m.supports c.aggregation = true ∧ (s.check.isSome = true → m = .checks) ∧
      t = ⟨s.thresholdName m, m, c, s.tolerate, s.check⟩ := by
  rw [compile]
  simp only [bind_eq_ok, mapError_eq_ok, Metric.ofText_eq_ok, throw_bind]
  constructor
  · rintro ⟨m, hm, c, hc, h⟩
    split at h
    · next hs =>
      split at h
      · cases h
      · next hk =>
        refine ⟨m, c, hm, hc, hs, fun hcheck => ?_, (Except.ok.inj h).symm⟩
        simpa [hcheck] using hk
    · cases h
  · rintro ⟨m, c, hm, hc, hs, hk, rfl⟩
    refine ⟨m, hm, c, hc, ?_⟩
    have hk' : ¬ (s.check.isSome && m != .checks) = true := by
      intro h
      obtain ⟨hcheck, hne⟩ := Bool.and_eq_true_iff.mp h
      simp [hk hcheck] at hne
    rw [if_pos hs, if_neg hk']
    rfl

/-- How a tolerance is told in a name. -/
def toleranceLabel (tolerate : List UInt16) : String :=
  "tolerate=" ++ joinWith "," (tolerate.map fun t => toString t.toNat)

/-- What a name says in braces, if it has any. -/
def label (s : ThresholdSpec) : Option String :=
  match s.check with
  | some check => some check
  | none => if s.tolerate.isEmpty then none else some (toleranceLabel s.tolerate)

theorem qualifier_eq (s : ThresholdSpec) :
    s.qualifier = (s.label.map fun l => "\x7b" ++ l ++ "\x7d").getD "" := by
  rw [qualifier, label, toleranceLabel]
  cases s.check with
  | some check => rfl
  | none =>
    by_cases h : s.tolerate.isEmpty
    · simp [h]
    · have opened : "\x7btolerate=" = "\x7b" ++ "tolerate=" := by decide
      simp only [h, Bool.false_eq_true, if_false, Option.map_some, Option.getD_some]
      rw [opened, String.append_assoc, String.append_assoc, String.append_assoc,
        String.append_assoc]

theorem toleranceLabel_injective {xs ys : List UInt16} (hx : xs ≠ []) (hy : ys ≠ [])
    (h : toleranceLabel xs = toleranceLabel ys) : xs = ys := by
  have numerals : joinWith (String.singleton ',') (xs.map fun t => toString t.toNat) =
      joinWith (String.singleton ',') (ys.map fun t => toString t.toNat) := by
    apply String.toList_injective
    have := congrArg String.toList h
    simp only [toleranceLabel, String.toList_append] at this
    exact List.append_cancel_left this
  have free : ∀ zs : List UInt16, ∀ s ∈ zs.map (fun t => toString t.toNat), ',' ∉ s.toList := by
    intro zs s hs
    obtain ⟨t, -, rfl⟩ := List.mem_map.mp hs
    exact not_mem_toString_nat (by decide) _
  have texts :=
    joinWith_injective (by simpa using hx) (by simpa using hy) (free xs) (free ys) numerals
  exact (List.map_inj_right fun _ _ same => UInt16.toNat_inj.mp (Nat.repr_inj.mp same)).mp texts

/-- The first looks at the check that is called like the tolerance of the second. -/
def NamedAfter (s t : ThresholdSpec) : Prop :=
  s.check = some (toleranceLabel t.tolerate) ∧ t.check = none ∧ t.tolerate ≠ []

theorem label_eq {s t : ThresholdSpec} (h : s.label = t.label) :
    s.check = t.check ∧ (s.check = none → s.tolerate = t.tolerate) ∨
      NamedAfter s t ∨ NamedAfter t s := by
  unfold label at h
  cases hs : s.check with
  | some c =>
    cases ht : t.check with
    | some d => simp_all
    | none =>
      rw [hs, ht] at h
      by_cases hn : t.tolerate.isEmpty
      · simp [hn] at h
      · simp only [hn] at h
        exact Or.inr (Or.inl ⟨hs.trans h, ht, by simpa using hn⟩)
  | none =>
    cases ht : t.check with
    | some d =>
      rw [hs, ht] at h
      by_cases hn : s.tolerate.isEmpty
      · simp [hn] at h
      · simp only [hn] at h
        exact Or.inr (Or.inr ⟨ht.trans h.symm, hs, by simpa using hn⟩)
    | none =>
      rw [hs, ht] at h
      refine Or.inl ⟨rfl, fun _ => ?_⟩
      by_cases hn : s.tolerate = []
      · by_cases hm : t.tolerate = []
        · rw [hn, hm]
        · simp [hn, hm] at h
      · by_cases hm : t.tolerate = []
        · simp [hn, hm] at h
        · simp only [List.isEmpty_iff, hn, hm, if_false, Option.some.injEq] at h
          exact toleranceLabel_injective hn hm h

theorem label_of_namedAfter {s t : ThresholdSpec} (h : NamedAfter s t) : s.label = t.label := by
  obtain ⟨hs, ht, hn⟩ := h
  simp [label, hs, ht, hn]

/-- The characters of a name after its metric. -/
def nameTail (s : ThresholdSpec) : List Char :=
  match s.label with
  | none => ':' :: ' ' :: trimChars s.expr.toList
  | some l => '\x7b' :: (l.toList ++ '\x7d' :: ':' :: ' ' :: trimChars s.expr.toList)

theorem toList_thresholdName (s : ThresholdSpec) (m : Metric) :
    (s.thresholdName m).toList = m.name.toList ++ s.nameTail := by
  have colon : ": ".toList = [':', ' '] := by decide
  have opened : "\x7b".toList = ['\x7b'] := by decide
  have closed : "\x7d".toList = ['\x7d'] := by decide
  rw [thresholdName, nameTail]
  rw [qualifier_eq]
  cases s.label with
  | none => simp [trim, colon]
  | some l => simp [trim, colon, opened, closed]

/-- A sign after which the metric of a name is over. -/
def endsMetric (c : Char) : Bool := c = ':' || c = '\x7b'

theorem nameTail_eq_cons (s : ThresholdSpec) :
    ∃ c r, s.nameTail = c :: r ∧ endsMetric c = true := by
  rw [nameTail]
  cases s.label with
  | none => exact ⟨_, _, rfl, by decide⟩
  | some l => exact ⟨_, _, rfl, by decide⟩

/-- The last closing brace of a name ends its label, as no condition has one. -/
theorem nameTail_injective {s t : ThresholdSpec} (hs : '\x7d' ∉ trimChars s.expr.toList)
    (ht : '\x7d' ∉ trimChars t.expr.toList) (h : s.nameTail = t.nameTail) :
    s.label = t.label ∧ trim s.expr = trim t.expr := by
  unfold nameTail at h
  unfold trim
  cases hl : s.label with
  | none =>
    cases hm : t.label with
    | none => simp_all
    | some l => simp [hl, hm] at h
  | some l =>
    cases hm : t.label with
    | none => simp [hl, hm] at h
    | some l' =>
      simp only [hl, hm, List.cons.injEq, true_and] at h
      obtain ⟨label, rest⟩ := last_cut_unique (by simpa using hs) (by simpa using ht) h
      simp only [List.cons.injEq, true_and] at rest
      rw [String.toList_injective label, rest]
      exact ⟨rfl, rfl⟩

theorem metric_name_free (m : Metric) : ∀ c ∈ m.name.toList, endsMetric c = false := by
  have free : m.name.toList.all (fun c => !endsMetric c) = true := by cases m <;> decide
  intro c hc
  have := List.all_eq_true.mp free c hc
  rwa [Bool.not_eq_true'] at this

theorem metric_name_injective {m m' : Metric} (h : m.name = m'.name) : m = m' := by
  cases m <;> cases m' <;> first | rfl | exact absurd h (by decide)

theorem brace_not_mem_expr {s : ThresholdSpec} {c : Condition}
    (h : Condition.ofText s.expr = .ok c) :
    '\x7d' ∉ trimChars s.expr.toList := by
  rw [← Condition.ofText_trim] at h
  have := Condition.foreign_brace.not_mem_condition h
  rwa [trim, String.toList_ofList] at this

theorem name_eq_iff {s t : ThresholdSpec} {a b : Threshold} (ha : s.compile = .ok a)
    (hb : t.compile = .ok b) :
    a.name = b.name ↔ a.metric = b.metric ∧ s.label = t.label ∧ trim s.expr = trim t.expr := by
  obtain ⟨m, c, -, hc, -, -, rfl⟩ := compile_eq_ok.mp ha
  obtain ⟨m', c', -, hc', -, -, rfl⟩ := compile_eq_ok.mp hb
  constructor
  · intro h
    have texts := congrArg String.toList h
    simp only [toList_thresholdName] at texts
    obtain ⟨x, r, hx, hxe⟩ := nameTail_eq_cons s
    obtain ⟨y, r', hy, hye⟩ := nameTail_eq_cons t
    rw [hx, hy] at texts
    obtain ⟨metric, tail⟩ :=
      first_cut_unique (metric_name_free m) (metric_name_free m') hxe hye texts
    rw [← hx, ← hy] at tail
    obtain ⟨label, expr⟩ := nameTail_injective (brace_not_mem_expr hc) (brace_not_mem_expr hc') tail
    exact ⟨metric_name_injective (String.toList_injective metric), label, expr⟩
  · rintro ⟨metric, label, expr⟩
    simp only at metric
    simp only [thresholdName, qualifier_eq, metric, label, expr]

/-- Two declarations on checks that get one name: one looks at the check that is called like the
tolerance of the other, which looks at all checks. -/
def Confused (s t : ThresholdSpec) : Prop :=
  trim s.metric = Metric.checks.name ∧ trim t.metric = Metric.checks.name ∧
    trim s.expr = trim t.expr ∧ (NamedAfter s t ∨ NamedAfter t s)

theorem name_eq_of_confused {s t : ThresholdSpec} {a b : Threshold} (ha : s.compile = .ok a)
    (hb : t.compile = .ok b) (h : Confused s t) : a.name = b.name := by
  obtain ⟨hs, ht, expr, named⟩ := h
  refine (name_eq_iff ha hb).mpr ⟨?_, ?_, expr⟩
  · obtain ⟨m, c, hm, -, -, -, rfl⟩ := compile_eq_ok.mp ha
    obtain ⟨m', c', hm', -, -, -, rfl⟩ := compile_eq_ok.mp hb
    exact (metric_name_injective (hm.symm.trans hs)).trans
      (metric_name_injective (hm'.symm.trans ht)).symm
  · rcases named with h | h
    · exact label_of_namedAfter h
    · exact (label_of_namedAfter h).symm

/-- A threshold on checks does not look at its tolerance. -/
theorem observe_congr {a b : Threshold} (metric : a.metric = b.metric)
    (condition : a.condition = b.condition) (check : a.check = b.check)
    (tolerated : a.metric ≠ .checks → a.tolerated = b.tolerated) (l : SampleLog)
    (sorted : List Float) : a.observe l sorted = b.observe l sorted := by
  unfold Threshold.observe
  rw [← metric, condition, check]
  cases hm : a.metric with
  | failed => rw [tolerated (by simp [hm])]
  | latency => rfl
  | checks => rfl
  | iterations => rfl

/-- Declarations with one name that are not confused judge every log alike. -/
theorem judges_alike {s t : ThresholdSpec} {a b : Threshold} (ha : s.compile = .ok a)
    (hb : t.compile = .ok b) (same : a.name = b.name) (clear : ¬ Confused s t) :
    a.condition = b.condition ∧ ∀ l sorted, a.observe l sorted = b.observe l sorted := by
  obtain ⟨metric, label, expr⟩ := (name_eq_iff ha hb).mp same
  obtain ⟨m, c, hm, hc, -, hk, rfl⟩ := compile_eq_ok.mp ha
  obtain ⟨m', c', hm', hc', -, hk', rfl⟩ := compile_eq_ok.mp hb
  simp only at metric
  subst metric
  have condition : c = c' := by
    rw [Condition.ofText_eq_of_trim_eq expr, hc'] at hc
    exact (Except.ok.inj hc).symm
  refine ⟨condition, fun l sorted => ?_⟩
  rcases label_eq label with ⟨check, tolerate⟩ | named
  · apply observe_congr
    · rfl
    · exact condition
    · exact check
    · intro hne
      apply tolerate
      by_contra hsome
      exact hne (hk (Option.isSome_iff_ne_none.mpr hsome))
  · -- a check is restricted on one side, so the metric is that of checks on both
    have checks : m = .checks := by
      rcases named with h | h
      · exact hk (by rw [h.1]; rfl)
      · exact hk' (by rw [h.1]; rfl)
    exact absurd ⟨checks ▸ hm, checks ▸ hm', expr, named⟩ clear

end ThresholdSpec
end PrecheckLoad
