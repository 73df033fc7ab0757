import PrecheckLoad.Proofs.Verdict.Conjunction

/-!
# Thresholds on failures

The name of a threshold on failures tells its tolerance and its expression, so two of them share a
name only if they agree in both. Where no two of them do, no entry of a verdict replaces another,
and each is computed with the tolerance of its own declaration.
-/
namespace PrecheckLoad

open Text Statistics

namespace ThresholdSpec

/-- Declared on failures, and compiled. -/
structure OnFailures (s : ThresholdSpec) : Prop where
  metric : trim s.metric = Metric.failed.name
  compiles : ∃ t, s.compile = .ok t

/-- The entry of a declaration on failures: the share of the samples that fail under its own
tolerance, beside its own bound. -/
def failureEntry (s : ThresholdSpec) (c : Condition) (l : SampleLog) : String × ThresholdOutcome :=
  let observed := ratio (failedCount s.tolerate l.samples) l.samples.length
  (s.thresholdName .failed, {
    expression := c.text
    observed
    comparator := c.comparator
    bound := c.bound
    passed := c.comparator.holds observed c.bound })

variable {s t : ThresholdSpec} {a b : Threshold} {l : SampleLog}

theorem compile_eq_of_failed (failed : trim s.metric = Metric.failed.name)
    (compiled : s.compile = .ok a) : ∃ c, Condition.ofText s.expr = .ok c ∧ s.check = none ∧
      a = ⟨s.thresholdName .failed, .failed, c, s.tolerate, none⟩ := by
  obtain ⟨m, c, metric, condition, -, check, rfl⟩ := compile_eq_ok.mp compiled
  obtain rfl : m = .failed := metric_name_injective (metric.symm.trans failed)
  have unrestricted : s.check = none := by
    by_contra restricted
    cases check (Option.isSome_iff_ne_none.mpr restricted)
  refine ⟨c, condition, unrestricted, ?_⟩
  rw [unrestricted]

/-- No check is named on either side, so the label tells the tolerance. -/
theorem name_eq_iff_of_failed (hs : trim s.metric = Metric.failed.name)
    (ht : trim t.metric = Metric.failed.name) (ha : s.compile = .ok a) (hb : t.compile = .ok b) :
    a.name = b.name ↔ s.tolerate = t.tolerate ∧ trim s.expr = trim t.expr := by
  obtain ⟨c, -, free, made⟩ := compile_eq_of_failed hs ha
  obtain ⟨c', -, free', made'⟩ := compile_eq_of_failed ht hb
  have same_metric : a.metric = b.metric := by rw [made, made']
  have same_label : s.label = t.label ↔ s.tolerate = t.tolerate := by
    constructor
    · intro same
      rcases label_eq same with ⟨-, tolerate⟩ | ⟨restricted, -⟩ | ⟨restricted, -⟩
      · exact tolerate free
      · rw [free] at restricted
        cases restricted
      · rw [free'] at restricted
        cases restricted
    · intro same
      rw [label, label, free, free', same]
  rw [name_eq_iff ha hb, same_label]
  exact and_iff_right same_metric

theorem outcome_of_failed (failed : trim s.metric = Metric.failed.name)
    (compiled : s.compile = .ok a) (l : SampleLog) : ∃ c, Condition.ofText s.expr = .ok c ∧
      (a.name, a.outcome l (sortedMillis l.samples)) = s.failureEntry c l := by
  obtain ⟨c, condition, -, rfl⟩ := compile_eq_of_failed failed compiled
  exact ⟨c, condition, rfl⟩

theorem exists_compileAll_of_onFailures {specs : List ThresholdSpec}
    (failures : ∀ s ∈ specs, s.OnFailures) : ∃ ts, compileAll specs = .ok ts ∧ ∀ l,
      List.Forall₂ (fun s e => ∃ c, Condition.ofText s.expr = .ok c ∧ e = s.failureEntry c l) specs
        (ts.map fun t => (t.name, t.outcome l (sortedMillis l.samples))) := by
  induction specs with
  | nil => exact ⟨[], rfl, fun l => .nil⟩
  | cons s specs ih =>
    rw [List.forall_mem_cons] at failures
    obtain ⟨t, compiled⟩ := failures.1.compiles
    obtain ⟨ts, rest, entries⟩ := ih failures.2
    refine ⟨t :: ts, compileAll_cons.mpr ⟨t, ts, compiled, rest, rfl⟩, fun l => ?_⟩
    exact .cons (outcome_of_failed failures.1.metric compiled l) (entries l)

theorem map_fst_of_failureEntries {specs : List ThresholdSpec}
    {entries : List (String × ThresholdOutcome)}
    (made : List.Forall₂ (fun s e => ∃ c, Condition.ofText s.expr = .ok c ∧ e = s.failureEntry c l)
      specs entries) : entries.map Prod.fst = specs.map fun s => s.thresholdName .failed := by
  induction made with
  | nil => rfl
  | cons first _ ih =>
    obtain ⟨c, -, rfl⟩ := first
    rw [List.map_cons, List.map_cons, ih, failureEntry]

/-- Declarations that differ have names that differ. -/
theorem thresholdNames_nodup {specs : List ThresholdSpec} (failures : ∀ s ∈ specs, s.OnFailures)
    (differ : specs.Pairwise fun s t => ¬ (s.tolerate = t.tolerate ∧ trim s.expr = trim t.expr)) :
    (specs.map fun s => s.thresholdName .failed).Nodup := by
  rw [List.Nodup, List.pairwise_map]
  refine differ.imp_of_mem fun {s t} hs ht apart same => apart ?_
  obtain ⟨a, ha⟩ := (failures s hs).compiles
  obtain ⟨b, hb⟩ := (failures t ht).compiles
  refine (name_eq_iff_of_failed (failures s hs).metric (failures t ht).metric ha hb).mp ?_
  obtain ⟨c, -, -, rfl⟩ := compile_eq_of_failed (failures s hs).metric ha
  obtain ⟨c', -, -, rfl⟩ := compile_eq_of_failed (failures t ht).metric hb
  exact same

end ThresholdSpec

open ThresholdSpec

namespace Verdict

theorem passed_iff_all (ts : List Threshold) (l : SampleLog) :
    (evaluate ts l).passed = true ↔ ∀ e ∈ (evaluate ts l).outcomes, e.2.passed = true := by
  rw [evaluate, Verdict.of, List.all_eq_true]

/-- Thresholds on failures share a name only if they agree in their tolerance and, blanks around it
aside, their expression. So a verdict on thresholds of which no two agree in both has one entry for
each, computed with the tolerance of that one, and passes if all of them do. -/
theorem tolerances_kept_apart :
    (∀ (s t : ThresholdSpec) (a b : Threshold), trim s.metric = Metric.failed.name →
      trim t.metric = Metric.failed.name → s.compile = .ok a → t.compile = .ok b →
      (a.name = b.name ↔ s.tolerate = t.tolerate ∧ trim s.expr = trim t.expr)) ∧
    ∀ specs : List ThresholdSpec, (∀ s ∈ specs, s.OnFailures) →
      specs.Pairwise (fun s t => ¬ (s.tolerate = t.tolerate ∧ trim s.expr = trim t.expr)) →
      ∃ ts, compileAll specs = .ok ts ∧ ∀ l, ∃ entries,
        List.Forall₂ (fun s e => ∃ c, Condition.ofText s.expr = .ok c ∧ e = s.failureEntry c l)
          specs entries ∧
        (evaluate ts l).outcomes.Perm entries ∧
        ((evaluate ts l).outcomes.map Prod.fst).Nodup ∧
        ((evaluate ts l).passed = true ↔ ∀ e ∈ entries, e.2.passed = true) := by
  refine ⟨fun s t a b => name_eq_iff_of_failed, fun specs failures differ => ?_⟩
  obtain ⟨ts, compiled, entries⟩ := exists_compileAll_of_onFailures failures
  refine ⟨ts, compiled, fun l => ⟨_, entries l, ?_⟩⟩
  have keys := map_fst_of_failureEntries (entries l)
  have kept : (evaluate ts l).outcomes.Perm
      (ts.map fun t => (t.name, t.outcome l (sortedMillis l.samples))) := by
    refine entriesOf_perm ?_
    rw [keys]
    exact thresholdNames_nodup failures differ
  refine ⟨kept, ?_, ?_⟩
  · rw [(kept.map Prod.fst).nodup_iff, keys]
    exact thresholdNames_nodup failures differ
  · rw [passed_iff_all]
    simp only [kept.mem_iff]

/-- The one tolerates nothing, the other the answers that turn buyers away. -/
def strict : ThresholdSpec where
  metric := "http_req_failed"
  expr := "rate<0.5"

def lenient : ThresholdSpec where
  metric := "http_req_failed"
  expr := " rate<0.5 "
  tolerate := [409, 429]

/-- Two requests of three are turned away. -/
def turnedAwayLog : SampleLog :=
  { samples := [⟨.zero, some 409⟩, ⟨.zero, some 429⟩, ⟨.zero, some 200⟩] }

/-- The one sees two failures in three requests and does not hold, the other sees none and holds. -/
theorem tolerances_kept_apart_of_lenient :
    (∃ a b, strict.compile = .ok a ∧ lenient.compile = .ok b ∧ a.name ≠ b.name) ∧
    ∃ ts, compileAll [strict, lenient] = .ok ts ∧
      (evaluate ts turnedAwayLog).outcomes.length = 2 ∧
      ((evaluate ts turnedAwayLog).outcomes.map Prod.fst).Nodup ∧
      (∃ o, (strict.thresholdName .failed, o) ∈ (evaluate ts turnedAwayLog).outcomes ∧
        o.observed = 2 / 3 ∧ o.passed = false) ∧
      (∃ o, (lenient.thresholdName .failed, o) ∈ (evaluate ts turnedAwayLog).outcomes ∧
        o.observed = 0 ∧ o.passed = true) := by
  obtain ⟨names, entered⟩ := tolerances_kept_apart
  have tolerances :
      ¬ (strict.tolerate = lenient.tolerate ∧ trim strict.expr = trim lenient.expr) := by
    rintro ⟨same, -⟩
    cases same
  have failures : ∀ s ∈ [strict, lenient], s.OnFailures := by
    rw [List.forall_mem_cons, List.forall_mem_singleton]
    exact ⟨⟨rfl, _, rfl⟩, ⟨rfl, _, rfl⟩⟩
  obtain ⟨ts, compiled, entered⟩ :=
    entered [strict, lenient] failures (List.pairwise_pair.mpr tolerances)
  obtain ⟨entries, made, kept, apart, -⟩ := entered turnedAwayLog
  have count := kept.length_eq.trans made.length_eq.symm
  obtain ⟨_, rest, ⟨c, read, rfl⟩, later, rfl⟩ := List.forall₂_cons_left_iff.mp made
  obtain ⟨_, _, ⟨c', read', rfl⟩, -, rfl⟩ := List.forall₂_cons_left_iff.mp later
  refine ⟨⟨_, _, rfl, rfl, fun same => tolerances ?_⟩, ts, compiled, count, apart,
    ⟨_, kept.mem_iff.mpr List.mem_cons_self, ?_, ?_⟩,
    ⟨_, kept.mem_iff.mpr (List.mem_cons_of_mem _ List.mem_cons_self), ?_, ?_⟩⟩
  · exact (names strict lenient _ _ rfl rfl rfl rfl).mp same
  · show ratio 2 3 = 2 / 3
    decide +kernel
  · cases read
    decide +kernel
  · show ratio 0 3 = 0
    decide +kernel
  · cases read'
    decide +kernel

end Verdict
end PrecheckLoad
