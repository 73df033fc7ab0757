import PrecheckLoad.Proofs.Threshold.Names
import PrecheckLoad.Proofs.Verdict.Entries

/-!
# What a verdict is the conjunction of

A run passes when every declared threshold holds that no later one is confused with. Since two
declarations are confused only where one looks at a check that is called like the tolerance of the
other, the verdict is the conjunction of all thresholds wherever no check is called that way.
-/
namespace PrecheckLoad

/-- The observed value compares with the bound as declared. -/
def Threshold.Holds (t : Threshold) (l : SampleLog) : Prop :=
  t.condition.comparator.holds (t.observe l (sortedMillis l.samples)) t.condition.bound = true

theorem exists_last {α : Type} {p : α → Prop} {xs : List α} (h : ∃ x ∈ xs, p x) :
    ∃ before x after, xs = before ++ x :: after ∧ p x ∧ ∀ y ∈ after, ¬ p y := by
  induction xs using List.reverseRecOn with
  | nil => simp at h
  | append_singleton xs x ih =>
    by_cases hx : p x
    · exact ⟨xs, x, [], rfl, hx, by simp⟩
    · obtain ⟨y, hy, hp⟩ := h
      have earlier : y ∈ xs := by
        rcases List.mem_append.mp hy with hy | hy
        · exact hy
        · exact absurd (List.mem_singleton.mp hy ▸ hp) hx
      obtain ⟨before, z, after, rfl, hz, rest⟩ := ih ⟨y, earlier, hp⟩
      refine ⟨before, z, after ++ [x], by simp, hz, fun w hw => ?_⟩
      rcases List.mem_append.mp hw with hw | hw
      · exact rest w hw
      · rwa [List.mem_singleton.mp hw]

namespace ThresholdSpec

theorem compileAll_append {xs ys : List ThresholdSpec} {ts : List Threshold} :
    compileAll (xs ++ ys) = .ok ts ↔
      ∃ us vs, compileAll xs = .ok us ∧ compileAll ys = .ok vs ∧ ts = us ++ vs := by
  rw [compileAll]
  rw [List.mapM_append]
  simp only [bind_eq_ok, pure_eq_ok, Except.ok.injEq]
  constructor
  · rintro ⟨us, hu, vs, hv, rfl⟩
    exact ⟨us, vs, hu, hv, rfl⟩
  · rintro ⟨us, vs, hu, hv, rfl⟩
    exact ⟨us, hu, vs, hv, rfl⟩

theorem compileAll_cons {x : ThresholdSpec} {xs : List ThresholdSpec} {ts : List Threshold} :
    compileAll (x :: xs) = .ok ts ↔
      ∃ t us, x.compile = .ok t ∧ compileAll xs = .ok us ∧ ts = t :: us := by
  rw [compileAll]
  rw [List.mapM_cons]
  simp only [bind_eq_ok, pure_eq_ok, Except.ok.injEq]
  constructor
  · rintro ⟨t, ht, us, hu, rfl⟩
    exact ⟨t, us, ht, hu, rfl⟩
  · rintro ⟨t, us, ht, hu, rfl⟩
    exact ⟨t, ht, us, hu, rfl⟩

/-- Around each declaration the compiled thresholds split as the declarations do. -/
theorem compileAll_split {before after : List ThresholdSpec} {s : ThresholdSpec}
    {ts : List Threshold} :
    compileAll (before ++ s :: after) = .ok ts ↔ ∃ us t vs, compileAll before = .ok us ∧
      s.compile = .ok t ∧ compileAll after = .ok vs ∧ ts = us ++ t :: vs := by
  rw [compileAll_append]
  simp only [compileAll_cons]
  constructor
  · rintro ⟨us, ws, hu, ⟨t, vs, ht, hv, rfl⟩, rfl⟩
    exact ⟨us, t, vs, hu, ht, hv, rfl⟩
  · rintro ⟨us, t, vs, hu, ht, hv, rfl⟩
    exact ⟨us, t :: vs, hu, ⟨t, vs, ht, hv, rfl⟩, rfl⟩

theorem exists_split_of_compileAll {specs : List ThresholdSpec} {us vs : List Threshold}
    {t : Threshold} (h : compileAll specs = .ok (us ++ t :: vs)) :
    ∃ before s after, specs = before ++ s :: after ∧ compileAll before = .ok us ∧
      s.compile = .ok t ∧ compileAll after = .ok vs := by
  induction us generalizing specs with
  | nil =>
    cases specs with
    | nil => cases h
    | cons s after =>
      obtain ⟨t', vs', ht, hv, same⟩ := compileAll_cons.mp h
      obtain ⟨rfl, rfl⟩ := List.cons.inj same
      exact ⟨[], s, after, rfl, rfl, ht, hv⟩
  | cons u us ih =>
    cases specs with
    | nil => cases h
    | cons x specs =>
      obtain ⟨u', ws, hx, hrest, same⟩ := compileAll_cons.mp h
      obtain ⟨rfl, rfl⟩ := List.cons.inj same
      obtain ⟨before, s, after, rfl, hb, hs, ha⟩ := ih hrest
      exact ⟨x :: before, s, after, rfl, compileAll_cons.mpr ⟨u, us, hx, hb, rfl⟩, hs, ha⟩

theorem exists_declared {specs : List ThresholdSpec} {ts : List Threshold}
    (h : compileAll specs = .ok ts) {t : Threshold} (ht : t ∈ ts) :
    ∃ s ∈ specs, s.compile = .ok t := by
  obtain ⟨us, vs, rfl⟩ := List.append_of_mem ht
  obtain ⟨before, s, after, rfl, -, hs, -⟩ := exists_split_of_compileAll h
  exact ⟨s, by simp, hs⟩

theorem exists_compiled {specs : List ThresholdSpec} {ts : List Threshold}
    (h : compileAll specs = .ok ts) {s : ThresholdSpec} (hs : s ∈ specs) :
    ∃ t ∈ ts, s.compile = .ok t := by
  obtain ⟨before, after, rfl⟩ := List.append_of_mem hs
  obtain ⟨us, t, vs, -, ht, -, rfl⟩ := compileAll_split.mp h
  exact ⟨t, by simp, ht⟩

end ThresholdSpec

open ThresholdSpec

namespace Verdict

theorem exitCode_eq_zero_iff (v : Verdict) : v.exitCode = 0 ↔ v.passed = true := by
  rw [exitCode]
  cases v.passed <;> decide

/-- Of thresholds with one name the last one counts. -/
theorem evaluate_passed_iff {ts : List Threshold} {l : SampleLog} :
    (evaluate ts l).passed = true ↔ ∀ before t after, ts = before ++ t :: after →
      (∀ x ∈ after, x.name ≠ t.name) → t.Holds l := by
  simp only [evaluate, Verdict.of, List.all_eq_true]
  constructor
  · rintro h before t after rfl last
    refine h _ (mem_entriesOf.mpr ⟨_, _, List.map_append, ?_⟩)
    intro x hx
    obtain ⟨y, hy, rfl⟩ := List.mem_map.mp hx
    exact last y hy
  · intro h e he
    obtain ⟨before, after, hts, last⟩ := mem_entriesOf.mp he
    obtain ⟨us, ws, rfl, rfl, hws⟩ := List.map_eq_append_iff.mp hts
    obtain ⟨t, vs, rfl, rfl, rfl⟩ := List.map_eq_cons_iff.mp hws
    exact h us t vs rfl fun x hx => last _ (List.mem_map.mpr ⟨x, hx, rfl⟩)

/-- Declared, and not confused with a later declaration. -/
def Stands (specs : List ThresholdSpec) (s : ThresholdSpec) : Prop :=
  ∃ before after, specs = before ++ s :: after ∧ ∀ later ∈ after, ¬ Confused s later

/-- Declared, and confused with a later declaration. -/
def IsLost (specs : List ThresholdSpec) (s : ThresholdSpec) : Prop :=
  ∃ before after, specs = before ++ s :: after ∧ ∃ later ∈ after, Confused s later

theorem mem_iff_stands_or_isLost {specs : List ThresholdSpec} {s : ThresholdSpec} :
    s ∈ specs ↔ Stands specs s ∨ IsLost specs s := by
  constructor
  · intro hs
    obtain ⟨before, after, rfl⟩ := List.append_of_mem hs
    by_cases h : ∃ later ∈ after, Confused s later
    · exact Or.inr ⟨before, after, rfl, h⟩
    · exact Or.inl ⟨before, after, rfl, fun later hl hc => h ⟨later, hl, hc⟩⟩
  · rintro (⟨before, after, rfl, -⟩ | ⟨before, after, rfl, -⟩) <;> simp

theorem not_isLost_of_pairwise {specs : List ThresholdSpec} {s : ThresholdSpec}
    (clear : specs.Pairwise fun s later => ¬ Confused s later) : ¬ IsLost specs s := by
  rintro ⟨before, after, rfl, later, hl, confused⟩
  have tail := (List.pairwise_append.mp clear).2.1
  exact (List.pairwise_cons.mp tail).1 later hl confused

theorem passed_iff_standing_hold {specs : List ThresholdSpec} {ts : List Threshold}
    (compiled : compileAll specs = .ok ts) (l : SampleLog) :
    (evaluate ts l).passed = true ↔
      ∀ s t, Stands specs s → s.compile = .ok t → t.Holds l := by
  rw [evaluate_passed_iff]
  constructor
  · rintro h s t ⟨before, after, rfl, clear⟩ ht
    obtain ⟨us, t', vs, hu, ht', hv, rfl⟩ := compileAll_split.mp compiled
    obtain rfl := Except.ok.inj (ht.symm.trans ht')
    by_cases again : ∃ x ∈ vs, x.name = t.name
    · -- the last threshold of this name is entered, and judges like this one
      obtain ⟨vs₁, x, vs₂, rfl, hx, last⟩ := exists_last again
      have entered := h (us ++ t :: vs₁) x vs₂ (by simp) fun y hy same => last y hy (same.trans hx)
      obtain ⟨s', hs', hc⟩ := exists_declared hv (List.mem_append_right vs₁ List.mem_cons_self)
      obtain ⟨condition, observed⟩ := judges_alike ht hc hx.symm (clear s' hs')
      rw [Threshold.Holds]
      rw [condition, observed]
      exact entered
    · exact h us t vs rfl fun x hx same => again ⟨x, hx, same⟩
  · rintro h us t vs rfl last
    obtain ⟨before, s, after, rfl, -, hs, ha⟩ := exists_split_of_compileAll compiled
    refine h s t ⟨before, after, rfl, fun later hl confused => ?_⟩ hs
    obtain ⟨x, hx, hc⟩ := exists_compiled ha hl
    exact last x hx (name_eq_of_confused hs hc confused).symm

/-- A run passes exactly when every threshold holds that stands. So its verdict is the conjunction
of all that were declared exactly where those that are lost hold whenever it passes, and for every
log if no two declarations are confused. -/
theorem passed_iff_declared_hold {specs : List ThresholdSpec} {ts : List Threshold}
    (compiled : compileAll specs = .ok ts) (l : SampleLog) :
    ((evaluate ts l).exitCode = 0 ↔ (evaluate ts l).passed = true) ∧
    ((evaluate ts l).passed = true ↔
      ∀ s t, Stands specs s → s.compile = .ok t → t.Holds l) ∧
    (((evaluate ts l).passed = true ↔ ∀ s t, s ∈ specs → s.compile = .ok t → t.Holds l) ↔
      ((evaluate ts l).passed = true → ∀ s t, IsLost specs s → s.compile = .ok t → t.Holds l)) ∧
    (specs.Pairwise (fun s later => ¬ Confused s later) →
      ((evaluate ts l).passed = true ↔ ∀ s t, s ∈ specs → s.compile = .ok t → t.Holds l)) := by
  have standing := passed_iff_standing_hold compiled l
  have conjunction : ((evaluate ts l).passed = true ↔
        ∀ s t, s ∈ specs → s.compile = .ok t → t.Holds l) ↔
      ((evaluate ts l).passed = true → ∀ s t, IsLost specs s → s.compile = .ok t → t.Holds l) := by
    constructor
    · intro all passed s t lost
      exact all.mp passed s t (mem_iff_stands_or_isLost.mpr (Or.inr lost))
    · intro lost
      refine ⟨fun passed s t hs ht => ?_, fun all => standing.mpr fun s t hs =>
        all s t (mem_iff_stands_or_isLost.mpr (Or.inl hs))⟩
      rcases mem_iff_stands_or_isLost.mp hs with stands | isLost
      · exact standing.mp passed s t stands ht
      · exact lost passed s t isLost ht
  refine ⟨exitCode_eq_zero_iff _, standing, conjunction, fun clear => conjunction.mpr ?_⟩
  exact fun _ s t lost => absurd lost (not_isLost_of_pairwise clear)

/-- A threshold on the check called `tolerate=409`, and one on all checks that tolerates 409. -/
def confusedPair : List ThresholdSpec :=
  [{ metric := "checks", expr := "rate>0.5", check := some "tolerate=409" },
   { metric := "checks", expr := "rate>0.5", tolerate := [409] }]

/-- The check of that name fails, and three others pass. -/
def confusingLog : SampleLog :=
  { checks := [⟨"tolerate=409", false⟩, ⟨"a", true⟩, ⟨"b", true⟩, ⟨"c", true⟩] }

/-- What stands decides, also where a threshold is lost. -/
theorem passed_iff_standing_in_confusedPair : ∃ ts, compileAll confusedPair = .ok ts ∧
    ((evaluate ts confusingLog).passed = true ↔
      ∀ s t, Stands confusedPair s → s.compile = .ok t → t.Holds confusingLog) :=
  ⟨_, rfl, (passed_iff_declared_hold rfl confusingLog).2.1⟩

/-- The run passes although the first of its thresholds does not hold. -/
theorem passed_with_lost_threshold : ∃ ts, compileAll confusedPair = .ok ts ∧
    (evaluate ts confusingLog).passed = true ∧
    ∃ s ∈ confusedPair, ∃ t, s.compile = .ok t ∧ ¬ t.Holds confusingLog := by
  refine ⟨_, rfl, by decide +kernel, _, List.mem_cons_self, _, rfl, ?_⟩
  rw [Threshold.Holds]
  decide +kernel

end Verdict
end PrecheckLoad
