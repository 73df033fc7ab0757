import PrecheckLoad.Proofs.Report.Tallies

/-!
# The order of recording does not show

Users record in any order. Counts do not depend on it, tables are sorted by their keys, and the
arithmetic on latencies, which is sensitive to order, is done on the one sorted list they have.
-/
namespace PrecheckLoad

variable {l l' : SampleLog} {samples samples' : List Sample} {results results' : List CheckResult}

/-- Words have one sorted list, since two that stand in neither order are the same. -/
theorem mergeSort_words_perm {xs ys : List UInt64} (h : xs.Perm ys) :
    xs.mergeSort (· ≤ ·) = ys.mergeSort (· ≤ ·) := by
  let le (a b : UInt64) : Bool := a ≤ b
  have trans : ∀ a b c, le a b = true → le b c = true → le a c = true := by
    intro a b c hab hbc
    exact decide_eq_true (UInt64.le_trans (of_decide_eq_true hab) (of_decide_eq_true hbc))
  have total : ∀ a b, (le a b || le b a) = true := by
    intro a b
    simp only [le, Bool.or_eq_true, decide_eq_true_eq]
    exact UInt64.le_total a b
  have antisymm : ∀ a b, le a b = true → le b a = true → a = b := by
    intro a b hab hba
    exact UInt64.le_antisymm (of_decide_eq_true hab) (of_decide_eq_true hba)
  have perm : (xs.mergeSort le).Perm (ys.mergeSort le) :=
    (List.mergeSort_perm xs le).trans (h.trans (List.mergeSort_perm ys le).symm)
  exact perm.eq_of_pairwise (fun a b _ _ => antisymm a b)
    (List.pairwise_mergeSort trans total xs) (List.pairwise_mergeSort trans total ys)

theorem sortedMillis_perm (h : samples.Perm samples') :
    sortedMillis samples = sortedMillis samples' := by
  rw [sortedMillis, sortedMillis, Statistics.sortFloats, Statistics.sortFloats]
  exact congrArg _ (mergeSort_words_perm ((h.map _).map _))

theorem relevantChecks_perm (check : Option String) (h : results.Perm results') :
    (relevantChecks check results).Perm (relevantChecks check results') := by
  cases check with
  | none => exact h
  | some name => exact h.filter _

theorem Threshold.observe_perm (t : Threshold) (sorted : List Float)
    (samples : l.samples.Perm l'.samples) (checks : l.checks.Perm l'.checks) :
    t.observe l sorted = t.observe l' sorted := by
  rw [observe, observe]
  cases t.metric with
  | latency => rfl
  | failed =>
    dsimp only
    rw [failedCount, failedCount, samples.countP_eq, samples.length_eq]
  | checks =>
    have relevant := relevantChecks_perm t.check checks
    dsimp only
    rw [relevant.countP_eq, relevant.length_eq]
  | iterations =>
    dsimp only
    rw [samples.length_eq]

theorem Verdict.evaluate_perm (ts : List Threshold) (samples : l.samples.Perm l'.samples)
    (checks : l.checks.Perm l'.checks) : evaluate ts l = evaluate ts l' := by
  rw [evaluate, evaluate]
  rw [sortedMillis_perm samples]
  refine congrArg Verdict.of (List.map_congr_left fun t _ => ?_)
  rw [Threshold.outcome, Threshold.outcome, t.observe_perm _ samples checks]

theorem statusCounts_perm (h : samples.Perm samples') :
    statusCounts samples = statusCounts samples' := by
  have statuses := h.filterMap (·.status)
  rw [statusCounts_eq_table, statusCounts_eq_table]
  exact table_congr (fun s => statuses.mem_iff) fun s => statuses.count_eq s

theorem transportFailures_perm (h : samples.Perm samples') :
    transportFailures samples = transportFailures samples' := h.countP_eq _

theorem tallyOf_perm (name : String) (h : results.Perm results') :
    tallyOf name results = tallyOf name results' := by
  have mine := h.filter (·.name = name)
  rw [tallyOf, tallyOf, mine.countP_eq, mine.countP_eq]

theorem checkTallies_perm (h : results.Perm results') :
    checkTallies results = checkTallies results' := by
  rw [checkTallies_eq_table, checkTallies_eq_table]
  exact table_congr (fun name => (h.map _).mem_iff) fun name => tallyOf_perm name h

/-- Logs that differ in order only are judged and summed up alike. -/
theorem aggregates_perm (ts : List Threshold) (l l' : SampleLog)
    (samples : l.samples.Perm l'.samples) (checks : l.checks.Perm l'.checks) :
    Verdict.evaluate ts l = Verdict.evaluate ts l' ∧
    LatencySummary.of l.samples = LatencySummary.of l'.samples ∧
    statusCounts l.samples = statusCounts l'.samples ∧
    transportFailures l.samples = transportFailures l'.samples ∧
    checkTallies l.checks = checkTallies l'.checks := by
  refine ⟨Verdict.evaluate_perm ts samples checks, ?_, statusCounts_perm samples,
    transportFailures_perm samples, checkTallies_perm checks⟩
  rw [LatencySummary.of, LatencySummary.of, sortedMillis_perm samples]

/-- A response that passes its check is recorded before a lost one that does not. -/
def responseFirst : SampleLog :=
  (({} : SampleLog).record ⟨.ofMillis 12, some 200⟩ [⟨"ok", true⟩]).record
    ⟨.ofMillis 7, none⟩ [⟨"ok", false⟩]

/-- The same two the other way round. -/
def responseLast : SampleLog :=
  (({} : SampleLog).record ⟨.ofMillis 7, none⟩ [⟨"ok", false⟩]).record
    ⟨.ofMillis 12, some 200⟩ [⟨"ok", true⟩]

theorem aggregates_perm_of_swapped : responseFirst ≠ responseLast ∧
    ∃ ts, ThresholdSpec.compileAll [⟨"http_req_duration", "avg<10", [], none⟩,
      ⟨"checks", "rate>0.5", [], some "ok"⟩] = .ok ts ∧
    Verdict.evaluate ts responseFirst = Verdict.evaluate ts responseLast ∧
    LatencySummary.of responseFirst.samples = LatencySummary.of responseLast.samples ∧
    statusCounts responseFirst.samples = statusCounts responseLast.samples ∧
    transportFailures responseFirst.samples = transportFailures responseLast.samples ∧
    checkTallies responseFirst.checks = checkTallies responseLast.checks :=
  ⟨by decide, _, rfl, aggregates_perm _ responseFirst responseLast (.swap ..) (.swap ..)⟩

end PrecheckLoad
