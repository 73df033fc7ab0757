import PrecheckLoad.Proofs.Report.Tallies
import PrecheckLoad.Proofs.Run.Traffic

/-!
# What a report adds up to

Each record of a history holds the sample of one exchange and one result of each check. So the
statuses of a report and its failures in transport sum up to its iterations, and each check has as
many results as there are iterations, a failed one wherever there was no response. What thresholds
look at is counted a second time, from the samples themselves, and comes to the same.
-/
namespace PrecheckLoad

open Statistics

variable {w : Workload} {history : List Event} {cs : List Check} {o : Outcome} {name : String}

/-- What has been recorded of exchanges that were checked. -/
def logOf (cs : List Check) (xs : List Exchange) : SampleLog :=
  ⟨xs.map User.sampleOf, xs.flatMap fun x => evaluateChecks cs x.outcome⟩

/-- The log of a lawful history is that of some exchanges. -/
theorem Lawful.log_eq (h : Lawful w history) {limiter : Option Limiter} :
    ∃ xs, (Shared.mk limiter history).log = logOf w.checks xs := by
  induction history with
  | nil => exact ⟨[], rfl⟩
  | cons e past ih =>
    obtain ⟨follows, lawful⟩ := h
    obtain ⟨xs, before⟩ := ih lawful
    cases e with
    | recorded u i t sample checks =>
      obtain ⟨-, -, x, -, rfl, rfl⟩ := follows
      refine ⟨x :: xs, ?_⟩
      rw [Shared.log, logOf] at before ⊢
      obtain ⟨samples, checks⟩ := SampleLog.mk.inj before
      simp only [List.filterMap_cons, List.flatMap_cons, List.map_cons, Event.sample?,
        Event.results, samples, checks]
    | _ => exact ⟨xs, before⟩

theorem names_evaluateChecks (cs : List Check) (o : Outcome) :
    (evaluateChecks cs o).map (·.name) = cs.map (·.name) := by
  rw [evaluateChecks, List.map_map]
  rfl

theorem tallyOf_append_fails (name : String) (rs rs' : List CheckResult) :
    (tallyOf name (rs ++ rs')).fails = (tallyOf name rs).fails + (tallyOf name rs').fails := by
  simp only [tallyOf, List.filter_append, List.countP_append]

theorem fails_of_passes_eq_zero {t : Tally} (none : t.passes = 0) : t.fails = t.total := by
  rw [Tally.total, none, Nat.zero_add]

/-- Without a response no check passes, whatever it says. -/
theorem tallyOf_of_no_response (lost : o.status? = none) (cs : List Check) (name : String) :
    (tallyOf name (evaluateChecks cs o)).fails = (cs.map (·.name)).count name := by
  have failed : ∀ r ∈ evaluateChecks cs o, r.passed = false := by
    intro r hr
    obtain ⟨c, -, rfl⟩ := List.mem_map.mp hr
    cases o with
    | response r => cases lost
    | failure kind => rfl
  have none : (tallyOf name (evaluateChecks cs o)).passes = 0 := by
    rw [tallyOf, List.countP_eq_zero]
    intro r hr
    rw [failed r (List.mem_of_mem_filter hr)]
    exact Bool.false_ne_true
  rw [fails_of_passes_eq_zero none, tallyOf_total_eq_length, ← count_names, names_evaluateChecks]

/-- Each check has one result for each exchange. -/
theorem tallyOf_logOf_total (cs : List Check) (xs : List Exchange) (name : String) :
    (tallyOf name (logOf cs xs).checks).total = (cs.map (·.name)).count name * xs.length := by
  rw [tallyOf_total_eq_length, ← count_names]
  induction xs with
  | nil => rfl
  | cons x xs ih =>
    rw [logOf] at ih ⊢
    dsimp only at ih ⊢
    rw [List.flatMap_cons, List.map_append, List.count_append, ih, names_evaluateChecks,
      List.length_cons, Nat.mul_succ, Nat.add_comm]

theorem le_tallyOf_logOf_fails (cs : List Check) (xs : List Exchange) (name : String) :
    (cs.map (·.name)).count name * transportFailures (logOf cs xs).samples ≤
      (tallyOf name (logOf cs xs).checks).fails := by
  induction xs with
  | nil => exact Nat.zero_le _
  | cons x xs ih =>
    rw [logOf, transportFailures] at ih ⊢
    dsimp only at ih ⊢
    rw [List.flatMap_cons, tallyOf_append_fails, List.map_cons, List.countP_cons]
    cases lost : x.outcome.status? with
    | none =>
      have failed := tallyOf_of_no_response lost cs name
      simp only [User.sampleOf, lost, Option.isNone_none, if_true, Nat.mul_succ] at ih ⊢
      omega
    | some s =>
      simp only [User.sampleOf, lost, Option.isNone_some, Bool.false_eq_true, if_false,
        Nat.add_zero] at ih ⊢
      omega

/-- The counts of a report sum up, by status and for each check. -/
structure Conserved (cs : List Check) (iterations lost : Nat) (statuses : List (UInt16 × Nat))
    (tallies : List (String × Tally)) : Prop where
  statuses : iterations = lost + (statuses.map fun e => e.2).sum
  checks : 0 < iterations → ∀ name ∈ cs.map (·.name), ∃ tally, tallies.lookup name = some tally ∧
    tally.passes + tally.fails = (cs.map (·.name)).count name * iterations ∧
    (cs.map (·.name)).count name * lost ≤ tally.fails
  distinct : (tallies.map (·.1)).Nodup
  named : ∀ e ∈ tallies, e.1 ∈ cs.map (·.name)

theorem conserved_logOf (cs : List Check) (xs : List Exchange) :
    let l := logOf cs xs
    Conserved cs l.samples.length (transportFailures l.samples) (statusCounts l.samples)
      (checkTallies l.checks) := by
  intro l
  have iterations : l.samples.length = xs.length := List.length_map _
  rw [checkTallies_eq_table]
  refine ⟨length_eq_transportFailures_add l.samples, fun some name mem => ?_,
    ascending_table.keys_nodup, fun e he => ?_⟩
  · have total := tallyOf_logOf_total cs xs name
    have occurs : name ∈ l.checks.map (·.name) := by
      rw [← List.count_pos_iff, count_names, ← tallyOf_total_eq_length, total]
      rw [iterations] at some
      exact Nat.mul_pos (List.count_pos_iff.mpr mem) some
    rw [← iterations] at total
    exact ⟨tallyOf name l.checks, lookup_table occurs, total, le_tallyOf_logOf_fails cs xs name⟩
  · have occurs := (mem_table.mp he).1
    rw [List.mem_map] at occurs
    obtain ⟨r, hr, name⟩ := occurs
    obtain ⟨x, -, result⟩ := List.mem_flatMap.mp hr
    rw [← name, ← names_evaluateChecks cs x.outcome]
    exact List.mem_map_of_mem result

/-- The statuses that fail a sample under a tolerance: those outside 200 to 299 that are not
tolerated. -/
def failing (tolerated : List UInt16) (statuses : List (UInt16 × Nat)) : List (UInt16 × Nat) :=
  statuses.filter fun e => !(200 ≤ e.1 && e.1 < 300) && !tolerated.contains e.1

/-- What a threshold observes, told from sorted latencies and the counts of a report alone. -/
def Threshold.observeCounts (t : Threshold) (sorted : List Float) (lost : Nat)
    (statuses : List (UInt16 × Nat)) (tallies : List (String × Tally)) : Float :=
  match t.metric with
  | .latency => t.condition.aggregation.apply sorted
  | .failed => ratio (lost + ((failing t.tolerated statuses).map fun e => e.2).sum)
      (lost + (statuses.map fun e => e.2).sum)
  | .checks =>
    match t.check with
    | some name => ((tallies.lookup name).getD {}).rate
    | none => ratio (tallies.map fun e => e.2.passes).sum (tallies.map fun e => e.2.total).sum
  | .iterations => count (lost + (statuses.map fun e => e.2).sum)

/-- What thresholds look at in the samples is what is reported of them. -/
structure Threshold.AgreesWithCounts (t : Threshold) (l : SampleLog) : Prop where
  failed : failedCount t.tolerated l.samples = transportFailures l.samples +
    ((failing t.tolerated (statusCounts l.samples)).map fun e => e.2).sum
  checks : ((relevantChecks t.check l.checks).countP (·.passed),
      (relevantChecks t.check l.checks).length) =
    match t.check with
    | some name =>
      let tally := ((checkTallies l.checks).lookup name).getD {}
      (tally.passes, tally.passes + tally.fails)
    | none => (((checkTallies l.checks).map fun e => e.2.passes).sum,
        ((checkTallies l.checks).map fun e => e.2.passes + e.2.fails).sum)
  iterations : l.samples.length = transportFailures l.samples +
    ((statusCounts l.samples).map fun e => e.2).sum
  observed : ∀ sorted, t.observe l sorted = t.observeCounts sorted (transportFailures l.samples)
    (statusCounts l.samples) (checkTallies l.checks)

theorem Threshold.agreesWithCounts (t : Threshold) (l : SampleLog) : t.AgreesWithCounts l := by
  have failed := failedCount_eq_add t.tolerated l.samples
  have checks := relevantChecks_counts t.check l.checks
  have iterations := length_eq_transportFailures_add l.samples
  refine ⟨failed, checks, iterations, fun sorted => ?_⟩
  rw [observe, observeCounts]
  cases t.metric with
  | latency => rfl
  | failed =>
    dsimp only
    rw [failed, iterations]
    rfl
  | checks =>
    dsimp only
    cases check : t.check with
    | some name =>
      rw [check] at checks
      obtain ⟨passed, total⟩ := Prod.mk.inj checks
      rw [passed, total]
      rfl
    | none =>
      rw [check] at checks
      obtain ⟨passed, total⟩ := Prod.mk.inj checks
      rw [passed, total]
  | iterations =>
    dsimp only
    rw [iterations]

namespace LoadTest

/-- A report counts the log that its verdict is about. -/
theorem report_eq_ok {t : LoadTest} {seed : UInt64} {r : Run.Result} {report : Report}
    (h : t.report seed r = .ok report) :
    report.iterations = r.shared.log.samples.length ∧
    report.transportFailures = transportFailures r.shared.log.samples ∧
    report.statuses = statusCounts r.shared.log.samples ∧
    report.checks = checkTallies r.shared.log.checks ∧
    report.verdict = .evaluate t.thresholds r.shared.log := by
  rw [LoadTest.report] at h
  simp only [bind_eq_ok] at h
  obtain ⟨latency, -, done⟩ := h
  cases done
  exact ⟨rfl, rfl, rfl, rfl, rfl⟩

/-- What runs record sums up, and so does what they report of it. What a threshold looks at, in
whatever samples, is in their counts. -/
theorem counts_conserved :
    (∀ (t : LoadTest) (seed : UInt64) (execute : Executor) (r : Run.Result),
      (t.plan seed execute).run t.limiter = .ok r →
      let l := r.shared.log
      Conserved t.checks l.samples.length (transportFailures l.samples) (statusCounts l.samples)
        (checkTallies l.checks) ∧
      ∀ report, t.run seed execute = .ok (r, report) →
        Conserved t.checks report.iterations report.transportFailures report.statuses
          report.checks ∧
        report.iterations = l.samples.length ∧
        report.transportFailures = transportFailures l.samples ∧
        report.statuses = statusCounts l.samples ∧
        report.checks = checkTallies l.checks ∧
        report.verdict = .evaluate t.thresholds l) ∧
    ∀ (t : Threshold) (l : SampleLog), t.AgreesWithCounts l := by
  refine ⟨fun t seed execute r ended => ?_, fun t l => ?_⟩
  · intro l
    have conserved : Conserved t.checks l.samples.length (transportFailures l.samples)
        (statusCounts l.samples) (checkTallies l.checks) := by
      obtain ⟨now, f, reached, -, shared, -⟩ := Run.Plan.run_reachable ended
      obtain ⟨xs, log⟩ := reached.sound.records.lawful.log_eq
      have same : l = logOf t.checks xs := (congrArg Shared.log shared).trans log
      rw [same]
      exact conserved_logOf t.checks xs
    refine ⟨conserved, fun report ran => ?_⟩
    rw [run] at ran
    simp only [bind_eq_ok] at ran
    obtain ⟨r', -, report', reported, same⟩ := ran
    cases same
    refine ⟨?_, report_eq_ok reported⟩
    obtain ⟨iterations, lost, statuses, checks, -⟩ := report_eq_ok reported
    rw [iterations, lost, statuses, checks]
    exact conserved
  · exact t.agreesWithCounts l

/-- Two checks share a name, and one passes on whatever is not a success. -/
def judged : LoadTest :=
  { capped with checks := [⟨"ok", .predicate (.statusIs 200)⟩,
      ⟨"refused", .predicate (.not (.statusIs 200))⟩, ⟨"ok", .predicate (.statusIn [200, 409])⟩] }

/-- The first request is answered, all later ones are lost. -/
def answersOnce : Executor :=
  ⟨fun _ now _ => if now = 0 then ⟨1, .response ⟨200, []⟩, .ofMillis 1, Nat.one_pos⟩ else .refused⟩

/-- Of two iterations one is lost, which no check passes, not even the negated one. -/
theorem counts_conserved_judged : ∃ r, (judged.plan 7 answersOnce).run judged.limiter = .ok r ∧
    checkTallies r.shared.log.checks = [("ok", ⟨2, 2⟩), ("refused", ⟨0, 2⟩)] ∧
    Conserved judged.checks 2 1 [(200, 1)] [("ok", ⟨2, 2⟩), ("refused", ⟨0, 2⟩)] := by
  have evaluated : ((judged.plan 7 answersOnce).run judged.limiter).toOption.any (fun r =>
      r.shared.log.samples.length = 2 && transportFailures r.shared.log.samples = 1 &&
      statusCounts r.shared.log.samples = [(200, 1)] &&
      checkTallies r.shared.log.checks = [("ok", ⟨2, 2⟩), ("refused", ⟨0, 2⟩)]) = true := by
    decide +kernel
  cases ran : (judged.plan 7 answersOnce).run judged.limiter with
  | error e =>
    rw [ran] at evaluated
    cases evaluated
  | ok r =>
    rw [ran] at evaluated
    obtain ⟨conserved, -⟩ := counts_conserved.1 judged 7 answersOnce r ran
    simp only [Except.toOption, Option.any_some, Bool.and_eq_true, decide_eq_true_eq] at evaluated
    obtain ⟨⟨⟨samples, lost⟩, statuses⟩, tallies⟩ := evaluated
    rw [samples, lost, statuses, tallies] at conserved
    exact ⟨r, rfl, tallies, conserved⟩

end LoadTest
end PrecheckLoad
