import PrecheckLoad.Proofs.Fallible
import PrecheckLoad.Proofs.Fleet.Advance
import PrecheckLoad.Run

/-!
# What a run comes to

At each tick of a run its fleet is one that targets and time lead to. A run that is over leaves the
history of a fleet that has been shut down, and of which nobody is left.
-/
namespace PrecheckLoad

namespace Run

variable {p : Plan} {limiter : Option Limiter} {now : Nat} {st st' : State}

theorem tickTime_mono (interval : Duration) (k : Nat) :
    tickTime interval k ≤ tickTime interval (k + 1) := by
  rw [tickTime, Duration.ceilMillis]
  refine Nat.div_le_div_right ?_
  rw [Nat.succ_mul]
  omega

theorem tickTime_zero (interval : Duration) : tickTime interval 0 = 0 := by
  rw [tickTime, Nat.zero_mul]
  rfl

theorem State.note_fleet (st : State) (elapsed : Duration) (target : UInt64) :
    (st.note elapsed target).fleet = st.fleet := by
  rw [note]
  split <;> rfl

/-- From a tick that goes on a fleet comes to the next. -/
theorem State.follow_reachable {k : Nat} (elapsed : Duration) (target : UInt64)
    (reached : st.fleet.Reachable p.workload limiter false (tickTime p.interval k)) :
    (((st.note elapsed target).follow (tickTime p.interval k) target.toNat).fleet.advance
      p.workload (tickTime p.interval k) (tickTime p.interval (k + 1))).Reachable
        p.workload limiter false (tickTime p.interval (k + 1)) := by
  rw [← State.note_fleet st elapsed target] at reached
  exact ((reached.reconcile target.toNat).advance (tickTime_mono p.interval k)).1

theorem Plan.ticks_reachable (fuel : Nat) {k : Nat}
    (reached : st.fleet.Reachable p.workload limiter false (tickTime p.interval k))
    (h : p.ticks fuel k st = .ok (now, st')) :
    st'.fleet.Reachable p.workload limiter false now := by
  induction fuel generalizing k st with
  | zero =>
    cases h
    exact reached
  | succ fuel ih =>
    rw [ticks] at h
    simp only [bind_eq_ok] at h
    obtain ⟨elapsed, -, target, -, complete, -, h⟩ := h
    split at h
    · cases h
      rw [State.note_fleet]
      exact reached
    · exact ih (State.follow_reachable elapsed target reached) h

/-- A run that is over has shut its fleet down. -/
theorem Plan.run_reachable {r : Result} (h : p.run limiter = .ok r) :
    ∃ now f, Fleet.Reachable p.workload limiter true now f ∧
      (∀ u ∈ f.users, u.isFinished = true) ∧ r.shared = f.shared ∧
      r.elapsed.nanos = now * 1000000 := by
  rw [run] at h
  simp only [bind_eq_ok] at h
  obtain ⟨⟨now, st⟩, ticked, elapsed, time, h⟩ := h
  let first : State := { fleet := { shared := { limiter } } }
  have begun : first.fleet.Reachable p.workload limiter false (tickTime p.interval 0) := by
    rw [tickTime_zero]
    exact .start
  have reached := ticks_reachable p.tickBound begun ticked
  cases h
  exact ⟨_, _, reached.shutdown.1, reached.shutdown.2, rfl, Duration.ofNanos_eq_ok time⟩

end Run

namespace LoadTest

variable {t : LoadTest} {seed : UInt64} {execute : Executor} {r : Run.Result} {report : Report}

theorem run_eq_ok (h : t.run seed execute = .ok (r, report)) :
    (t.plan seed execute).run t.limiter = .ok r ∧ t.report seed r = .ok report := by
  unfold run at h
  obtain ⟨r', ran, h⟩ := bind_eq_ok.mp h
  obtain ⟨report', reported, h⟩ := bind_eq_ok.mp h
  cases h
  exact ⟨ran, reported⟩

/-- A report takes over what the ticks of a run have left. -/
theorem report_of_result (h : t.report seed r = .ok report) :
    report.elapsed = r.elapsed ∧ report.timeline = r.timeline ∧ report.peakUsers = r.peak := by
  unfold LoadTest.report at h
  obtain ⟨latency, -, h⟩ := bind_eq_ok.mp h
  cases h
  exact ⟨rfl, rfl, rfl⟩

end LoadTest
end PrecheckLoad
