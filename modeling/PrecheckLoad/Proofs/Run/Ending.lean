import PrecheckLoad.Proofs.Fleet.Sharing
import PrecheckLoad.Proofs.Fleet.Shutdown
import PrecheckLoad.Proofs.Run.Ticks
import PrecheckLoad.Proofs.Run.Traffic

/-!
# How a run ends

A run goes on from tick to tick as long as its schedule does, which ends with its last stage at the
latest. At the first tick that finds the schedule complete nobody is spawned any more, and all
users are told to stop. The run is over when the last request that is under way then completes.
-/
namespace PrecheckLoad

/-- Nobody has been spawned at a time or later. -/
def SpawnedBefore (bound : Nat) (s : Shared) : Prop :=
  ∀ u time, Event.spawned u time ∈ s.history → time < bound

variable {bound later : Nat} {s : Shared}

theorem SpawnedBefore.mono (h : SpawnedBefore bound s) (le : bound ≤ later) :
    SpawnedBefore later s :=
  fun u time mem => Nat.lt_of_lt_of_le (h u time mem) le

theorem spawnedBefore_kept : Kept (SpawnedBefore bound) where
  note := by
    intro s e closing h u time mem
    rcases List.mem_cons.mp mem with rfl | mem
    · exact False.elim closing
    · exact h u time mem
  send := by
    intro s s' now v i r passes h u time mem
    rcases List.mem_cons.mp mem with other | mem
    · cases other
    · rw [Shared.passCap_history passes] at mem
      exact h u time mem

namespace Run

/-- A run leaves its ticks at the `k`th, now and in this state, and its fleet takes until a time to
shut down. -/
structure Plan.Ends (p : Plan) (limiter : Option Limiter) (k now stop : Nat) (st : State) :
    Prop where
  /-- It does so whatever number of ticks is allowed for beyond those. -/
  leaves : ∀ fuel, k < fuel → p.ticks fuel 0 (.first limiter) = .ok (now, st)
  bounded : k < p.tickBound
  shutsDown : st.fleet.ShutsDown p.workload now stop
  spawned : SpawnedBefore now (st.fleet.shutdown p.workload now).2.shared
  /-- The time that the run has taken is that of the end of the shutdown, if it is a duration. -/
  elapsed : (p.run limiter).map (·.elapsed) = Duration.ofNanos (stop * 1000000)

variable {p : Plan} {limiter : Option Limiter} {k now : Nat} {st st' : State} {seen : Transition}
  {past : List Transition}

namespace Plan

theorem Comes.spawned (h : p.Comes limiter past st) (whole : 1000000 ∣ p.interval.nanos)
    (pos : 0 < p.interval.nanos) :
    SpawnedBefore (tickTime p.interval past.length) st.fleet.shared := by
  induction h with
  | start =>
    intro u time mem
    cases mem
  | @tick past st seen before looked goes_on ih =>
    have later := tickTime_lt whole pos past.length
    rw [List.length_append, List.length_singleton]
    have noted := ih.mono (Nat.le_of_lt later)
    rw [← State.note_fleet st seen.elapsed seen.target] at noted
    apply Fleet.advance_keeps spawnedBefore_kept.keptBy
    refine Fleet.reconcile_keeps (w := p.workload) spawnedBefore_kept.keptBy ?_
      seen.target.toNat noted
    intro s u h v time mem
    rcases List.mem_cons.mp mem with same | mem
    · cases same
      exact later
    · exact h v time mem

theorem run_eq (p : Plan) (limiter : Option Limiter) :
    p.run limiter = p.ticks p.tickBound 0 (.first limiter) >>= fun (now, st) =>
      Duration.ofNanos ((st.fleet.shutdown p.workload now).1 * 1000000) >>= fun elapsed =>
        .ok ⟨elapsed, (st.fleet.shutdown p.workload now).2.shared, st.timeline.reverse, st.peak⟩ :=
  rfl

theorem elapsed_of_ticks (left : p.ticks p.tickBound 0 (.first limiter) = .ok (now, st)) :
    (p.run limiter).map (·.elapsed) =
      Duration.ofNanos ((st.fleet.shutdown p.workload now).1 * 1000000) := by
  rw [run_eq, left, ok_bind]
  dsimp only
  cases Duration.ofNanos ((st.fleet.shutdown p.workload now).1 * 1000000) with
  | error e => rfl
  | ok elapsed => rfl

/-- From the tick at which it leaves a run takes as long as the requests under way. -/
theorem Leaves.ends (h : p.Leaves limiter past seen st st')
    (whole : 1000000 ∣ p.interval.nanos) (pos : 0 < p.interval.nanos) :
    ∃ stop, p.Ends limiter past.length (tickTime p.interval past.length) stop st' := by
  have leaves : ∀ fuel, past.length < fuel →
      p.ticks fuel 0 (.first limiter) = .ok (tickTime p.interval past.length, st') := by
    intro fuel enough
    obtain ⟨more, rfl⟩ : ∃ more, fuel = past.length + (more + 1) :=
      ⟨fuel - past.length - 1, by omega⟩
    rw [h.before.ticks whole, ticks_of_complete whole h.looked h.complete, h.state]
  have bounded := h.before.length_lt_tickBound pos
  have fleet : st'.fleet = st.fleet := by rw [h.state, State.note_fleet]
  refine ⟨_, leaves, bounded, ?_, ?_, elapsed_of_ticks (leaves _ bounded)⟩
  · rw [fleet]
    exact h.before.reachable.shutsDown
  · rw [fleet]
    exact Fleet.shutdown_keeps spawnedBefore_kept.keptBy (h.before.spawned whole pos)

theorem run_of_late (h : p.Comes limiter past st) (whole : 1000000 ∣ p.interval.nanos)
    (pos : 0 < p.interval.nanos) (late : Duration.limit ≤ past.length * p.interval.nanos) :
    p.run limiter = .error {} := by
  have bounded := h.length_lt_tickBound pos
  obtain ⟨more, bound⟩ : ∃ more, p.tickBound = past.length + (more + 1) :=
    ⟨p.tickBound - past.length - 1, by omega⟩
  have blind : p.look past.length = .error {} := by
    unfold look
    rw [Duration.ofNanos_of_le late]
    rfl
  rw [run_eq, bound, h.ticks whole, ticks_succ whole, blind]
  rfl

end Plan
end Run

namespace LoadTest

/-- A run ends. It leaves its ticks at the first of them that finds the schedule complete, at the
end of all stages at the latest, and it has taken until then, or until the last request that was
under way then has completed. It fails where the time of that tick is no duration any more. -/
theorem run_ends (t : LoadTest) (seed : UInt64) (execute : Executor) (total : Duration)
    (valid : t.config.validate = .ok ()) (sum : t.config.totalDuration = .ok total)
    (whole : 1000000 ∣ t.config.reconcileInterval.nanos) :
    let p := t.plan seed execute
    let i := t.config.reconcileInterval.nanos
    ∃ k, IsLeast {k | t.config.schedule.CompleteAt (k * i)} k ∧ k ≤ total.nanos ⌈/⌉ i ∧
      (Duration.limit ≤ k * i → p.run t.limiter = .error {}) ∧
      (k * i < Duration.limit → ∃ now stop st,
        now * 1000000 = k * i ∧ p.Ends t.limiter k now stop st ∧
        ∀ r report, t.run seed execute = .ok (r, report) →
          report.elapsed.nanos = stop * 1000000) := by
  intro p i
  have pos := Config.interval_pos valid
  have nanos : total.nanos = Schedule.nanos p.schedule.stages := Duration.ofNanos_eq_ok sum
  have fits : Schedule.nanos p.schedule.stages < Duration.limit := by
    rw [← nanos]
    exact total.lt_limit
  obtain ⟨k, least, few⟩ := p.schedule.exists_first_complete pos fits
  -- The ticks before the `k`th find the schedule incomplete, since `k` is the first that does not.
  obtain ⟨past, st, before, rfl⟩ := Run.Plan.comes_of_not_completeAt t.limiter fits
    fun j early complete => Nat.not_le_of_lt early (least.2 complete)
  rw [← nanos] at few
  refine ⟨past.length, least, few, Run.Plan.run_of_late before whole pos, ?_⟩
  intro early
  have complete := least.1 ⟨_, early⟩ rfl
  have looked : p.look past.length = .ok ⟨⟨_, early⟩, 0⟩ :=
    Run.Plan.look_of_target rfl (Schedule.target_of_isComplete complete)
  obtain ⟨stop, ends⟩ :=
    Run.Plan.Leaves.ends ⟨before, looked, complete, rfl⟩ whole pos
  refine ⟨_, stop, _, Run.tickTime_of_whole whole _, ends, ?_⟩
  intro r report ran
  obtain ⟨ran, reported⟩ := run_eq_ok ran
  have elapsed := ends.elapsed
  rw [ran] at elapsed
  rw [(report_of_result reported).1]
  exact Duration.ofNanos_eq_ok elapsed.symm

theorem capped_valid : capped.config.validate = .ok () :=
  Config.valid_of_isOk (by decide +kernel)

/-- Each request is lost after five milliseconds. -/
def losesSlowly : Executor := ⟨fun _ _ _ => ⟨5, .failure .connect, .zero, by decide⟩⟩

/-- The schedule is complete after three milliseconds. The second request, which the cap has let
pass a millisecond before, is under way for four milliseconds more. -/
theorem run_ends_of_slow : ∃ st, (capped.plan 7 losesSlowly).Ends capped.limiter 1 3 7 st := by
  have sum : capped.config.totalDuration = .ok (.ofMillis 3) := by decide +kernel
  have whole : 1000000 ∣ capped.config.reconcileInterval.nanos := by decide
  have ran : ((capped.plan 7 losesSlowly).run capped.limiter).map (·.elapsed) =
      .ok (.ofMillis 7) := by decide +kernel
  obtain ⟨k, least, few, -, ends⟩ := run_ends capped 7 losesSlowly _ capped_valid sum whole
  have one : k = 1 := by
    have first : ¬ capped.config.schedule.CompleteAt 0 :=
      Schedule.not_completeAt (t := .zero) rfl (by decide +kernel)
    have some : k ≠ 0 := by
      rintro rfl
      exact first (by simpa using least.1)
    have bound : (Duration.ofMillis 3).nanos ⌈/⌉ capped.config.reconcileInterval.nanos = 1 := by
      decide
    omega
  subst one
  obtain ⟨now, stop, st, tick, ended, -⟩ := ends (by decide)
  have elapsed := ended.elapsed
  rw [ran] at elapsed
  have last : (Duration.ofMillis 7).nanos = stop * 1000000 := Duration.ofNanos_eq_ok elapsed.symm
  have millis : (Duration.ofMillis 7).nanos = 7000000 := by decide
  have interval : 1 * capped.config.reconcileInterval.nanos = 3000000 := by decide
  have at_end : stop = 7 := by omega
  have at_tick : now = 3 := by omega
  subst at_end at_tick
  exact ⟨st, ended⟩

end LoadTest
end PrecheckLoad
