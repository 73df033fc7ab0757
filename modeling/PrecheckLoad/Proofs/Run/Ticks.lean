import PrecheckLoad.Proofs.Config.Validation
import PrecheckLoad.Proofs.Run.Reached
import PrecheckLoad.Proofs.Schedule.Completion

/-!
# The ticks of a run

A run looks at its schedule at each multiple of its interval. What it has come to at a tick depends
on what it has seen before, each time an incomplete schedule, and it leaves at the first tick at
which the schedule is complete. The number of ticks that a plan allows for is never used up.
-/
namespace PrecheckLoad
namespace Run

/-- A run before its first tick. -/
def State.first (limiter : Option Limiter) : State := { fleet := { shared := { limiter } } }

/-- What a run sees of its schedule at a tick. -/
def Plan.look (p : Plan) (k : Nat) : Except Duration.Overflow Transition := do
  let elapsed ← Duration.ofNanos (k * p.interval.nanos)
  return ⟨elapsed, ← p.schedule.target elapsed⟩

/-- What a run does from a tick on until the next, if its schedule is not complete. -/
def Plan.goOn (p : Plan) (k : Nat) (seen : Transition) (st : State) : State :=
  let now := tickTime p.interval k
  let st := (st.note seen.elapsed seen.target).follow now seen.target.toNat
  { st with fleet := st.fleet.advance p.workload now (tickTime p.interval (k + 1)) }

/-- A run that has seen this of an incomplete schedule, tick by tick, has come to this state. -/
inductive Plan.Comes (p : Plan) (limiter : Option Limiter) : List Transition → State → Prop
  | start : p.Comes limiter [] (.first limiter)
  | tick {past : List Transition} {st : State} {seen : Transition}
    (before : p.Comes limiter past st) (looked : p.look past.length = .ok seen)
    (goes_on : p.schedule.isComplete seen.elapsed = .ok false) :
    p.Comes limiter (past ++ [seen]) (p.goOn past.length seen st)

/-- A run that has come to a tick finds its schedule complete and leaves with a state. -/
structure Plan.Leaves (p : Plan) (limiter : Option Limiter) (past : List Transition)
    (seen : Transition) (st st' : State) : Prop where
  before : p.Comes limiter past st
  looked : p.look past.length = .ok seen
  complete : p.schedule.isComplete seen.elapsed = .ok true
  state : st' = st.note seen.elapsed seen.target

variable {p : Plan} {limiter : Option Limiter} {fuel j k now : Nat} {st st' : State}
  {seen : Transition} {past : List Transition}

/-- Ticks take place at whole milliseconds, so none of them is late. -/
theorem tickTime_of_whole {interval : Duration} (whole : 1000000 ∣ interval.nanos) (k : Nat) :
    tickTime interval k * 1000000 = k * interval.nanos := by
  obtain ⟨m, millis⟩ := whole
  have product : k * interval.nanos = 1000000 * (k * m) := by
    rw [millis, Nat.mul_left_comm]
  unfold tickTime Duration.ceilMillis
  rw [product]
  omega

theorem tickTime_lt {interval : Duration} (whole : 1000000 ∣ interval.nanos)
    (pos : 0 < interval.nanos) (k : Nat) : tickTime interval k < tickTime interval (k + 1) := by
  have early := tickTime_of_whole whole k
  have late := tickTime_of_whole whole (k + 1)
  rw [Nat.succ_mul] at late
  omega

theorem State.note_peak (st : State) (elapsed : Duration) (target : UInt64) :
    (st.note elapsed target).peak = st.peak := by
  rw [note]
  split <;> rfl

namespace Plan

/-- Between two ticks nothing is noted. -/
theorem goOn_timeline (seen : Transition) (st : State) :
    (p.goOn k seen st).timeline = (st.note seen.elapsed seen.target).timeline := by
  rw [goOn, State.follow]

theorem goOn_peak (seen : Transition) (st : State) :
    (p.goOn k seen st).peak =
      max st.peak (st.fleet.reconcile (tickTime p.interval k) seen.target.toNat).live := by
  rw [goOn, State.follow, State.note_peak, State.note_fleet]

theorem look_eq_ok (looked : p.look k = .ok seen) :
    seen.elapsed.nanos = k * p.interval.nanos ∧
      p.schedule.target seen.elapsed = .ok seen.target := by
  unfold look at looked
  obtain ⟨elapsed, time, looked⟩ := bind_eq_ok.mp looked
  obtain ⟨target, sought, looked⟩ := bind_eq_ok.mp looked
  cases looked
  exact ⟨Duration.ofNanos_eq_ok time, sought⟩

theorem look_of_target {t : Duration} {n : UInt64} (time : t.nanos = k * p.interval.nanos)
    (sought : p.schedule.target t = .ok n) : p.look k = .ok ⟨t, n⟩ := by
  unfold look
  rw [← time, Duration.ofNanos_of_lt t.lt_limit, ok_bind, sought]
  rfl

/-- A tick is a look at the schedule and what follows from it. -/
theorem ticks_succ (whole : 1000000 ∣ p.interval.nanos) :
    p.ticks (fuel + 1) k st = p.look k >>= fun seen =>
      p.schedule.isComplete seen.elapsed >>= fun complete =>
        if complete then .ok (tickTime p.interval k, st.note seen.elapsed seen.target)
        else p.ticks fuel (k + 1) (p.goOn k seen st) := by
  rw [ticks, look, tickTime_of_whole whole]
  cases Duration.ofNanos (k * p.interval.nanos) with
  | error e => rfl
  | ok elapsed =>
    simp only [ok_bind]
    cases p.schedule.target elapsed with
    | error e => rfl
    | ok target => rfl

theorem ticks_of_goes_on (whole : 1000000 ∣ p.interval.nanos) (looked : p.look k = .ok seen)
    (goes_on : p.schedule.isComplete seen.elapsed = .ok false) :
    p.ticks (fuel + 1) k st = p.ticks fuel (k + 1) (p.goOn k seen st) := by
  rw [ticks_succ whole, looked, ok_bind, goes_on, ok_bind]
  exact if_neg Bool.false_ne_true

theorem ticks_of_complete (whole : 1000000 ∣ p.interval.nanos) (looked : p.look k = .ok seen)
    (complete : p.schedule.isComplete seen.elapsed = .ok true) :
    p.ticks (fuel + 1) k st =
      .ok (tickTime p.interval k, st.note seen.elapsed seen.target) := by
  rw [ticks_succ whole, looked, ok_bind, complete, ok_bind]
  exact if_pos rfl

theorem looks_concat (looks : (List.range past.length).mapM p.look = .ok past)
    (looked : p.look past.length = .ok seen) :
    (List.range (past.length + 1)).mapM p.look = .ok (past ++ [seen]) := by
  rw [List.range_succ, List.mapM_append, looks, ok_bind, List.mapM_cons, looked]
  rfl

namespace Comes

/-- Ticks that have been gone through need not be gone through again. -/
theorem ticks (h : p.Comes limiter past st) (whole : 1000000 ∣ p.interval.nanos) (fuel : Nat) :
    p.ticks (past.length + fuel) 0 (.first limiter) = p.ticks fuel past.length st := by
  induction h generalizing fuel with
  | start => rw [List.length_nil, Nat.zero_add]
  | @tick past st seen before looked goes_on ih =>
    rw [List.length_append, List.length_singleton, Nat.add_assoc, Nat.add_comm 1 fuel, ih,
      ticks_of_goes_on whole looked goes_on]

theorem look_at (h : p.Comes limiter past st) {j : Nat} (early : j < past.length) :
    ∃ seen, p.look j = .ok seen ∧ p.schedule.isComplete seen.elapsed = .ok false := by
  induction h with
  | start => cases early
  | @tick past st seen before looked goes_on ih =>
    by_cases last : j < past.length
    · exact ih last
    · rw [List.length_append, List.length_singleton] at early
      have same : j = past.length := by omega
      rw [same]
      exact ⟨seen, looked, goes_on⟩

/-- No tick that has been gone through was beyond the stages. -/
theorem within (h : p.Comes limiter past st) {j : Nat} (early : j < past.length) :
    j * p.interval.nanos < Schedule.nanos p.schedule.stages := by
  obtain ⟨seen, looked, goes_on⟩ := h.look_at early
  by_contra beyond
  have complete := Schedule.isComplete_of_le goes_on (by
    rw [(look_eq_ok looked).1]
    exact Nat.le_of_not_lt beyond)
  cases complete

theorem not_completeAt (h : p.Comes limiter past st) {j : Nat} (early : j < past.length) :
    ¬ p.schedule.CompleteAt (j * p.interval.nanos) := by
  obtain ⟨seen, looked, goes_on⟩ := h.look_at early
  exact Schedule.not_completeAt (look_eq_ok looked).1 goes_on

theorem looks (h : p.Comes limiter past st) : (List.range past.length).mapM p.look = .ok past := by
  induction h with
  | start => rfl
  | @tick past st seen before looked goes_on ih =>
    rw [List.length_append, List.length_singleton]
    exact looks_concat ih looked

/-- Until the bound of a plan is reached there are ticks left. -/
theorem length_lt_tickBound (h : p.Comes limiter past st) (pos : 0 < p.interval.nanos) :
    past.length < p.tickBound := by
  by_contra many
  let ticks := Schedule.nanos p.schedule.stages / p.interval.nanos + 1
  have bound : p.tickBound = ticks + 1 := rfl
  have beyond : Schedule.nanos p.schedule.stages < ticks * p.interval.nanos := by
    rw [Nat.mul_comm]
    exact Nat.lt_mul_div_succ _ pos
  have within := h.within (j := ticks) (by omega)
  omega

theorem reachable (h : p.Comes limiter past st) :
    st.fleet.Reachable p.workload limiter false (tickTime p.interval past.length) := by
  induction h with
  | start =>
    rw [List.length_nil, tickTime_zero]
    exact .start
  | @tick past st seen before looked goes_on ih =>
    rw [List.length_append, List.length_singleton]
    exact State.follow_reachable seen.elapsed seen.target ih

end Comes

namespace Leaves

theorem isLeast (h : p.Leaves limiter past seen st st') :
    IsLeast {k | p.schedule.CompleteAt (k * p.interval.nanos)} past.length := by
  constructor
  · intro t time
    have same := Duration.eq_of_nanos (time.trans (look_eq_ok h.looked).1.symm)
    rw [same]
    exact h.complete
  · intro j complete
    by_contra early
    exact h.before.not_completeAt (Nat.lt_of_not_le early) complete

theorem looks (h : p.Leaves limiter past seen st st') :
    (List.range (past.length + 1)).mapM p.look = .ok (past ++ [seen]) :=
  looks_concat h.before.looks h.looked

/-- No users are planned for when a run leaves. -/
theorem target (h : p.Leaves limiter past seen st st') : seen.target = 0 := by
  have sought := (look_eq_ok h.looked).2
  rw [Schedule.target_of_isComplete h.complete] at sought
  exact (Except.ok.inj sought).symm

end Leaves

/-- Ticks that come to an end leave where the schedule is complete. -/
theorem leaves_of_ticks (whole : 1000000 ∣ p.interval.nanos) (pos : 0 < p.interval.nanos)
    (h : p.Comes limiter past st) (enough : past.length + fuel = p.tickBound)
    (ended : p.ticks fuel past.length st = .ok (now, st')) :
    ∃ past seen st, p.Leaves limiter past seen st st' ∧ now = tickTime p.interval past.length := by
  induction fuel generalizing past st with
  | zero =>
    -- The bound is beyond the stages, where every tick finds the schedule complete.
    have := h.length_lt_tickBound pos
    omega
  | succ fuel ih =>
    rw [ticks_succ whole] at ended
    obtain ⟨seen, looked, ended⟩ := bind_eq_ok.mp ended
    obtain ⟨complete, asked, ended⟩ := bind_eq_ok.mp ended
    cases complete with
    | true =>
      cases ended
      exact ⟨past, seen, st, ⟨h, looked, asked, rfl⟩, rfl⟩
    | false =>
      apply ih (h.tick looked asked)
      · rw [List.length_append, List.length_singleton]
        omega
      · rw [List.length_append, List.length_singleton]
        exact ended

/-- A run comes to each tick up to the first that finds the schedule complete. -/
theorem comes_of_not_completeAt (limiter : Option Limiter)
    (fits : Schedule.nanos p.schedule.stages < Duration.limit)
    (goes_on : ∀ j < k, ¬ p.schedule.CompleteAt (j * p.interval.nanos)) :
    ∃ past st, p.Comes limiter past st ∧ past.length = k := by
  induction k with
  | zero => exact ⟨[], .first limiter, .start, rfl⟩
  | succ k ih =>
    obtain ⟨past, st, before, rfl⟩ := ih fun j early => goes_on j (Nat.lt_succ_of_lt early)
    obtain ⟨t, time, incomplete⟩ :=
      Schedule.exists_of_not_completeAt fits (goes_on past.length (Nat.lt_succ_self _))
    obtain ⟨n, sought⟩ := p.schedule.target_ok (t := t) fits
    refine ⟨past ++ [⟨t, n⟩], _, before.tick (look_of_target time sought) incomplete, ?_⟩
    rw [List.length_append, List.length_singleton]

end Plan
end Run

end PrecheckLoad
