import Mathlib.Algebra.Order.Floor.Div
import Mathlib.Order.Bounds.Basic
import PrecheckLoad.Proofs.Fallible
import PrecheckLoad.Schedule

/-!
# When a schedule is complete

A time is looked for along the ends of the stages. One at which all of them are over is in none of
them, so the schedule is complete then at the latest. A schedule that is complete has no target.
-/
namespace PrecheckLoad

namespace Schedule

/-- How long all stages take together. -/
def nanos (stages : List Stage) : Nat := Duration.totalNanos (stages.map (·.duration))

variable {s : Schedule} {start t : Duration} {before : UInt64} {stages : List Stage}
  {place : Option Active} {a : Active} {n : UInt64}

theorem nanos_cons (st : Stage) (rest : List Stage) :
    nanos (st :: rest) = st.duration.nanos + nanos rest := rfl

/-- Where all ends are durations, a time can be looked for. -/
theorem locateFrom_ok (fits : start.nanos + nanos stages < Duration.limit) :
    ∃ place, locateFrom start before t stages = .ok place := by
  induction stages generalizing start before with
  | nil => exact ⟨none, rfl⟩
  | cons st rest ih =>
    rw [nanos_cons] at fits
    have stop : start.add st.duration = .ok ⟨start.nanos + st.duration.nanos, by
        show _ < Duration.limit
        omega⟩ := Duration.ofNanos_of_lt _
    unfold locateFrom
    rw [stop, ok_bind]
    split
    · exact ⟨_, rfl⟩
    · apply ih
      show start.nanos + st.duration.nanos + nanos rest < Duration.limit
      omega

/-- No stage is active once all of them are over. -/
theorem locateFrom_of_le (located : locateFrom start before t stages = .ok place)
    (late : start.nanos + nanos stages ≤ t.nanos) : place = none := by
  induction stages generalizing start before with
  | nil =>
    cases located
    rfl
  | cons st rest ih =>
    rw [nanos_cons] at late
    unfold locateFrom at located
    obtain ⟨stop, ends, located⟩ := bind_eq_ok.mp located
    have stop_eq : stop.nanos = start.nanos + st.duration.nanos := Duration.ofNanos_eq_ok ends
    split at located
    · omega
    · apply ih located
      omega

theorem stage_mem_of_locateFrom (located : locateFrom start before t stages = .ok (some a)) :
    a.stage ∈ stages := by
  induction stages generalizing start before with
  | nil => cases located
  | cons st rest ih =>
    unfold locateFrom at located
    obtain ⟨stop, -, located⟩ := bind_eq_ok.mp located
    split at located
    · cases located
      exact List.mem_cons_self
    · exact List.mem_cons_of_mem st (ih located)

theorem locate_ok (fits : nanos s.stages < Duration.limit) : ∃ place, s.locate t = .ok place := by
  apply locateFrom_ok
  show 0 + nanos s.stages < Duration.limit
  omega

theorem locate_of_le (located : s.locate t = .ok place) (late : nanos s.stages ≤ t.nanos) :
    place = none := by
  apply locateFrom_of_le located
  show 0 + nanos s.stages ≤ t.nanos
  omega

theorem target_ok (fits : nanos s.stages < Duration.limit) : ∃ n, s.target t = .ok n := by
  obtain ⟨place, located⟩ := s.locate_ok fits
  unfold target
  rw [located, ok_bind]
  cases place with
  | none => exact ⟨0, rfl⟩
  | some a => exact ⟨_, rfl⟩

theorem isComplete_ok (fits : nanos s.stages < Duration.limit) : ∃ b, s.isComplete t = .ok b := by
  obtain ⟨place, located⟩ := s.locate_ok fits
  unfold isComplete
  rw [located, ok_bind]
  cases place with
  | none => exact ⟨true, rfl⟩
  | some a => exact ⟨_, rfl⟩

/-- A schedule does not go on beyond its stages. -/
theorem isComplete_of_le {b : Bool} (looked : s.isComplete t = .ok b)
    (late : nanos s.stages ≤ t.nanos) : b = true := by
  unfold isComplete at looked
  obtain ⟨place, located, looked⟩ := bind_eq_ok.mp looked
  rw [locate_of_le located late] at looked
  cases looked
  rfl

/-- A complete schedule is over, or its active stage asks for nobody and so do all after it. -/
theorem locate_of_isComplete (complete : s.isComplete t = .ok true) :
    ∃ place, s.locate t = .ok place ∧
      ∀ a ∈ place, a.target s.ramp t = 0 ∧ ∀ st ∈ a.stage :: a.later, st.target = 0 := by
  obtain ⟨place, located, complete⟩ := bind_eq_ok.mp complete
  refine ⟨place, located, ?_⟩
  rintro a ⟨⟩
  have both : (a.target s.ramp t = 0 && (a.stage :: a.later).all (·.target = 0)) = true :=
    Except.ok.inj complete
  simpa using both

/-- Either way of being complete, no user should be active. -/
theorem target_of_isComplete (complete : s.isComplete t = .ok true) : s.target t = .ok 0 := by
  obtain ⟨place, located, idle⟩ := locate_of_isComplete complete
  rw [target, located, ok_bind]
  cases place with
  | none => rfl
  | some a => exact congrArg Except.ok (idle a rfl).1

theorem le_max_words (m n : UInt64) : m ≤ max m n ∧ n ≤ max m n := by
  show (m ≤ if m ≤ n then n else m) ∧ n ≤ if m ≤ n then n else m
  by_cases le : m ≤ n
  · rw [if_pos le]
    exact ⟨le, UInt64.le_refl n⟩
  · rw [if_neg le]
    exact ⟨UInt64.le_refl m, (UInt64.le_total m n).resolve_left le⟩

theorem le_foldl_target (stages : List Stage) (m : UInt64) :
    m ≤ stages.foldl (fun m st => max m st.target) m ∧
      ∀ st ∈ stages, st.target ≤ stages.foldl (fun m st => max m st.target) m := by
  induction stages generalizing m with
  | nil => exact ⟨UInt64.le_refl m, fun st mem => by cases mem⟩
  | cons st rest ih =>
    obtain ⟨whole, parts⟩ := ih (max m st.target)
    rw [List.foldl_cons]
    refine ⟨UInt64.le_trans (le_max_words m st.target).1 whole, ?_⟩
    intro st' mem
    rcases List.mem_cons.mp mem with rfl | mem
    · exact UInt64.le_trans (le_max_words m st'.target).2 whole
    · exact parts st' mem

/-- Without slopes no target is above those of the stages. -/
theorem target_le_peak (stepped : s.ramp = .step) (looked : s.target t = .ok n) : n ≤ s.peak := by
  unfold target at looked
  obtain ⟨place, located, looked⟩ := bind_eq_ok.mp looked
  have peak := le_foldl_target s.stages 0
  cases place with
  | none =>
    cases looked
    exact peak.1
  | some a =>
    rw [stepped] at looked
    cases looked
    exact peak.2 a.stage (stage_mem_of_locateFrom located)

/-- A schedule is complete so many nanoseconds after its start. A time beyond all durations is
beyond all schedules. -/
def CompleteAt (s : Schedule) (n : Nat) : Prop :=
  ∀ d : Duration, d.nanos = n → s.isComplete d = .ok true

variable {m : Nat}

theorem not_completeAt (time : t.nanos = m) (goes_on : s.isComplete t = .ok false) :
    ¬ s.CompleteAt m := by
  intro complete
  rw [complete t time] at goes_on
  cases goes_on

theorem exists_of_not_completeAt (fits : nanos s.stages < Duration.limit)
    (goes_on : ¬ s.CompleteAt m) : ∃ t : Duration, t.nanos = m ∧ s.isComplete t = .ok false := by
  unfold CompleteAt at goes_on
  push Not at goes_on
  obtain ⟨t, time, other⟩ := goes_on
  obtain ⟨b, looked⟩ := s.isComplete_ok (t := t) fits
  cases b with
  | false => exact ⟨t, time, looked⟩
  | true => exact absurd looked other

theorem completeAt_of_le (fits : nanos s.stages < Duration.limit) (late : nanos s.stages ≤ m) :
    s.CompleteAt m := by
  intro t time
  obtain ⟨b, looked⟩ := s.isComplete_ok (t := t) fits
  rw [looked, isComplete_of_le looked (by omega)]

/-- Of ticks at regular intervals some first one finds the schedule complete, and none is needed
later than the end of all stages. -/
theorem exists_first_complete {i : Nat} (pos : 0 < i) (fits : nanos s.stages < Duration.limit) :
    ∃ k, IsLeast {k | s.CompleteAt (k * i)} k ∧ k ≤ nanos s.stages ⌈/⌉ i := by
  classical
  have last : s.CompleteAt ((nanos s.stages ⌈/⌉ i) * i) := by
    apply completeAt_of_le fits
    rw [Nat.mul_comm]
    exact le_smul_ceilDiv pos
  have found : ∃ k, s.CompleteAt (k * i) := ⟨_, last⟩
  refine ⟨Nat.find found, ⟨Nat.find_spec found, ?_⟩, Nat.find_le last⟩
  intro k complete
  exact Nat.find_le complete

end Schedule
end PrecheckLoad
