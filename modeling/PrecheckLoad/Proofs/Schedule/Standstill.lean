import PrecheckLoad.Proofs.Schedule.Course

/-!
# When a schedule asks for nobody any more

A schedule stands still from a time on if its target is zero then and at all later times. Without
slopes that is a matter of the stages with a length that are not over. A complete schedule stands
still, but completion looks at the stages without length as well: one that would ask for somebody
keeps a schedule going up to where it stands, although it is never active.
-/
namespace PrecheckLoad

namespace Schedule

/-- From a time on nobody is asked for. -/
def StandsStill (s : Schedule) (t : Duration) : Prop :=
  ∀ later : Duration, t.nanos ≤ later.nanos → s.target later = .ok 0

/-- Behind a time stands a stage without length that would ask for somebody. -/
def HasIdleAhead (stages : List Stage) (m : Nat) : Prop :=
  ∃ i st, stages[i]? = some st ∧ st.duration.nanos = 0 ∧ st.target ≠ 0 ∧ m < startOf stages i

variable {s : Schedule} {t : Duration} {stages : List Stage} {st : Stage} {i m : Nat}

theorem ActiveAt.length_pos (active : ActiveAt stages m i st) : 0 < st.duration.nanos := by
  have ends := startOf_succ active.listed
  have begun := active.begun
  have unfinished := active.unfinished
  omega

/-- A stage with a length that is not over is active now or later. -/
theorem exists_active_of_mem_pending (mem : st ∈ pending stages m)
    (length : 0 < st.duration.nanos) :
    ∃ i m', m ≤ m' ∧ m' < nanos stages ∧ ActiveAt stages m' i st := by
  obtain ⟨i, listed, ahead⟩ := mem_pending_iff.mp mem
  have ends := startOf_succ listed
  have bound := startOf_le stages (i + 1)
  -- It is active from its beginning on or, if it has begun already, from now on.
  refine ⟨i, max m (startOf stages i), by omega, by omega, listed, by omega, by omega⟩

theorem standsStill_iff (stepped : s.ramp = .step) (fits : nanos s.stages < Duration.limit)
    (t : Duration) : s.StandsStill t ↔
      ∀ st ∈ pending s.stages t.nanos, 0 < st.duration.nanos → st.target = 0 := by
  constructor
  · intro still st mem length
    obtain ⟨i, m, le, within, active⟩ := exists_active_of_mem_pending mem length
    let later : Duration := ⟨m, Nat.lt_trans within fits⟩
    have asked := (target_eq_held stepped fits later).symm.trans (still later le)
    rw [held_of_activeAt active] at asked
    exact Except.ok.inj asked
  · intro idle later le
    rw [target_eq_held stepped fits later]
    by_cases within : later.nanos < nanos s.stages
    · obtain ⟨i, st, active⟩ := exists_activeAt within
      rw [held_of_activeAt active, idle st (pending_subset le active.mem_pending) active.length_pos]
    · rw [held_of_le (Nat.le_of_not_lt within)]

/-- What is ahead asks for nobody exactly if neither its stages with a length nor those without one
do. -/
theorem idle_pending_iff : (∀ st ∈ pending stages m, st.target = 0) ↔
    (∀ st ∈ pending stages m, 0 < st.duration.nanos → st.target = 0) ∧ ¬ HasIdleAhead stages m := by
  constructor
  · intro idle
    refine ⟨fun st mem _ => idle st mem, ?_⟩
    rintro ⟨i, st, listed, still, asks, ahead⟩
    have ends := startOf_succ listed
    exact asks (idle st (mem_pending_iff.mpr ⟨i, listed, by omega⟩))
  · rintro ⟨long, none_idle⟩ st mem
    by_cases length : 0 < st.duration.nanos
    · exact long st mem length
    · obtain ⟨i, listed, ahead⟩ := mem_pending_iff.mp mem
      have ends := startOf_succ listed
      by_contra asks
      exact none_idle ⟨i, st, listed, by omega, asks, by omega⟩

/-- Without slopes a schedule is complete exactly if it stands still and no stage without length
that would ask for somebody is ahead. Where no stage without length asks for anybody, it is complete
exactly if it stands still. -/
theorem isComplete_iff_standsStill (s : Schedule) (stepped : s.ramp = .step)
    (fits : nanos s.stages < Duration.limit) (t : Duration) :
    ∃ b, s.isComplete t = .ok b ∧
      (b = true ↔ s.StandsStill t ∧ ¬ HasIdleAhead s.stages t.nanos) ∧
      ((∀ st ∈ s.stages, st.duration.nanos = 0 → st.target = 0) →
        (b = true ↔ s.StandsStill t)) := by
  obtain ⟨b, looked⟩ := s.isComplete_ok (t := t) fits
  have complete_iff : b = true ↔ s.StandsStill t ∧ ¬ HasIdleAhead s.stages t.nanos := by
    rw [standsStill_iff stepped fits t, ← idle_pending_iff]
    constructor
    · rintro rfl
      exact idle_of_isComplete looked
    · intro idle
      exact Except.ok.inj (looked.symm.trans (isComplete_of_idle stepped fits idle))
  refine ⟨b, looked, complete_iff, ?_⟩
  intro unasked
  rw [complete_iff]
  refine ⟨And.left, fun still => ⟨still, ?_⟩⟩
  rintro ⟨i, st, listed, short, asks, -⟩
  exact asks (unasked st (List.mem_of_getElem? listed) short)

/-- Ten users for five seconds, then nobody for five. A stage of 500 without length comes last. -/
def trailed : Schedule where
  stages := [⟨.ofSeconds 5, 10⟩, ⟨.ofSeconds 5, 0⟩, ⟨.zero, 500⟩]
  ramp := .step

/-- At its end, with all stages over, it is complete. -/
theorem isComplete_iff_standsStill_of_trailed : trailed.ramp = .step ∧
    nanos trailed.stages < Duration.limit ∧ trailed.isComplete (.ofSeconds 10) = .ok true ∧
    trailed.StandsStill (.ofSeconds 10) := by
  have fits : nanos trailed.stages < Duration.limit := by decide
  have complete : trailed.isComplete (.ofSeconds 10) = .ok true := by decide
  obtain ⟨b, looked, complete_iff, -⟩ :=
    isComplete_iff_standsStill trailed rfl fits (.ofSeconds 10)
  have ended : b = true := Except.ok.inj (looked.symm.trans complete)
  exact ⟨rfl, fits, complete, (complete_iff.mp ended).1⟩

/-- Six seconds after the start it stands still, as its last stage is never active, and is not
complete. -/
theorem incomplete_standstill : trailed.ramp = .step ∧ nanos trailed.stages < Duration.limit ∧
    trailed.StandsStill (.ofSeconds 6) ∧ trailed.isComplete (.ofSeconds 6) = .ok false := by
  have fits : nanos trailed.stages < Duration.limit := by decide
  refine ⟨rfl, fits, (standsStill_iff rfl fits _).mpr ?_, by decide⟩
  decide

end Schedule
end PrecheckLoad
