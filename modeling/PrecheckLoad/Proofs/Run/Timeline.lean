import Mathlib.Data.List.Destutter
import PrecheckLoad.Proofs.Fleet.Bookkeeping
import PrecheckLoad.Proofs.Run.Ending

/-!
# The timeline of a run

At each tick a run notes the target where it differs from the one noted last, so of consecutive
looks at one target the first is noted. The run that is reported has looked last at a complete
schedule, which has no target. Users are active in the numbers that were looked at before.
-/
namespace PrecheckLoad

section Destutter

variable {α : Type} {R : α → α → Prop} [DecidableRel R] {a b : α} {l : List α}

theorem destutter'_starts (a : α) (l : List α) : ∃ rest, l.destutter' R a = a :: rest := by
  induction l with
  | nil => exact ⟨[], rfl⟩
  | cons b l ih =>
    by_cases differs : R a b
    · exact ⟨l.destutter' R b, List.destutter'_cons_pos _ differs⟩
    · rw [List.destutter'_cons_neg _ differs]
      exact ih

theorem getLast?_cons_destutter' (a b : α) (l : List α) :
    (a :: l.destutter' R b).getLast? = (l.destutter' R b).getLast? := by
  obtain ⟨rest, kept⟩ := destutter'_starts (R := R) b l
  rw [kept, List.getLast?_cons_cons]

/-- One more element is kept if it differs from the last that was kept. -/
theorem destutter'_concat (last : (l.destutter' R a).getLast? = some b) (c : α) :
    (l ++ [c]).destutter' R a = l.destutter' R a ++ if R b c then [c] else [] := by
  induction l generalizing a with
  | nil =>
    obtain rfl : a = b := Option.some.inj last
    by_cases changes : R a c
    · rw [if_pos changes]
      exact List.destutter'_cons_pos _ changes
    · rw [if_neg changes]
      exact List.destutter'_cons_neg _ changes
  | cons d l ih =>
    rw [List.cons_append]
    by_cases changes : R a d
    · rw [List.destutter'_cons_pos _ changes] at last ⊢
      rw [getLast?_cons_destutter'] at last
      rw [List.destutter'_cons_pos _ changes, ih last, List.cons_append]
    · rw [List.destutter'_cons_neg _ changes] at last ⊢
      rw [List.destutter'_cons_neg _ changes, ih last]

end Destutter

/-- The target has changed. -/
def Transition.Differs (a b : Transition) : Prop := a.target ≠ b.target

instance : DecidableRel Transition.Differs :=
  fun a b => inferInstanceAs (Decidable (a.target ≠ b.target))

namespace Run

variable {p : Plan} {limiter : Option Limiter} {k now : Nat} {st st' : State} {seen : Transition}
  {past : List Transition}

/-- A state has noted each change of the target in what has been seen. -/
def State.Noted (past : List Transition) (st : State) : Prop :=
  st.timeline.reverse = past.destutter Transition.Differs

theorem State.Noted.note (h : st.Noted past) (seen : Transition) :
    (st.note seen.elapsed seen.target).Noted (past ++ [seen]) := by
  unfold Noted at h ⊢
  cases past with
  | nil =>
    have blank : st.timeline = [] := List.reverse_eq_nil_iff.mp h
    rw [State.note, blank]
    rfl
  | cons first past =>
    -- The entry on top of the timeline is the last that was kept, which decides about the next.
    rw [List.destutter_cons'] at h
    rw [List.cons_append, List.destutter_cons']
    obtain ⟨rest, kept⟩ := destutter'_starts (R := Transition.Differs) first past
    cases timeline : st.timeline with
    | nil =>
      rw [timeline, kept] at h
      cases h
    | cons last earlier =>
      have noted : (past.destutter' Transition.Differs first).getLast? = some last := by
        rw [← h, timeline, List.getLast?_reverse]
        rfl
      have latest : st.timeline.head?.map (·.target) = some last.target := by rw [timeline]; rfl
      rw [destutter'_concat noted, ← h, State.note, latest]
      by_cases same : last.target = seen.target
      · have still : ¬ last.Differs seen := not_not_intro same
        rw [if_pos (congrArg some same), if_neg still, List.append_nil]
      · have changed : last.Differs seen := same
        rw [if_neg fun equal => same (Option.some.inj equal), if_pos changed]
        exact List.reverse_cons

/-- The last target seen is that of the last entry. -/
theorem State.target_of_note (st : State) (elapsed : Duration) (target : UInt64) :
    (st.note elapsed target).timeline.head?.map (·.target) = some target := by
  rw [note]
  split
  · next same => exact same
  · rfl

namespace Plan

theorem Comes.noted (h : p.Comes limiter past st) : st.Noted past := by
  induction h with
  | start => rfl
  | @tick past st seen before looked goes_on ih =>
    have noted := ih.note seen
    unfold State.Noted at noted ⊢
    rw [goOn_timeline, noted]

/-- The largest target seen is the largest number of users. -/
theorem Comes.peak (h : p.Comes limiter past st) :
    st.peak = (past.map (·.target.toNat)).max?.getD 0 := by
  have folded : st.peak = (past.map (·.target.toNat)).foldl max 0 := by
    induction h with
    | start => rfl
    | @tick past st seen before looked goes_on ih =>
      have live := (before.reachable.reconciled seen.target.toNat).live
      rw [goOn_peak, live, ih, List.map_append, List.foldl_append]
      rfl
  rw [folded, List.foldl_max, Nat.zero_max]

end Plan
end Run

/-- A timeline begins at once and ends without a target; its entries are at ticks, one after the
other, and each changes the target. -/
structure IsTimeline (interval : Duration) (timeline : List Transition) : Prop where
  starts : timeline.head?.map (·.elapsed) = some .zero
  ascending : (timeline.map (·.elapsed.nanos)).Pairwise (· < ·)
  regular : ∀ e ∈ timeline, interval.nanos ∣ e.elapsed.nanos
  changes : timeline.IsChain Transition.Differs
  ends : timeline.getLast?.map (·.target) = some 0

namespace Run.Plan

variable {p : Plan} {limiter : Option Limiter} {k : Nat} {st st' : State} {seen : Transition}
  {past looks : List Transition}

theorem nanos_of_looks (looked : (List.range k).mapM p.look = .ok looks) :
    looks.map (·.elapsed.nanos) = (List.range k).map (· * p.interval.nanos) :=
  map_of_mapM_eq_ok (fun _ _ looked => (look_eq_ok looked).1) looked

theorem ascending_of_looks (pos : 0 < p.interval.nanos)
    (looked : (List.range k).mapM p.look = .ok looks) :
    (looks.map (·.elapsed.nanos)).Pairwise (· < ·) := by
  rw [nanos_of_looks looked, List.pairwise_map]
  apply List.pairwise_lt_range.imp
  intro a b less
  exact Nat.mul_lt_mul_of_pos_right less pos

theorem starts_of_looks (looked : (List.range (k + 1)).mapM p.look = .ok looks) :
    (looks.destutter Transition.Differs).head?.map (·.elapsed) = some .zero := by
  have times := nanos_of_looks looked
  rw [List.range_succ_eq_map, List.map_cons] at times
  cases looks with
  | nil => cases times
  | cons first rest =>
    rw [List.map_cons] at times
    have zero : first.elapsed = .zero :=
      Duration.eq_of_nanos ((List.cons.inj times).1.trans (Nat.zero_mul _))
    obtain ⟨rest', kept⟩ := destutter'_starts (R := Transition.Differs) first rest
    rw [List.destutter_cons', kept, List.head?_cons, Option.map_some, zero]

theorem Leaves.noted (h : p.Leaves limiter past seen st st') : st'.Noted (past ++ [seen]) := by
  rw [h.state]
  exact h.before.noted.note seen

/-- A run that leaves has noted a timeline. -/
theorem Leaves.isTimeline (h : p.Leaves limiter past seen st st') (pos : 0 < p.interval.nanos) :
    IsTimeline p.interval st'.timeline.reverse := by
  have noted : st'.timeline.reverse = (past ++ [seen]).destutter Transition.Differs := h.noted
  have kept : (st'.timeline.reverse).Sublist (past ++ [seen]) := by
    rw [noted]
    exact List.destutter_sublist _ _
  exact
    { starts := by
        rw [noted]
        exact starts_of_looks h.looks
      ascending := (ascending_of_looks pos h.looks).sublist (kept.map _)
      regular := by
        intro e mem
        obtain ⟨j, -, looked⟩ := mem_of_mapM_eq_ok h.looks (kept.mem mem)
        rw [(look_eq_ok looked).1]
        exact Nat.dvd_mul_left _ _
      changes := by
        rw [noted]
        exact List.isChain_destutter _ _
      ends := by
        rw [List.getLast?_reverse, h.state, State.target_of_note, h.target] }

/-- Under the stepped ramp there are never more users than the stages have at most. -/
theorem Comes.peak_le (h : p.Comes limiter past st) (stepped : p.schedule.ramp = .step) :
    st.peak ≤ p.schedule.peak.toNat := by
  rw [h.peak]
  cases largest : (past.map (·.target.toNat)).max? with
  | none => exact Nat.zero_le _
  | some n =>
    obtain ⟨e, listed, rfl⟩ := List.mem_map.mp (List.max?_mem largest)
    obtain ⟨j, -, looked⟩ := mem_of_mapM_eq_ok h.looks listed
    exact Schedule.target_le_peak stepped (look_eq_ok looked).2

/-- A run that is over has left its ticks. -/
theorem leaves_of_run {r : Result} (whole : 1000000 ∣ p.interval.nanos)
    (pos : 0 < p.interval.nanos) (ran : p.run limiter = .ok r) :
    ∃ past seen st st', p.Leaves limiter past seen st st' ∧
      p.ticks p.tickBound 0 (.first limiter) = .ok (tickTime p.interval past.length, st') ∧
      r.timeline = st'.timeline.reverse ∧ r.peak = st'.peak := by
  rw [run_eq] at ran
  obtain ⟨⟨now, st'⟩, ticked, ran⟩ := bind_eq_ok.mp ran
  obtain ⟨elapsed, -, ran⟩ := bind_eq_ok.mp ran
  have begun : p.Comes limiter [] (.first limiter) := .start
  obtain ⟨past, seen, st, left, rfl⟩ :=
    leaves_of_ticks whole pos begun (Nat.zero_add _) ticked
  cases ran
  exact ⟨past, seen, st, st', left, ticked, rfl, rfl⟩

end Run.Plan

namespace LoadTest

/-- The timeline has the first of all equal looks that a run takes of its schedule, tick by tick
until it is complete, and the number of users goes up to the largest target that is seen before.
So it is reported. -/
theorem timeline_faithful (t : LoadTest) (seed : UInt64) (execute : Executor) (r : Run.Result)
    (valid : t.config.validate = .ok ()) (whole : 1000000 ∣ t.config.reconcileInterval.nanos)
    (ran : (t.plan seed execute).run t.limiter = .ok r) :
    let p := t.plan seed execute
    (∃ k looks, IsLeast {k | t.config.schedule.CompleteAt (k * p.interval.nanos)} k ∧
      (∃ st, p.ticks p.tickBound 0 (.first t.limiter) = .ok (Run.tickTime p.interval k, st)) ∧
      (List.range (k + 1)).mapM p.look = .ok looks ∧
      r.timeline = looks.destutter Transition.Differs ∧
      r.peak = ((looks.take k).map (·.target.toNat)).max?.getD 0) ∧
    IsTimeline p.interval r.timeline ∧
    (t.config.ramp = .step → r.peak ≤ t.config.schedule.peak.toNat) ∧
    ∀ report, t.run seed execute = .ok (r, report) →
      report.timeline = r.timeline ∧ report.peakUsers = r.peak := by
  intro p
  have pos : 0 < p.interval.nanos := Config.interval_pos valid
  obtain ⟨past, seen, st, st', left, ticked, noted, largest⟩ :=
    Run.Plan.leaves_of_run whole pos ran
  have still : st'.peak = st.peak := by rw [left.state, Run.State.note_peak]
  rw [noted, largest, still]
  refine ⟨⟨past.length, past ++ [seen], left.isLeast, ⟨st', ticked⟩, left.looks, left.noted, ?_⟩,
    left.isTimeline pos, left.before.peak_le, ?_⟩
  · rw [List.take_left]
    exact left.before.peak
  · intro report reported
    obtain ⟨-, timeline, peak⟩ := report_of_result (run_eq_ok reported).2
    exact ⟨timeline.trans noted, peak.trans (largest.trans still)⟩

/-- Four users are planned for a millisecond between two ticks. -/
def overlooked : LoadTest where
  config := {
    name := "overlooked"
    baseUrl := "http://localhost:3000"
    stages := [⟨.ofMillis 1, 0⟩, ⟨.ofMillis 1, 4⟩, ⟨.ofMillis 2, 0⟩]
    reconcileInterval := .ofMillis 2 }
  thresholds := []
  checks := []

/-- Two users are active in the only stage, and the tick after it finds none planned for. A stage
into which no tick falls is not reported. -/
theorem timeline_faithful_of_capped :
    (∃ r, (capped.plan 7 (scripted [])).run capped.limiter = .ok r ∧
      r.timeline = [⟨.zero, 2⟩, ⟨.ofMillis 3, 0⟩] ∧ r.peak = 2 ∧
      IsTimeline capped.config.reconcileInterval r.timeline) ∧
    ∃ r report, overlooked.run 7 (scripted []) = .ok (r, report) ∧
      report.timeline = [⟨.zero, 0⟩] ∧ report.peakUsers = 0 := by
  constructor
  · have evaluated : ((capped.plan 7 (scripted [])).run capped.limiter).toOption.map
        (fun r => (r.timeline, r.peak)) = some ([⟨.zero, 2⟩, ⟨.ofMillis 3, 0⟩], 2) := by
      decide +kernel
    obtain ⟨r, ran, noted⟩ := exists_ok_of_toOption evaluated
    have whole : 1000000 ∣ capped.config.reconcileInterval.nanos := by decide
    have faithful := timeline_faithful capped 7 (scripted []) r capped_valid whole ran
    exact ⟨r, ran, (Prod.mk.inj noted).1, (Prod.mk.inj noted).2, faithful.2.1⟩
  · have evaluated : (overlooked.run 7 (scripted [])).toOption.map
        (fun ended => (ended.1.timeline, ended.1.peak)) = some ([⟨.zero, 0⟩], 0) := by
      decide +kernel
    have accepted : overlooked.config.validate.toOption.map id = some () := by decide +kernel
    obtain ⟨⟨r, report⟩, ran, noted⟩ := exists_ok_of_toOption evaluated
    obtain ⟨_, valid, -⟩ := exists_ok_of_toOption accepted
    have whole : 1000000 ∣ overlooked.config.reconcileInterval.nanos := by decide
    have faithful := timeline_faithful overlooked 7 (scripted []) r valid whole (run_eq_ok ran).1
    obtain ⟨timeline, peak⟩ := faithful.2.2.2 report ran
    exact ⟨r, report, ran, timeline.trans (Prod.mk.inj noted).1, peak.trans (Prod.mk.inj noted).2⟩

end LoadTest
end PrecheckLoad
