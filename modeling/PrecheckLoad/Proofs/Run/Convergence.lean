import PrecheckLoad.Proofs.Fleet.Bookkeeping
import PrecheckLoad.Proofs.Run.Arithmetic

/-!
# Who runs after a fleet has been brought to a target

A fleet counts the users that it has not told to stop. Those that have crashed are among them, so
each of them keeps a place that nobody fills, and the users that run fall short of the target by
their number.
-/
namespace PrecheckLoad
namespace Fleet

/-- The users that run, or are about to, and have not been told to stop. -/
def running (f : Fleet) : List User := f.users.filter fun u => !u.stopped && !u.isFinished

/-- The fleet has been brought to a target, places of crashed users included. -/
structure Converged (w : Workload) (target : Nat) (f : Fleet) : Prop where
  distinct : (f.running.map User.id).Nodup
  /-- As the history has it, these have been spawned and neither stopped nor ended. -/
  running : ∀ id, id ∈ f.running.map User.id ↔ (∃ t, .spawned id t ∈ f.shared.history) ∧
    ¬ WasStopped f.shared.history id ∧ ¬ HasEnded f.shared.history id
  places : f.running.length + (f.active.filter User.isFinished).length = target
  lost : ∀ u ∈ f.active, u.isFinished = true ↔ Overrun w f.shared.history u.id

variable {w : Workload} {limiter : Option Limiter} {now target : Nat} {f : Fleet}

/-- None of those that retire counts as running. -/
theorem Sound.running_eq (h : f.Sound w false now) :
    f.running = f.active.filter fun u => !u.isFinished := by
  have retiring : (f.retiring.filter fun u => !u.stopped && !u.isFinished) = [] := by
    rw [List.filter_eq_nil_iff]
    intro u hu
    simp [h.retiring u hu]
  have active : (f.active.filter fun u => !u.stopped && !u.isFinished) =
      f.active.filter fun u => !u.isFinished := by
    apply List.filter_congr
    intro u hu
    simp [h.active u hu]
  rw [running, users, List.filter_append, retiring, active, List.append_nil]

/-- Who has been spawned and not ended is still there. -/
theorem Sound.exists_of_spawned (h : f.Sound w false now) {id : Nat}
    (spawned : ∃ t, .spawned id t ∈ f.shared.history) (left : ¬ HasEnded f.shared.history id) :
    ∃ u ∈ f.users, u.id = id := by
  obtain ⟨t, mem⟩ := spawned
  have known := h.records.known _ mem
  by_contra absent
  apply left
  rw [← finished_iff (w := w)]
  apply h.records.gone id known.1 known.2
  intro u hu same
  exact absent ⟨u, hu, same⟩

theorem Sound.mem_running_iff (h : f.Sound w false now) (id : Nat) :
    id ∈ f.running.map User.id ↔ (∃ t, .spawned id t ∈ f.shared.history) ∧
      ¬ WasStopped f.shared.history id ∧ ¬ HasEnded f.shared.history id := by
  rw [List.mem_map]
  constructor
  · rintro ⟨u, hu, rfl⟩
    obtain ⟨present, runs⟩ := List.mem_filter.mp hu
    rw [Bool.and_eq_true, Bool.not_eq_true', Bool.not_eq_true'] at runs
    have agrees := h.records.agrees u present
    have number := h.records.numbered u present
    refine ⟨?_, ?_, ?_⟩
    · rw [← mem_spawnedIds, h.records.spawned, List.mem_range'_1]
      omega
    · rw [← deadline_isSome_iff (w := w), agrees.told, runs.1]
      exact Bool.false_ne_true
    · rw [← finished_iff (w := w), agrees.finished, runs.2]
      exact Bool.false_ne_true
  · rintro ⟨spawned, untold, left⟩
    obtain ⟨u, hu, rfl⟩ := h.exists_of_spawned spawned left
    have agrees := h.records.agrees u hu
    refine ⟨u, List.mem_filter.mpr ⟨hu, ?_⟩, rfl⟩
    rw [← deadline_isSome_iff (w := w), agrees.told] at untold
    rw [← finished_iff (w := w), agrees.finished] at left
    rw [Bool.eq_false_iff.mpr untold, Bool.eq_false_iff.mpr left]
    rfl

/-- Whatever has become of its users, a fleet converges on each target that it is brought to. -/
theorem Reachable.converged (h : f.Reachable w limiter false now)
    (accepted : w.pattern.validate = .ok ()) (target : Nat) :
    (f.reconcile now target).Converged w target := by
  have after := h.reconcile target
  have sound := after.sound
  constructor
  · exact sound.records.distinct.sublist (List.filter_sublist.map User.id)
  · exact sound.mem_running_iff
  · have whole := List.length_eq_length_filter_add (l := (f.reconcile now target).active)
      User.isFinished
    have live : (f.reconcile now target).active.length = target := (h.reconciled target).live
    rw [sound.running_eq]
    omega
  · intro u hu
    have agrees := sound.records.agrees u (List.mem_append_left _ hu)
    rw [← agrees.finished, finished_iff]
    exact after.hasEnded_iff accepted (sound.booked.unstopped u hu).2

theorem Converged.running_iff (h : f.Converged w target) : f.running.length = target ↔
    ∀ u ∈ f.active, ¬ Overrun w f.shared.history u.id := by
  have places := h.places
  have all : f.running.length = target ↔ (f.active.filter User.isFinished).length = 0 := by omega
  rw [all, List.length_eq_zero_iff, List.filter_eq_nil_iff]
  exact forall₂_congr fun u hu => not_congr (h.lost u hu)

end Fleet

namespace LoadTest

/-- Whenever a validated run has brought its fleet to a target, the users that run are those spawned
that neither were told to stop nor have ended, and with the crashed ones among the active they make
up the target. So they are as many as they should be exactly if no rest of an active user was too
long, as is the case where all rests are durations. -/
theorem running_eq_target_iff (t : LoadTest) (seed : UInt64) (execute : Executor) {now : Nat}
    {f : Fleet} (valid : t.config.validate = .ok ())
    (reached : f.Reachable (t.plan seed execute).workload t.limiter false now) (target : Nat) :
    let w := (t.plan seed execute).workload
    let g := f.reconcile now target
    g.Converged w target ∧
    (g.running.length = target ↔ ∀ u ∈ g.active, ¬ Overrun w g.shared.history u.id) ∧
    ((∀ x, t.config.pacing.span x < Duration.limit) → g.running.length = target) := by
  intro w g
  have converged : g.Converged w target :=
    reached.converged (Config.validate_eq_ok.mp valid).pattern target
  refine ⟨converged, converged.running_iff, ?_⟩
  intro rests
  rw [converged.running_iff]
  rintro u - ⟨i, time, sample, checks, -, delay⟩
  obtain ⟨rest, rested⟩ := (t.config.pacing.delay_ok_iff (w.context u.id i)).mpr (rests _)
  cases rested.symm.trans delay

/-- Of two users that rest for a millisecond, both run when the fleet is brought to two again. -/
theorem running_eq_target_of_capped :
    let w := (capped.plan 7 losesSlowly).workload
    let f := (({ shared := { limiter := capped.limiter } } : Fleet).reconcile 0 2).advance w 0 8
    (f.reconcile 8 2).running.length = 2 := by
  intro w f
  have begun : Fleet.Reachable w capped.limiter false 0
      { shared := { limiter := capped.limiter } } := .start
  have reached := ((begun.reconcile 2).advance (Nat.zero_le 8)).1
  have rests : ∀ x, capped.config.pacing.span x < Duration.limit := by
    intro x
    exact Nat.lt_of_le_of_lt (Pacing.span_le_longest _ x) (by decide +kernel)
  exact (running_eq_target_iff capped 7 losesSlowly capped_valid reached 2).2.2 rests

/-- After its first request the user has crashed, and the fleet that is brought to one again leaves
it in its place, so that nobody runs. -/
theorem crashed_user_keeps_place :
    let w := (weary.plan 7 (answersAfter 1 (by decide))).workload
    let f := (({ shared := { limiter := weary.limiter } } : Fleet).reconcile 0 1).advance w 0 10
    weary.config.validate = .ok () ∧ f.Reachable w weary.limiter false 10 ∧
      (f.reconcile 10 1).live = 1 ∧ (f.reconcile 10 1).running.length = 0 := by
  intro w f
  have begun : Fleet.Reachable w weary.limiter false 0
      { shared := { limiter := weary.limiter } } := .start
  have reached := ((begun.reconcile 1).advance (Nat.zero_le 10)).1
  exact ⟨weary_valid, reached, (reached.reconciled 1).live, by decide +kernel⟩

end LoadTest
end PrecheckLoad
