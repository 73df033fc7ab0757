import Mathlib.Order.Bounds.Basic
import PrecheckLoad.Proofs.Fleet.Advance

/-!
# How long a shutdown takes

All users are told to stop at once, and those between two requests end at once. A request under way
is left under way until it completes. So the last of these completions is the first time at which
nobody is left.
-/
namespace PrecheckLoad
namespace Fleet

/-- When the requests under way complete. -/
def completions (f : Fleet) : Set Nat := {t | ∃ u ∈ f.users, ∃ x, u.phase = .inFlight t x}

/-- A shutdown that begins now takes until a time. -/
structure ShutsDown (w : Workload) (now stop : Nat) (f : Fleet) : Prop where
  latest : IsGreatest (insert now f.completions) stop
  /-- Before that time somebody is left, and from then on nobody. -/
  drained : IsLeast {s | now ≤ s ∧
    ∀ u ∈ ((f.halt now).advance w now s).users, u.isFinished = true} stop

variable {w : Workload} {limiter : Option Limiter} {now stop t : Nat} {x : Exchange} {f : Fleet}
  {u : User} {us : List User} {s : Shared}

theorem halt_users : (f.halt now).users = f.users.map fun u => { u with stopped := true } := by
  have active : (f.halt now).active = _ := stopAll_users f.active f.shared
  have retiring : (f.halt now).retiring = _ := stopAll_users f.retiring _
  rw [users, users, active, retiring, List.map_append]

/-- Telling users to stop does not touch their requests. -/
theorem halt_completions (now : Nat) (f : Fleet) : (f.halt now).completions = f.completions := by
  ext t
  constructor
  · rintro ⟨u, hu, x, phase⟩
    rw [halt_users] at hu
    obtain ⟨v, hv, rfl⟩ := List.mem_map.mp hu
    exact ⟨v, hv, x, phase⟩
  · rintro ⟨u, hu, x, phase⟩
    refine ⟨{ u with stopped := true }, ?_, x, phase⟩
    rw [halt_users]
    exact List.mem_map_of_mem hu

theorem foldl_exitTime_cases (now : Nat) (us : List User) :
    us.foldl (fun t u => max t (u.exitTime t)) now = now ∨
      ∃ u ∈ us, ∃ x, u.phase = .inFlight (us.foldl (fun t u => max t (u.exitTime t)) now) x := by
  induction us generalizing now with
  | nil => exact Or.inl rfl
  | cons u us ih =>
    rw [List.foldl_cons]
    rcases ih (max now (u.exitTime now)) with same | ⟨v, hv, x, phase⟩
    · rw [same]
      by_cases late : now < u.exitTime now
      · right
        rw [Nat.max_eq_right (Nat.le_of_lt late)]
        unfold User.exitTime at late ⊢
        split at late
        · next t x phase => exact ⟨u, List.mem_cons_self, x, phase⟩
        · omega
      · left
        exact Nat.max_eq_left (Nat.le_of_not_lt late)
    · exact Or.inr ⟨v, List.mem_cons_of_mem u hv, x, phase⟩

theorem lastCompletion_isGreatest :
    IsGreatest (insert now f.completions) (f.lastCompletion now) := by
  constructor
  · rw [lastCompletion_eq]
    exact foldl_exitTime_cases now f.users
  · rintro t (rfl | ⟨u, hu, x, phase⟩)
    · exact le_lastCompletion
    · exact due_le_lastCompletion hu phase

theorem mem_wakeAll_of_late (hu : u ∈ us) (phase : u.phase = .inFlight t x) (late : now < t) :
    u ∈ (wakeAll w now us s).1 := by
  induction us generalizing s with
  | nil => cases hu
  | cons v us ih =>
    rcases List.mem_cons.mp hu with rfl | hu
    · have same : (u.wake w now s).1 = u := by
        unfold User.wake
        rw [phase]
        exact congrArg Prod.fst (if_neg (Nat.not_le_of_lt late))
      exact List.mem_cons.mpr (Or.inl same.symm)
    · exact List.mem_cons_of_mem _ (ih hu)

theorem mem_settle_of_late (hu : u ∈ f.users) (phase : u.phase = .inFlight t x)
    (late : now < t) : u ∈ (f.settle w now).users := by
  rcases List.mem_append.mp hu with hu | hu
  · exact List.mem_append_left _ (mem_wakeAll_of_late hu phase late)
  · exact List.mem_append_right _ (mem_wakeAll_of_late hu phase late)

theorem mem_runUntil_of_late (hu : u ∈ f.users) (phase : u.phase = .inFlight t x)
    (late : stop < t) : u ∈ (f.runUntil w stop now).users := by
  fun_induction runUntil w stop now f with
  | case1 now f none => exact hu
  | case2 now f next due turn ih =>
    apply ih
    exact mem_settle_of_late hu phase (Nat.lt_of_le_of_lt turn.2 late)
  | case3 now f next due early => exact hu

/-- A request is under way until it completes, whatever time is given to users before. -/
theorem mem_advance_of_late (hu : u ∈ f.users) (phase : u.phase = .inFlight t x)
    (le : now ≤ stop) (late : stop < t) : u ∈ (f.advance w now stop).users := by
  apply mem_runUntil_of_late _ phase late
  exact mem_settle_of_late hu phase (Nat.lt_of_le_of_lt le late)

/-- A shutdown takes until the last request under way completes, and not a moment longer. -/
theorem Reachable.shutsDown (h : f.Reachable w limiter false now) :
    f.ShutsDown w now (f.shutdown w now).1 where
  latest := by
    rw [← f.halt_completions now]
    exact lastCompletion_isGreatest
  drained := by
    constructor
    · exact ⟨le_lastCompletion, h.shutdown.2⟩
    · rintro s ⟨le, drained⟩
      by_contra early
      -- Either nothing is under way, and `s` is late enough, or what completes last still is.
      rcases foldl_exitTime_cases now (f.halt now).users with same | ⟨u, hu, x, phase⟩
      · rw [← lastCompletion_eq] at same
        exact early (same.trans_le le)
      · rw [← lastCompletion_eq] at phase
        have left := drained u (mem_advance_of_late hu phase le (Nat.lt_of_not_le early))
        unfold User.isFinished at left
        rw [phase] at left
        cases left

end Fleet
end PrecheckLoad
