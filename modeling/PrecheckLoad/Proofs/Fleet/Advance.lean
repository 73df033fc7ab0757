import PrecheckLoad.Proofs.Fleet.Reachable
import PrecheckLoad.Script

/-!
# Letting time pass

Letting users run until a time is a course of single wakes and of quiet stretches between them, so
it leads from one reachable fleet to another. At its end no user has anything left to do up to that
time; where all users have been told to stop, and their requests are back, all are over.
-/
namespace PrecheckLoad
namespace Fleet

variable {w : Workload} {limiter : Option Limiter} {halted : Bool} {now later stop next : Nat}
  {f : Fleet} {s : Shared} {xs us : List User} {u : User}

/-- A time that may be missing is not before another. -/
def NotBefore (later : Nat) (due : Option Nat) : Prop := ∀ t, due = some t → later ≤ t

theorem notBefore_earlier {a b : Option Nat} :
    NotBefore later (earlier a b) ↔ NotBefore later a ∧ NotBefore later b := by
  unfold NotBefore
  cases a with
  | none => simp [earlier]
  | some a =>
    cases b with
    | none => simp [earlier]
    | some b =>
      simp only [earlier, Option.some.injEq, forall_eq']
      omega

theorem notBefore_foldl {due : Option Nat} :
    NotBefore later (us.foldl (fun t u => earlier t u.due?) due) ↔
      NotBefore later due ∧ ∀ u ∈ us, NotBefore later u.due? := by
  induction us generalizing due with
  | nil => simp
  | cons u us ih =>
    rw [List.foldl_cons, ih, notBefore_earlier, and_assoc, List.forall_mem_cons]

/-- The next time at which something is due is not before another exactly if nothing is. -/
theorem notBefore_nextDue? :
    NotBefore later f.nextDue? ↔ ∀ u ∈ f.users, NotBefore later u.due? := by
  rw [nextDue?, notBefore_foldl]
  exact and_iff_right fun t ht => by cases ht

theorem quiet_of_notBefore (quiet : u.Quiet now) (due : NotBefore later u.due?) :
    u.Quiet later := by
  rw [User.Quiet] at quiet ⊢
  rw [User.due?] at due
  cases phase : u.phase with
  | fresh => simp only [phase] at quiet
  | waiting t =>
    simp only [phase] at quiet due
    exact ⟨quiet.1, due t rfl⟩
  | inFlight t x =>
    simp only [phase] at due
    exact due t rfl
  | resting t =>
    simp only [phase] at quiet due
    exact ⟨quiet.1, due t rfl⟩
  | ended => trivial
  | crashed => trivial

/-- One of the two places of a fleet in which users are let run, all else being given. -/
structure Place (w : Workload) (now : Nat) (place : List User → Shared → Fleet) : Prop where
  wakes : ∀ xs u ys s, (place (xs ++ u :: ys) s).Wakes w now
    (place (xs ++ (u.wake w now s).1 :: ys) (u.wake w now s).2)
  mem : ∀ us s, ∀ u ∈ us, u ∈ (place us s).users
  shared : ∀ us s, (place us s).shared = s

theorem Place.wakeAll {place : List User → Shared → Fleet} (frame : Place w now place)
    {xs us : List User} (h : (place (xs ++ us) s).Reachable w limiter halted now) :
    (place (xs ++ (wakeAll w now us s).1) (wakeAll w now us s).2).Reachable w limiter halted now ∧
      ∀ u ∈ (wakeAll w now us s).1, u.Quiet (now + 1) := by
  induction us generalizing xs s with
  | nil => exact ⟨h, fun u hu => by cases hu⟩
  | cons u us ih =>
    have hu : u ∈ (place (xs ++ u :: us) s).users :=
      frame.mem _ s u (List.mem_append_right xs List.mem_cons_self)
    have agrees := h.sound.records.agrees u hu
    rw [frame.shared] at agrees
    have woken := h.wake (frame.wakes xs u us s)
    rw [← List.singleton_append, ← List.append_assoc] at woken
    obtain ⟨reached, rest⟩ := ih woken
    rw [List.append_assoc, List.singleton_append] at reached
    exact ⟨reached, List.forall_mem_cons.mpr ⟨User.wake_quiet agrees, rest⟩⟩

theorem Reachable.settle (h : f.Reachable w limiter halted now) :
    (f.settle w now).Reachable w limiter halted now ∧
      ∀ u ∈ (f.settle w now).users, u.Quiet (now + 1) := by
  let woken := Fleet.wakeAll w now f.active f.shared
  have active : Place w now fun us s => ⟨us, f.retiring, f.nextId, s⟩ :=
    ⟨fun _ _ _ _ => .active, fun us s u hu => List.mem_append_left _ hu, fun _ _ => rfl⟩
  have retiring : Place w now fun us s => ⟨woken.1, us, f.nextId, s⟩ :=
    ⟨fun _ _ _ _ => .retiring, fun us s u hu => List.mem_append_right _ hu, fun _ _ => rfl⟩
  have whole : Reachable w limiter halted now ⟨[] ++ f.active, f.retiring, f.nextId, f.shared⟩ := h
  obtain ⟨middle, first⟩ := active.wakeAll whole
  have rest : Reachable w limiter halted now ⟨woken.1, [] ++ f.retiring, f.nextId, woken.2⟩ :=
    middle
  obtain ⟨reached, second⟩ := retiring.wakeAll rest
  exact ⟨reached, List.forall_mem_append.mpr ⟨first, second⟩⟩

theorem Reachable.wait (h : f.Reachable w limiter halted now) (le : now ≤ stop)
    (quiet : ∀ u ∈ f.users, u.Quiet (now + 1)) (due : NotBefore (stop + 1) f.nextDue?) :
    f.Reachable w limiter halted stop ∧ ∀ u ∈ f.users, u.Quiet (stop + 1) := by
  have later : ∀ u ∈ f.users, u.Quiet (stop + 1) := fun u hu =>
    quiet_of_notBefore (quiet u hu) (notBefore_nextDue?.mp due u hu)
  exact ⟨h.pass le fun u hu => (later u hu).mono (Nat.le_succ stop), later⟩

theorem Reachable.runUntil (h : f.Reachable w limiter halted now) (le : now ≤ stop)
    (quiet : ∀ u ∈ f.users, u.Quiet (now + 1)) :
    (f.runUntil w stop now).Reachable w limiter halted stop ∧
      ∀ u ∈ (f.runUntil w stop now).users, u.Quiet (stop + 1) := by
  fun_induction Fleet.runUntil w stop now f with
  | case1 now f none => exact h.wait le quiet fun t ht => by rw [none] at ht; cases ht
  | case2 now f t due turn ih =>
    have between : ∀ u ∈ f.users, u.Quiet t := by
      have notBefore : NotBefore t f.nextDue? := fun t' ht' => by
        rw [due] at ht'
        cases ht'
        exact Nat.le_refl t
      exact fun u hu => quiet_of_notBefore (quiet u hu) (notBefore_nextDue?.mp notBefore u hu)
    have settled := (h.pass (Nat.le_of_lt turn.1) between).settle
    exact ih settled.1 turn.2 settled.2
  | case3 now f t due early =>
    refine h.wait le quiet fun t' ht' => ?_
    rw [due] at ht'
    cases ht'
    have ahead : NotBefore (now + 1) f.nextDue? :=
      notBefore_nextDue?.mpr fun u hu _ hd => (quiet u hu).le_due hd
    have := ahead t due
    omega

/-- Letting users run until a time leads to that time, with nothing left to do. -/
theorem Reachable.advance (h : f.Reachable w limiter halted now) (le : now ≤ stop) :
    (f.advance w now stop).Reachable w limiter halted stop ∧
      ∀ u ∈ (f.advance w now stop).users, u.Quiet (stop + 1) :=
  h.settle.1.runUntil le h.settle.2

theorem lastCompletion_eq :
    f.lastCompletion now = f.users.foldl (fun t u => max t (u.exitTime t)) now := by
  rw [lastCompletion]
  congr 1
  funext t u
  rw [User.exitTime]
  cases u.phase <;> simp

theorem le_foldl_exitTime {us : List User} :
    now ≤ us.foldl (fun t u => max t (u.exitTime t)) now := by
  induction us generalizing now with
  | nil => exact Nat.le_refl now
  | cons u us ih => exact Nat.le_trans (Nat.le_max_left _ _) ih

theorem le_lastCompletion : now ≤ f.lastCompletion now := by
  rw [lastCompletion_eq]
  exact le_foldl_exitTime

theorem due_le_lastCompletion {t : Nat} {x : Exchange} (hu : u ∈ f.users)
    (phase : u.phase = .inFlight t x) : t ≤ f.lastCompletion now := by
  rw [lastCompletion_eq]
  obtain ⟨before, after, split⟩ := List.append_of_mem hu
  rw [split, List.foldl_append, List.foldl_cons]
  refine Nat.le_trans ?_ le_foldl_exitTime
  rw [User.exitTime, phase]
  exact Nat.le_max_right _ _

/-- After the last request is back nobody is left. -/
theorem finished_of_quiet {v : User} (stopped : u.stopped = true)
    (back : ∀ t x, u.phase = .inFlight t x → t ≤ stop) (continues : u.Continues v)
    (quiet : v.Quiet (stop + 1)) : v.isFinished = true := by
  rcases continues.leaves stopped with rfl | finished
  · rcases quiet.of_stopped stopped with finished | ⟨t, x, phase, late⟩
    · exact finished
    · have := back t x phase
      omega
  · exact finished

/-- A shutdown leads to the time at which the last request under way completes, and all users are
over then. -/
theorem Reachable.shutdown (h : f.Reachable w limiter false now) :
    (f.shutdown w now).2.Reachable w limiter true (f.shutdown w now).1 ∧
      ∀ u ∈ (f.shutdown w now).2.users, u.isFinished = true := by
  have halted := h.halt
  have le : now ≤ (f.halt now).lastCompletion now := le_lastCompletion
  obtain ⟨reached, quiet⟩ := halted.advance le
  refine ⟨reached, fun v hv => ?_⟩
  obtain ⟨u, hu, continues⟩ := ((f.halt now).advance_continues).users v hv
  have stopped : u.stopped = true := by
    rcases List.mem_append.mp hu with hu | hu
    · exact halted.sound.active u hu
    · exact halted.sound.retiring u hu
  exact finished_of_quiet stopped (fun t x => due_le_lastCompletion hu) continues (quiet v hv)

end Fleet

/-- Users who never rest, and whose requests are all refused after a millisecond. -/
def Workload.refused : Workload where
  url := "http://localhost:3000/flashsale/precheck"
  seed := 7
  pattern := {}
  execute := scripted []
  checks := []
  pacing := .none

end PrecheckLoad
