import PrecheckLoad.Proofs.Fleet.Course
import PrecheckLoad.Proofs.Fleet.Records

/-!
# What a fleet can come to

A fleet is reached by bringing it to targets, by letting its users run one at a time and in any
order, by letting time pass in which no user has anything to do, and at last by telling all users
to stop. Whatever the order, its records are sound.
-/
namespace PrecheckLoad
namespace Fleet

variable {w : Workload} {limiter : Option Limiter} {halted : Bool} {now stop target : Nat}
  {f g : Fleet}

/-- One user is let run. -/
inductive Wakes (w : Workload) (now : Nat) : Fleet → Fleet → Prop
  | active {xs ys : List User} {u : User} {retiring : List User} {next : Nat} {s : Shared} :
    Wakes w now ⟨xs ++ u :: ys, retiring, next, s⟩
      ⟨xs ++ (u.wake w now s).1 :: ys, retiring, next, (u.wake w now s).2⟩
  | retiring {xs ys : List User} {u : User} {active : List User} {next : Nat} {s : Shared} :
    Wakes w now ⟨active, xs ++ u :: ys, next, s⟩
      ⟨active, xs ++ (u.wake w now s).1 :: ys, next, (u.wake w now s).2⟩

/-- A fleet that began without users is in this state at this time; all users have been told to
stop, or they have not. -/
inductive Reachable (w : Workload) (limiter : Option Limiter) : Bool → Nat → Fleet → Prop
  | start : Reachable w limiter false 0 { shared := { limiter } }
  | reconcile (target : Nat) {now : Nat} {f : Fleet} (before : Reachable w limiter false now f) :
    Reachable w limiter false now (f.reconcile now target)
  | wake {halted : Bool} {now : Nat} {f g : Fleet} (before : Reachable w limiter halted now f)
    (wakes : f.Wakes w now g) : Reachable w limiter halted now g
  | pass {halted : Bool} {now later : Nat} {f : Fleet} (before : Reachable w limiter halted now f)
    (le : now ≤ later) (quiet : ∀ u ∈ f.users, u.Quiet later) :
    Reachable w limiter halted later f
  | halt {now : Nat} {f : Fleet} (before : Reachable w limiter false now f) :
    Reachable w limiter true now (f.halt now)

/-- The books of a fleet are in order. -/
structure Sound (w : Workload) (halted : Bool) (now : Nat) (f : Fleet) : Prop where
  records : Records w now f.nextId f.users f.shared.history
  ascending : (f.active.map User.id).Pairwise (· < ·)
  active : ∀ u ∈ f.active, u.stopped = halted
  retiring : ∀ u ∈ f.retiring, u.stopped = true

theorem stopAll_users (us : List User) (s : Shared) :
    (stopAll now us s).1 = us.map fun u => { u with stopped := true } := by
  induction us generalizing s with
  | nil => rfl
  | cons u us ih => exact congrArg (_ :: ·) (ih _)

theorem stopAll_history (us : List User) (s : Shared) :
    (stopAll now us s).2.history =
      (us.map fun u => Event.stopped u.id now).reverse ++ s.history := by
  induction us generalizing s with
  | nil => rfl
  | cons u us ih =>
    rw [stopAll, List.map_cons, List.reverse_cons, List.append_assoc]
    exact ih _

theorem map_id_stopAll (us : List User) (s : Shared) :
    (stopAll now us s).1.map User.id = us.map User.id := by
  rw [stopAll_users, List.map_map]
  rfl

theorem stopped_of_mem_stopAll {us : List User} {s : Shared} {v : User}
    (h : v ∈ (stopAll now us s).1) : v.stopped = true := by
  rw [stopAll_users] at h
  obtain ⟨u, -, rfl⟩ := List.mem_map.mp h
  rfl

theorem map_id_replace {xs ys : List User} {u v : User} (id : v.id = u.id) :
    (xs ++ v :: ys).map User.id = (xs ++ u :: ys).map User.id := by
  rw [List.map_append, List.map_append, List.map_cons, List.map_cons, id]

theorem mem_replace {xs ys : List User} {u v x : User} (h : x ∈ xs ++ v :: ys) :
    x = v ∨ x ∈ xs ++ u :: ys := by
  rcases List.mem_append.mp h with h | h
  · exact Or.inr (List.mem_append_left _ h)
  · rcases List.mem_cons.mp h with rfl | h
    · exact Or.inl rfl
    · exact Or.inr (List.mem_append_right _ (List.mem_cons_of_mem u h))

namespace Sound

theorem start : Sound w false 0 { shared := { limiter } } where
  records := .start
  ascending := List.Pairwise.nil
  active := fun u hu => by cases hu
  retiring := fun u hu => by cases hu

theorem reap (h : f.Sound w halted now) : f.reap.Sound w halted now where
  records := by
    refine h.records.forget ((List.Sublist.refl _).append List.filter_sublist) ?_
    intro u hu dropped
    rcases List.mem_append.mp hu with hu | hu
    · exact absurd (List.mem_append_left _ hu) dropped
    · by_cases finished : u.isFinished = true
      · exact finished
      · refine absurd (List.mem_append_right _ (List.mem_filter.mpr ⟨hu, ?_⟩)) dropped
        rw [Bool.eq_false_iff.mpr finished]
        rfl
  ascending := h.ascending
  active := h.active
  retiring := fun u hu => h.retiring u (List.mem_filter.mp hu).1

theorem spawnOne (h : f.Sound w false now) : (f.spawnOne now).Sound w false now where
  records := by
    refine h.records.spawn.perm ?_
    rw [users, users, Fleet.spawnOne, List.append_assoc, List.append_assoc]
    exact (List.Perm.refl _).append List.perm_append_comm
  ascending := by
    rw [Fleet.spawnOne, List.map_append]
    refine List.pairwise_append.mpr ⟨h.ascending, by simp, fun a ha b hb => ?_⟩
    obtain ⟨u, hu, rfl⟩ := List.mem_map.mp ha
    have below := (h.records.numbered u (List.mem_append_left _ hu)).2
    have same : b = f.nextId := by simpa using hb
    omega
  active := fun u hu => by
    rcases List.mem_append.mp hu with hu | hu
    · exact h.active u hu
    · rw [List.mem_singleton.mp hu]
  retiring := h.retiring

theorem spawn (n : Nat) (h : f.Sound w false now) : (f.spawn now n).Sound w false now := by
  induction n generalizing f with
  | zero => exact h
  | succ n ih => exact ih h.spawnOne

theorem retire (h : f.Sound w false now) : (f.retire now target).Sound w false now where
  records := by
    have split : f.users.Perm ((f.active.drop target).reverse ++
        (f.active.take target ++ f.retiring)) := by
      have parts : f.users = (f.active.take target ++ f.active.drop target) ++ f.retiring := by
        rw [List.take_append_drop, users]
      rw [parts, ← List.append_assoc]
      refine List.Perm.append ?_ (List.Perm.refl _)
      exact List.perm_append_comm.trans ((List.reverse_perm _).symm.append (List.Perm.refl _))
    refine ((h.records.perm split).stopAll _).perm (List.perm_append_comm.trans ?_)
    rw [List.append_assoc]
    exact List.Perm.refl _
  ascending := by
    refine h.ascending.sublist (List.Sublist.map User.id ?_)
    exact List.take_sublist target f.active
  active := fun u hu => h.active u (List.mem_of_mem_take hu)
  retiring := fun u hu => by
    rcases List.mem_append.mp hu with hu | hu
    · exact h.retiring u hu
    · exact stopped_of_mem_stopAll hu

theorem reconcile (target : Nat) (h : f.Sound w false now) :
    (f.reconcile now target).Sound w false now := by
  unfold Fleet.reconcile
  dsimp only
  split
  · exact h.reap.spawn _
  · split
    · exact h.reap.retire
    · exact h.reap

theorem halt (h : f.Sound w false now) : (f.halt now).Sound w true now where
  records := by
    have first := h.records.stopAll f.active
    have second := (first.perm List.perm_append_comm).stopAll f.retiring
    exact second.perm List.perm_append_comm
  ascending := by
    rw [Fleet.halt, map_id_stopAll]
    exact h.ascending
  active := fun u hu => stopped_of_mem_stopAll hu
  retiring := fun u hu => stopped_of_mem_stopAll hu

theorem wake (h : f.Sound w halted now) (wakes : f.Wakes w now g) : g.Sound w halted now := by
  cases wakes with
  | @active xs ys u retiring next s =>
    have hu : u ∈ (xs ++ u :: ys) := List.mem_append_right xs List.mem_cons_self
    have agrees := h.records.agrees u (List.mem_append_left retiring hu)
    have continues : u.Continues (u.wake w now s).1 := u.wake_continues
    exact
      { records := by
          have records := h.records
          rw [users, List.append_assoc, List.cons_append] at records ⊢
          exact records.change_at (User.wake_change agrees)
        ascending := by
          rw [map_id_replace continues.id]
          exact h.ascending
        active := fun v hv => by
          rcases mem_replace hv with rfl | hv
          · exact continues.stopped.trans (h.active u hu)
          · exact h.active v hv
        retiring := h.retiring }
  | @retiring xs ys u active next s =>
    have hu : u ∈ (xs ++ u :: ys) := List.mem_append_right xs List.mem_cons_self
    have agrees := h.records.agrees u (List.mem_append_right active hu)
    have continues : u.Continues (u.wake w now s).1 := u.wake_continues
    exact
      { records := by
          have records := h.records
          rw [users, ← List.append_assoc] at records ⊢
          exact records.change_at (User.wake_change agrees)
        ascending := h.ascending
        active := h.active
        retiring := fun v hv => by
          rcases mem_replace hv with rfl | hv
          · exact continues.stopped.trans (h.retiring u hu)
          · exact h.retiring v hv }

theorem pass {later : Nat} (h : f.Sound w halted now) (le : now ≤ later)
    (quiet : ∀ u ∈ f.users, u.Quiet later) : f.Sound w halted later :=
  { h with records := h.records.pass le quiet }

end Sound

/-- Whatever the order of events, the books are in order. -/
theorem Reachable.sound (h : f.Reachable w limiter halted now) : f.Sound w halted now := by
  induction h with
  | start => exact .start
  | reconcile target _ ih => exact ih.reconcile target
  | wake _ wakes ih => exact ih.wake wakes
  | pass _ le quiet ih => exact ih.pass le quiet
  | halt _ ih => exact ih.halt

end Fleet
end PrecheckLoad
