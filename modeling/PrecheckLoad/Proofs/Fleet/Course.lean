import PrecheckLoad.Fleet.Basic

/-!
# What time leaves as it is

While time passes users keep their numbers and what they were told, none is added and none gets
lost, and one that was told to stop stays as it is until it is over.
-/
namespace PrecheckLoad

variable {w : Workload} {now stop : Nat} {s : Shared}

namespace User

structure Continues (u v : User) : Prop where
  id : v.id = u.id
  stopped : v.stopped = u.stopped
  leaves : u.stopped = true → v = u ∨ v.isFinished = true

variable {u v x : User}

theorem Continues.refl (u : User) : u.Continues u := ⟨rfl, rfl, fun _ => Or.inl rfl⟩

theorem Continues.trans (h : u.Continues v) (k : v.Continues x) : u.Continues x where
  id := k.id.trans h.id
  stopped := k.stopped.trans h.stopped
  leaves := fun stopped => by
    rcases k.leaves (h.stopped.trans stopped) with rfl | finished
    · exact h.leaves stopped
    · exact Or.inr finished

theorem Continues.of_unstopped (unstopped : u.stopped = false) (id : v.id = u.id)
    (stopped : v.stopped = u.stopped) : u.Continues v :=
  ⟨id, stopped, fun told => absurd (unstopped.symm.trans told) Bool.false_ne_true⟩

theorem attempt_continues (unstopped : u.stopped = false) :
    u.Continues (u.attempt w now s).1 := by
  rw [attempt]
  split
  · exact .of_unstopped unstopped rfl rfl
  · split
    · exact .of_unstopped unstopped rfl rfl
    · exact .of_unstopped unstopped rfl rfl

theorem next_continues (u : User) : u.Continues (u.next w now s).1 := by
  rw [next]
  split
  · exact ⟨rfl, rfl, fun _ => Or.inr rfl⟩
  · next unstopped => exact attempt_continues (Bool.eq_false_iff.mpr unstopped)

theorem next_finished (stopped : u.stopped = true) : (u.next w now s).1.isFinished = true := by
  rw [next, if_pos stopped]
  rfl

theorem complete_continues (u : User) (y : Exchange) :
    u.Continues (u.complete w now y s).1 := by
  have again : ∀ s' : Shared, u.Continues
      (User.next w now { u with iteration := u.iteration + 1 } s').1 := fun s' => by
    let v : User := { u with iteration := u.iteration + 1 }
    have h : v.Continues (v.next w now s').1 := next_continues v
    exact ⟨h.id, h.stopped, fun stopped => Or.inr (next_finished stopped)⟩
  rw [complete]
  dsimp only
  split
  · exact ⟨rfl, rfl, fun _ => Or.inr rfl⟩
  · exact again _
  · split
    · exact ⟨rfl, rfl, fun _ => Or.inr rfl⟩
    · next unstopped =>
      split
      · exact again _
      · exact .of_unstopped (Bool.eq_false_iff.mpr unstopped) rfl rfl

theorem wake_continues (u : User) : u.Continues (u.wake w now s).1 := by
  rw [wake]
  split
  · exact next_continues u
  · split
    · exact ⟨rfl, rfl, fun _ => Or.inr rfl⟩
    · next unstopped =>
      split
      · exact attempt_continues (Bool.eq_false_iff.mpr unstopped)
      · exact .refl u
  · split
    · exact complete_continues u _
    · exact .refl u
  · split
    · exact ⟨rfl, rfl, fun _ => Or.inr rfl⟩
    · split
      · exact next_continues u
      · exact .refl u
  · exact .refl u
  · exact .refl u

end User

namespace Fleet

structure Continues (f g : Fleet) : Prop where
  nextId : g.nextId = f.nextId
  active : g.active.map User.id = f.active.map User.id
  retiring : g.retiring.map User.id = f.retiring.map User.id
  users : ∀ v ∈ g.users, ∃ u ∈ f.users, u.Continues v

variable {f g h : Fleet} {us : List User}

theorem Continues.refl (f : Fleet) : f.Continues f :=
  ⟨rfl, rfl, rfl, fun u hu => ⟨u, hu, .refl u⟩⟩

theorem Continues.trans (a : f.Continues g) (b : g.Continues h) : f.Continues h where
  nextId := b.nextId.trans a.nextId
  active := b.active.trans a.active
  retiring := b.retiring.trans a.retiring
  users := fun x hx => by
    obtain ⟨v, hv, later⟩ := b.users x hx
    obtain ⟨u, hu, earlier⟩ := a.users v hv
    exact ⟨u, hu, earlier.trans later⟩

theorem wakeAll_ids (us : List User) (s : Shared) :
    (wakeAll w now us s).1.map User.id = us.map User.id := by
  induction us generalizing s with
  | nil => rfl
  | cons u us ih =>
    have same : (u.wake w now s).1.id = u.id := u.wake_continues.id
    rw [wakeAll, List.map_cons, List.map_cons, same]
    exact congrArg (u.id :: ·) (ih (u.wake w now s).2)

theorem mem_wakeAll {v : User} (hv : v ∈ (wakeAll w now us s).1) : ∃ u ∈ us, u.Continues v := by
  induction us generalizing s with
  | nil => cases hv
  | cons u us ih =>
    rcases List.mem_cons.mp hv with rfl | hv
    · exact ⟨u, List.mem_cons_self, u.wake_continues⟩
    · obtain ⟨x, hx, continues⟩ := ih hv
      exact ⟨x, List.mem_cons_of_mem u hx, continues⟩

theorem settle_continues (f : Fleet) : f.Continues (f.settle w now) where
  nextId := rfl
  active := wakeAll_ids f.active f.shared
  retiring := wakeAll_ids f.retiring _
  users := fun v hv => by
    rcases List.mem_append.mp hv with hv | hv
    · obtain ⟨u, hu, continues⟩ := mem_wakeAll hv
      exact ⟨u, List.mem_append_left _ hu, continues⟩
    · obtain ⟨u, hu, continues⟩ := mem_wakeAll hv
      exact ⟨u, List.mem_append_right _ hu, continues⟩

theorem runUntil_continues (f : Fleet) : f.Continues (f.runUntil w stop now) := by
  fun_induction runUntil w stop now f with
  | case1 now f none => exact .refl f
  | case2 now f t due turn ih => exact f.settle_continues.trans ih
  | case3 now f t due early => exact .refl f

theorem advance_continues (f : Fleet) : f.Continues (f.advance w now stop) :=
  f.settle_continues.trans (f.settle w now).runUntil_continues

end Fleet
end PrecheckLoad
