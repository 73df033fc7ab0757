import PrecheckLoad.Proofs.Fleet.Advance

/-!
# The books of a fleet

Bringing a fleet to a target only adds users at the end, or moves the newest ones to those that
retire. No number is given twice, and no user is lost before it is over.
-/
namespace PrecheckLoad
namespace Fleet

variable {w : Workload} {limiter : Option Limiter} {now stop target : Nat} {f g : Fleet}

/-- The users that have not ended among those that retire. -/
def unfinished (f : Fleet) : List User := f.retiring.filter fun u => !u.isFinished

theorem spawn_active (n : Nat) (f : Fleet) : (f.spawn now n).active =
    f.active ++ (List.range' f.nextId n).map fun id => ({ id } : User) := by
  induction n generalizing f with
  | zero => exact (List.append_nil _).symm
  | succ n ih =>
    rw [spawn, ih, List.range'_succ, List.map_cons, spawnOne, List.append_assoc]
    rfl

theorem spawn_retiring (n : Nat) (f : Fleet) : (f.spawn now n).retiring = f.retiring := by
  induction n generalizing f with
  | zero => rfl
  | succ n ih => exact ih (f.spawnOne now)

theorem reconcile_of_le (up : f.live ≤ target) :
    f.reconcile now target = f.reap.spawn now (target - f.live) := by
  unfold reconcile
  dsimp only
  split
  · rfl
  · next enough =>
    have same : f.reap.live = f.live := rfl
    have none : target - f.live = 0 := by omega
    rw [if_neg (by omega), none]
    rfl

theorem reconcile_of_ge (down : target ≤ f.live) :
    f.reconcile now target = f.reap.retire now target := by
  unfold reconcile
  dsimp only
  have same : f.reap.live = f.live := rfl
  rw [if_neg (by omega)]
  split
  · rfl
  · next equal =>
    have all : f.reap.active.length ≤ target := Nat.le_of_not_gt equal
    simp only [retire, List.drop_eq_nil_of_le all, List.take_of_length_le all, List.reverse_nil,
      stopAll, List.append_nil]

/-- What is to hold of the books of a fleet as long as it is not shut down. -/
structure Booked (f : Fleet) : Prop where
  ascending : (f.active.map User.id).Pairwise (· < ·)
  distinct : (f.users.map User.id).Nodup
  numbered : ∀ u ∈ f.users, u.id < f.nextId
  spawned : spawnedIds f.shared.history = List.range' 1 (f.nextId - 1)
  unstopped : ∀ u ∈ f.active, u.stopped = false ∧ ¬ WasStopped f.shared.history u.id
  leaving : ∀ id, WasStopped f.shared.history id → ¬ HasEnded f.shared.history id →
    ∃ u ∈ f.retiring, u.id = id ∧ u.stopped = true

/-- What bringing a fleet to a target does to it. -/
structure Reconciled (now target : Nat) (f g : Fleet) : Prop where
  live : g.live = target
  down : target ≤ f.live → g.active = f.active.take target ∧
    g.retiring = f.unfinished ++
      (f.active.drop target).reverse.map (fun u => { u with stopped := true }) ∧
    g.shared.history =
      (f.active.drop target).map (fun u => .stopped u.id now) ++ f.shared.history
  up : f.live ≤ target → g.active = f.active ++
      (List.range' f.nextId (target - f.live)).map (fun id => ({ id } : User)) ∧
    g.retiring = f.unfinished ∧ ∀ u ∈ f.active, ¬ WasStopped g.shared.history u.id
  retired : ∀ u ∈ f.retiring, u ∈ g.retiring ∨ HasEnded f.shared.history u.id

theorem Sound.booked (h : f.Sound w false now) : f.Booked where
  ascending := h.ascending
  distinct := h.records.distinct
  numbered := fun u hu => (h.records.numbered u hu).2
  spawned := h.records.spawned
  unstopped := fun u hu => by
    have unstopped := h.active u hu
    refine ⟨unstopped, fun stopped => ?_⟩
    have told := (h.records.agrees u (List.mem_append_left _ hu)).told
    rw [deadline_isSome_iff.mpr stopped, unstopped] at told
    cases told
  leaving := by
    intro id stopped running
    have present : ¬ (status w id f.shared.history).finished = true := fun finished =>
      running (finished_iff.mp finished)
    obtain ⟨t, ht⟩ := stopped
    have known := h.records.known _ ht
    have kept : ∃ u ∈ f.users, u.id = id := Classical.byContradiction fun absent =>
      present (h.records.gone id known.1 known.2 fun u hu same => absent ⟨u, hu, same⟩)
    obtain ⟨u, hu, rfl⟩ := kept
    have told : u.stopped = true :=
      (h.records.agrees u hu).told.symm.trans (deadline_isSome_iff.mpr ⟨t, ht⟩)
    rcases List.mem_append.mp hu with active | retiring
    · exact absurd ((h.active u active).symm.trans told) Bool.false_ne_true
    · exact ⟨u, retiring, rfl, told⟩

theorem Reachable.reconciled (h : f.Reachable w limiter false now) (target : Nat) :
    Reconciled now target f (f.reconcile now target) := by
  have booked := (h.reconcile target).sound.booked
  have kept : f.unfinished.Sublist (f.reconcile now target).retiring := by
    rcases Nat.le_total f.live target with up | down
    · rw [reconcile_of_le up, spawn_retiring]
      exact List.Sublist.refl _
    · rw [reconcile_of_ge down]
      exact List.sublist_append_left _ _
  exact
    { live := by
        rcases Nat.le_total f.live target with up | down
        · rw [reconcile_of_le up, live, spawn_active, List.length_append, List.length_map,
            List.length_range']
          have same : f.reap.active.length = f.live := rfl
          omega
        · rw [reconcile_of_ge down]
          exact List.length_take_of_le down
      down := fun down => by
        rw [reconcile_of_ge down]
        refine ⟨rfl, ?_, ?_⟩
        · exact congrArg (f.unfinished ++ ·) (stopAll_users _ _)
        · exact (stopAll_history _ _).trans (by rw [List.map_reverse, List.reverse_reverse]; rfl)
      up := fun up => by
        refine ⟨?_, ?_, fun u hu => (booked.unstopped u ?_).2⟩
        · rw [reconcile_of_le up, spawn_active]
          rfl
        · rw [reconcile_of_le up, spawn_retiring]
          rfl
        · rw [reconcile_of_le up, spawn_active]
          exact List.mem_append_left _ hu
      retired := fun u hu => by
        by_cases finished : u.isFinished = true
        · have agrees := h.sound.records.agrees u (List.mem_append_right _ hu)
          exact Or.inr (finished_iff.mp (agrees.finished.trans finished))
        · refine Or.inl (kept.mem (List.mem_filter.mpr ⟨hu, ?_⟩))
          rw [Bool.eq_false_iff.mpr finished]
          rfl }

theorem shutdown_ids (f : Fleet) :
    (f.shutdown w now).2.users.map User.id = f.users.map User.id := by
  have continues : (f.halt now).Continues (f.shutdown w now).2 := (f.halt now).advance_continues
  have active : (f.halt now).active.map User.id = f.active.map User.id :=
    map_id_stopAll f.active f.shared
  have retiring : (f.halt now).retiring.map User.id = f.retiring.map User.id :=
    map_id_stopAll f.retiring _
  rw [users, users, List.map_append, List.map_append, continues.active, continues.retiring,
    active, retiring]

/-- In every state that a fleet is brought to by targets and time its books are in order, each
target is met as described, time adds and loses nobody, and a shutdown ends with all users over. -/
theorem books_in_order (h : f.Reachable w limiter false now) :
    f.Booked ∧
    (∀ target, (f.reconcile now target).Reachable w limiter false now ∧
      Reconciled now target f (f.reconcile now target)) ∧
    (∀ stop, now ≤ stop → (f.advance w now stop).Reachable w limiter false stop ∧
      f.Continues (f.advance w now stop)) ∧
    (f.shutdown w now).2.users.map User.id = f.users.map User.id ∧
    ∀ u ∈ (f.shutdown w now).2.users, HasEnded (f.shutdown w now).2.shared.history u.id := by
  refine ⟨h.sound.booked, fun target => ⟨h.reconcile target, h.reconciled target⟩,
    fun stop le => ⟨(h.advance le).1, f.advance_continues⟩, f.shutdown_ids, fun u hu => ?_⟩
  have agrees := h.shutdown.1.sound.records.agrees u hu
  exact finished_iff.mp (agrees.finished.trans (h.shutdown.2 u hu))

/-- Three users are spawned, and the two newest of them retire before they have run. -/
theorem books_in_order_of_two_retired :
    let f := (({} : Fleet).reconcile 0 3).reconcile 0 1
    f.active.map User.id = [1] ∧ f.retiring.map User.id = [3, 2] ∧ f.nextId = 4 ∧ f.Booked := by
  have first : ({} : Fleet).Reachable .refused none false 0 := .start
  exact ⟨rfl, rfl, rfl, (books_in_order ((first.reconcile 3).reconcile 1)).1⟩

end Fleet
end PrecheckLoad
