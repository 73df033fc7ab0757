import PrecheckLoad.Proofs.Fleet.Turn

/-!
# The users of a fleet and its history

The history of a fleet is lawful and in the order of time, the numbers of the users spawned are
consecutive, and each user agrees with the history. A user that is no longer among the users of the
fleet is over.
-/
namespace PrecheckLoad

def Event.spawned? : Event → Option Nat
  | .spawned u _ => some u
  | _ => none

/-- The numbers of the users spawned, the first one first. -/
def spawnedIds (history : List Event) : List Nat :=
  (history.filterMap Event.spawned?).reverse

/-- A history, the latest event first, is in the order of time. -/
def Chronological (history : List Event) : Prop :=
  history.Pairwise fun later earlier => earlier.time ≤ later.time

/-- What holds of the users that a fleet still has, and of its history, before a number is given
to the next user. -/
structure Records (w : Workload) (now next : Nat) (users : List User) (history : List Event) :
    Prop where
  lawful : Lawful w history
  chronological : Chronological history
  past : ∀ e ∈ history, e.time ≤ now
  positive : 0 < next
  known : ∀ e ∈ history, 0 < e.user ∧ e.user < next
  spawned : spawnedIds history = List.range' 1 (next - 1)
  distinct : (users.map User.id).Nodup
  numbered : ∀ u ∈ users, 0 < u.id ∧ u.id < next
  agrees : ∀ u ∈ users, u.Agrees w history now
  gone : ∀ id, 0 < id → id < next → (∀ u ∈ users, u.id ≠ id) →
    (status w id history).finished = true

variable {w : Workload} {now later next : Nat} {u v : User} {users kept rest : List User}
  {history : List Event} {s s' : Shared}

theorem spawnedIds_append (es : List Event) :
    spawnedIds (es ++ history) = spawnedIds history ++ spawnedIds es := by
  rw [spawnedIds, List.filterMap_append, List.reverse_append]
  rfl

theorem mem_spawnedIds {id : Nat} : id ∈ spawnedIds history ↔ ∃ t, .spawned id t ∈ history := by
  rw [spawnedIds, List.mem_reverse, List.mem_filterMap]
  constructor
  · rintro ⟨e, he, same⟩
    cases e <;> cases same
    exact ⟨_, he⟩
  · rintro ⟨t, ht⟩
    exact ⟨_, ht, rfl⟩

namespace User

/-- Agreement is about the events of the user only. -/
theorem Agrees.append_other (h : u.Agrees w history now) {es : List Event}
    (other : ∀ e ∈ es, e.user ≠ u.id) : u.Agrees w (es ++ history) now := by
  have same : status w u.id (es ++ history) = status w u.id history :=
    status_append_other other
  exact
    { recorded := by rw [same]; exact h.recorded
      flight := by rw [same]; exact h.flight
      finished := by rw [same]; exact h.finished
      told := by rw [same]; exact h.told
      deadline := by rw [same]; exact h.deadline
      rested := by rw [same]; exact h.rested
      timely := h.timely }

/-- A user that has just been spawned agrees with a history that does not know it. -/
theorem agrees_of_fresh {id : Nat} (unknown : status w id history = {}) :
    Agrees w history now { id } where
  recorded := by rw [unknown]
  flight := by rw [unknown]; rfl
  finished := by rw [unknown]; rfl
  told := by rw [unknown]; rfl
  deadline := fun _ d hd => by rw [unknown] at hd; cases hd
  rested := fun _ _ i t₀ latest => by rw [unknown] at latest; cases latest
  timely := fun t due => by cases due

end User

namespace Records

theorem start : Records w now 1 [] [] where
  lawful := trivial
  chronological := List.Pairwise.nil
  past := fun e he => by cases he
  positive := Nat.one_pos
  known := fun e he => by cases he
  spawned := rfl
  distinct := List.nodup_nil
  numbered := fun u hu => by cases hu
  agrees := fun u hu => by cases hu
  gone := fun id positive below => by omega

theorem perm (h : Records w now next users history) (p : users.Perm kept) :
    Records w now next kept history :=
  { h with
    distinct := (p.map User.id).nodup_iff.mp h.distinct
    numbered := fun u hu => h.numbered u (p.mem_iff.mpr hu)
    agrees := fun u hu => h.agrees u (p.mem_iff.mpr hu)
    gone := fun id positive below none =>
      h.gone id positive below fun u hu => none u (p.mem_iff.mp hu) }

/-- Users that are over may be forgotten. -/
theorem forget (h : Records w now next users history) (sub : kept.Sublist users)
    (finished : ∀ u ∈ users, u ∉ kept → u.isFinished = true) :
    Records w now next kept history :=
  { h with
    distinct := h.distinct.sublist (sub.map User.id)
    numbered := fun u hu => h.numbered u (sub.mem hu)
    agrees := fun u hu => h.agrees u (sub.mem hu)
    gone := by
      intro id positive below none
      by_cases present : ∃ u ∈ users, u.id = id
      · obtain ⟨u, hu, rfl⟩ := present
        have dropped : u ∉ kept := fun hk => none u hk rfl
        exact (h.agrees u hu).finished.trans (finished u hu dropped)
      · exact h.gone id positive below fun u hu same => present ⟨u, hu, same⟩ }

theorem pass (h : Records w now next users history) (le : now ≤ later)
    (quiet : ∀ u ∈ users, u.Quiet later) : Records w later next users history :=
  { h with
    past := fun e he => Nat.le_trans (h.past e he) le
    agrees := fun u hu => (h.agrees u hu).pass le (quiet u hu) }

/-- Only the spawn of a user comes before all else about it. -/
theorem no_spawn (h : Records w now next users history) {es : List Event} {id : Nat}
    (lawful : Lawful w (es ++ history)) (positive : 0 < id) (below : id < next)
    (about : ∀ e ∈ es, e.user = id) : spawnedIds es = [] := by
  have before : id ∈ spawnedIds history := by
    rw [h.spawned, List.mem_range'_1]
    omega
  obtain ⟨t₀, born⟩ := mem_spawnedIds.mp before
  refine List.eq_nil_iff_forall_not_mem.mpr fun v hv => ?_
  obtain ⟨t, ht⟩ := mem_spawnedIds.mp hv
  obtain ⟨es₁, es₂, rfl⟩ := List.append_of_mem ht
  rw [List.append_assoc, List.cons_append] at lawful
  have first := lawful.of_split.1 _ (List.mem_append_right es₂ born)
  exact first (about _ ht).symm

/-- One user moves on with the history. -/
theorem change (h : Records w now next (u :: rest) s.history)
    (moved : User.Change w s.history now u (v, s')) :
    Records w now next (v :: rest) s'.history := by
  obtain ⟨es, history, same⟩ := moved.events
  have number := h.numbered u List.mem_cons_self
  have id : v.id = u.id := moved.id
  have apart : ∀ x ∈ rest, x.id ≠ u.id := by
    intro x hx eq
    have distinct := h.distinct
    rw [List.map_cons, List.nodup_cons] at distinct
    exact distinct.1 (List.mem_map.mpr ⟨x, hx, eq⟩)
  have lawful := moved.lawful h.lawful
  have noSpawn : spawnedIds es = [] := by
    refine h.no_spawn ?_ number.1 number.2 fun e he => (same e he).1
    exact history ▸ lawful
  exact
    { lawful := lawful
      chronological := by
        rw [history]
        refine List.pairwise_append.mpr ⟨?_, h.chronological, fun a ha b hb => ?_⟩
        · refine List.pairwise_of_forall_mem_list fun a ha b hb => ?_
          exact Nat.le_of_eq ((same b hb).2.trans (same a ha).2.symm)
        · rw [(same a ha).2]
          exact h.past b hb
      past := fun e he => by
        rw [history] at he
        rcases List.mem_append.mp he with he | he
        · exact Nat.le_of_eq (same e he).2
        · exact h.past e he
      positive := h.positive
      known := fun e he => by
        rw [history] at he
        rcases List.mem_append.mp he with he | he
        · rw [(same e he).1]
          exact number
        · exact h.known e he
      spawned := by rw [history, spawnedIds_append, noSpawn, List.append_nil, h.spawned]
      distinct := by
        rw [List.map_cons, id, ← List.map_cons]
        exact h.distinct
      numbered := fun x hx => by
        rcases List.mem_cons.mp hx with rfl | hx
        · rw [id]
          exact number
        · exact h.numbered x (List.mem_cons_of_mem _ hx)
      agrees := fun x hx => by
        rcases List.mem_cons.mp hx with rfl | hx
        · exact moved.agrees
        · rw [history]
          refine (h.agrees x (List.mem_cons_of_mem _ hx)).append_other fun e he => ?_
          rw [(same e he).1]
          exact (apart x hx).symm
      gone := fun n positive below none => by
        have other : n ≠ u.id := fun eq => none v List.mem_cons_self (id.trans eq.symm)
        rw [history, status_append_other fun e he => by rw [(same e he).1]; exact other.symm]
        refine h.gone n positive below fun x hx => ?_
        rcases List.mem_cons.mp hx with rfl | hx
        · exact other.symm
        · exact none x (List.mem_cons_of_mem _ hx) }

theorem change_at {xs ys : List User} (h : Records w now next (xs ++ u :: ys) s.history)
    (moved : User.Change w s.history now u (v, s')) :
    Records w now next (xs ++ v :: ys) s'.history :=
  ((h.perm List.perm_middle).change moved).perm List.perm_middle.symm

theorem spawn (h : Records w now next users s.history) :
    Records w now (next + 1) (users ++ [{ id := next }])
      (s.note (.spawned next now)).history := by
  have absent : ∀ e ∈ s.history, e.user ≠ next := fun e he => by
    have := (h.known e he).2
    omega
  have st : status w next (.spawned next now :: s.history) = status w next s.history :=
    status_cons_self rfl
  have positive := h.positive
  exact
    { lawful := ⟨absent, h.lawful⟩
      chronological := List.pairwise_cons.mpr ⟨h.past, h.chronological⟩
      past := fun e he => by
        rcases List.mem_cons.mp he with rfl | he
        · exact Nat.le_refl now
        · exact h.past e he
      positive := Nat.succ_pos next
      known := fun e he => by
        rcases List.mem_cons.mp he with rfl | he
        · exact ⟨positive, Nat.lt_succ_self next⟩
        · have := h.known e he
          omega
      spawned := by
        have one : spawnedIds [.spawned next now] = [next] := rfl
        obtain ⟨m, rfl⟩ : ∃ m, next = m + 1 := ⟨next - 1, by omega⟩
        rw [Shared.note, ← List.singleton_append, spawnedIds_append, h.spawned, one,
          Nat.add_sub_cancel, Nat.add_sub_cancel, List.range'_1_concat, Nat.add_comm]
      distinct := by
        rw [List.map_append]
        refine List.nodup_append.mpr ⟨h.distinct, by simp, ?_⟩
        intro a ha b hb
        obtain ⟨x, hx, rfl⟩ := List.mem_map.mp ha
        have below := (h.numbered x hx).2
        have same : b = next := by simpa using hb
        omega
      numbered := fun x hx => by
        rcases List.mem_append.mp hx with hx | hx
        · have := h.numbered x hx
          omega
        · rw [List.mem_singleton.mp hx]
          exact ⟨positive, Nat.lt_succ_self next⟩
      agrees := fun x hx => by
        rcases List.mem_append.mp hx with hx | hx
        · have below := (h.numbered x hx).2
          have other : ∀ e ∈ [Event.spawned next now], e.user ≠ x.id := fun e he => by
            rw [List.mem_singleton.mp he]
            exact Nat.ne_of_gt below
          exact (h.agrees x hx).append_other other
        · rw [List.mem_singleton.mp hx]
          exact User.agrees_of_fresh (st.trans (status_of_absent absent))
      gone := fun id above below none => by
        have other : next ≠ id := fun same => none { id := next } (by simp) same
        have st : status w id (.spawned next now :: s.history) = status w id s.history :=
          status_cons_other other
        rw [Shared.note, st]
        exact h.gone id above (by omega) fun x hx => none x (List.mem_append_left _ hx) }

/-- Users are told to stop one after the other. -/
theorem stopAll (us : List User) (h : Records w now next (us ++ rest) s.history) :
    Records w now next ((Fleet.stopAll now us s).1 ++ rest) (Fleet.stopAll now us s).2.history := by
  induction us generalizing rest s with
  | nil => exact h
  | cons u us ih =>
    have moved := h.change (User.stop_change (h.agrees u List.mem_cons_self))
    have turned := moved.perm List.perm_middle.symm
    exact (ih turned).perm List.perm_middle

end Records
end PrecheckLoad
