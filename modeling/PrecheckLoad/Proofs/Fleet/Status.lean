import PrecheckLoad.Fleet.Basic

/-!
# What a history says about a user

Read from its first event on, a history tells of each user how much it has recorded, which request
it has under way, and when it has to end once it was told to stop. A history is lawful if each of
its events fits what the events before it say about the same user.
-/
namespace PrecheckLoad

namespace Event

def user : Event → Nat
  | .spawned u _ => u
  | .begun u _ _ _ => u
  | .recorded u _ _ _ _ => u
  | .stopped u _ => u
  | .ended u _ => u
  | .crashed u _ => u

def time : Event → Nat
  | .spawned _ t => t
  | .begun _ _ t _ => t
  | .recorded _ _ t _ _ => t
  | .stopped _ t => t
  | .ended _ t => t
  | .crashed _ t => t

end Event

structure Status where
  recorded : Nat := 0
  /-- The iteration recorded last, and when. -/
  latest : Option (Nat × Nat) := none
  /-- The request under way: when it completes, and with what. -/
  flight : Option (Nat × Exchange) := none
  /-- When a user that was told to stop has to end. -/
  deadline : Option Nat := none
  finished : Bool := false

namespace Status

/-- When a user ends that is told to stop at a time: with its request under way, or at once. -/
def exitTime (s : Status) (now : Nat) : Nat :=
  match s.flight with
  | some (due, _) => due
  | none => now

def after (w : Workload) (past : List Event) (s : Status) : Event → Status
  | .spawned _ _ => s
  | .begun _ _ t r =>
    let x := w.execute.answer past t r
    { s with flight := some (t + x.travel, x) }
  | .recorded _ i t _ _ =>
    { s with recorded := s.recorded + 1, latest := some (i, t), flight := none }
  | .stopped _ t => { s with deadline := some (s.exitTime t) }
  | .ended _ _ => { s with finished := true }
  | .crashed _ _ => { s with finished := true }

end Status

/-- What a history, the latest event first, says about a user. -/
def status (w : Workload) (u : Nat) : List Event → Status
  | [] => {}
  | e :: past => if e.user = u then (status w u past).after w past e else status w u past

/-- How long a rest is, which may be none. -/
def restNanos : Option Duration → Nat
  | none => 0
  | some d => d.nanos

/-- The rest after the latest record of a user is over at a time. -/
def Status.RestedBy (w : Workload) (u : Nat) (s : Status) (t : Nat) : Prop :=
  ∀ i t₀, s.latest = some (i, t₀) → ∃ rest, w.pacing.delay (w.context u i) = .ok rest ∧
    t₀ * 1000000 + restNanos rest ≤ t * 1000000

/-- An event fits the events before it. -/
def Follows (w : Workload) (past : List Event) : Event → Prop
  | .spawned u _ => ∀ e ∈ past, e.user ≠ u
  | .begun u i t r =>
    let s := status w u past
    s.flight = none ∧ s.deadline = none ∧ s.finished = false ∧ i = s.recorded ∧
      w.pattern.build (w.context u i) w.url = .ok r ∧ s.RestedBy w u t
  | .recorded u i t sample checks =>
    let s := status w u past
    s.finished = false ∧ i = s.recorded ∧ ∃ x, s.flight = some (t, x) ∧
      sample = User.sampleOf x ∧ checks = evaluateChecks w.checks x.outcome
  | .stopped u t =>
    let s := status w u past
    s.finished = false → ∀ d, s.deadline = some d → s.exitTime t = d
  | .ended u t =>
    let s := status w u past
    s.flight = none ∧ s.finished = false ∧ s.deadline = some t
  | .crashed u t =>
    let s := status w u past
    s.flight = none ∧ s.finished = false ∧ ∀ d, s.deadline = some d → d = t

def Lawful (w : Workload) : List Event → Prop
  | [] => True
  | e :: past => Follows w past e ∧ Lawful w past

variable {w : Workload} {u : Nat} {e : Event} {past es : List Event}

theorem status_cons_self (same : e.user = u) :
    status w u (e :: past) = (status w u past).after w past e := by
  rw [status, if_pos same]

theorem status_cons_other (other : e.user ≠ u) : status w u (e :: past) = status w u past := by
  rw [status, if_neg other]

theorem status_append_other (other : ∀ e ∈ es, e.user ≠ u) :
    status w u (es ++ past) = status w u past := by
  induction es with
  | nil => rfl
  | cons e es ih =>
    rw [List.cons_append, status_cons_other (other e List.mem_cons_self)]
    exact ih fun e he => other e (List.mem_cons_of_mem _ he)

/-- Nothing is known of a user that no event is about. -/
theorem status_of_absent (absent : ∀ e ∈ past, e.user ≠ u) : status w u past = {} := by
  have h : status w u (past ++ []) = status w u [] := status_append_other absent
  rwa [List.append_nil] at h

theorem Lawful.of_append (h : Lawful w (es ++ past)) : Lawful w past := by
  induction es with
  | nil => exact h
  | cons e es ih => exact ih h.2

theorem Lawful.of_split (h : Lawful w (es ++ e :: past)) : Follows w past e ∧ Lawful w past := by
  have split : Lawful w (e :: past) := h.of_append
  exact split

theorem Status.RestedBy.mono {s : Status} {t t' : Nat} (h : s.RestedBy w u t) (le : t ≤ t') :
    s.RestedBy w u t' := by
  intro i t₀ latest
  obtain ⟨rest, delay, enough⟩ := h i t₀ latest
  exact ⟨rest, delay, Nat.le_trans enough (Nat.mul_le_mul_right _ le)⟩

/-- A user has been told to stop. -/
def WasStopped (history : List Event) (u : Nat) : Prop := ∃ t, .stopped u t ∈ history

/-- A user is over, on its own or not. -/
def HasEnded (history : List Event) (u : Nat) : Prop :=
  ∃ t, .ended u t ∈ history ∨ .crashed u t ∈ history

/-- An event of one user is none of another. -/
theorem mem_cons_other {own : Event} (about : own.user = u) (other : e.user ≠ u) :
    own ∈ e :: past ↔ own ∈ past := by
  rw [List.mem_cons, or_iff_right]
  rintro rfl
  exact other about

theorem wasStopped_cons_other (other : e.user ≠ u) :
    WasStopped (e :: past) u ↔ WasStopped past u :=
  exists_congr fun _ => mem_cons_other rfl other

theorem hasEnded_cons_other (other : e.user ≠ u) :
    HasEnded (e :: past) u ↔ HasEnded past u :=
  exists_congr fun _ => or_congr (mem_cons_other rfl other) (mem_cons_other rfl other)

theorem deadline_isSome_iff : (status w u past).deadline.isSome = true ↔ WasStopped past u := by
  induction past with
  | nil => simp [status, WasStopped]
  | cons e past ih =>
    by_cases same : e.user = u
    · subst same
      rw [status_cons_self rfl]
      cases e with
      | stopped u t => exact ⟨fun _ => ⟨t, List.mem_cons_self⟩, fun _ => rfl⟩
      | _ => simpa [Status.after, WasStopped, Event.user] using ih
    · rw [status_cons_other same, wasStopped_cons_other same, ih]

theorem finished_iff : (status w u past).finished = true ↔ HasEnded past u := by
  induction past with
  | nil => simp [status, HasEnded]
  | cons e past ih =>
    by_cases same : e.user = u
    · subst same
      rw [status_cons_self rfl]
      cases e with
      | ended u t => exact ⟨fun _ => ⟨t, Or.inl List.mem_cons_self⟩, fun _ => rfl⟩
      | crashed u t => exact ⟨fun _ => ⟨t, Or.inr List.mem_cons_self⟩, fun _ => rfl⟩
      | _ => simpa [Status.after, HasEnded, Event.user] using ih
    · rw [status_cons_other same, hasEnded_cons_other same, ih]

/-- A user that has left has no request under way. -/
theorem Lawful.flight_of_finished (h : Lawful w past)
    (finished : (status w u past).finished = true) : (status w u past).flight = none := by
  induction past with
  | nil => rfl
  | cons e past ih =>
    obtain ⟨follows, lawful⟩ := h
    by_cases same : e.user = u
    · subst same
      rw [status_cons_self rfl] at finished ⊢
      cases e with
      | spawned u t => exact ih lawful finished
      | begun u i t r =>
        have running : (status w u past).finished = false := follows.2.2.1
        exact absurd (running.symm.trans finished) Bool.false_ne_true
      | recorded u i t sample checks => rfl
      | stopped u t => exact ih lawful finished
      | ended u t => exact follows.1
      | crashed u t => exact follows.1
    · rw [status_cons_other same] at finished ⊢
      exact ih lawful finished

/-- The request under way has been begun, and is not back before its time. -/
theorem Lawful.begun_of_flight (h : Lawful w past) {due : Nat} {x : Exchange}
    (flight : (status w u past).flight = some (due, x)) :
    ∃ between t r before,
      past = between ++ .begun u (status w u past).recorded t r :: before ∧
      x = w.execute.answer before t r ∧ due = t + x.travel := by
  induction past with
  | nil => cases flight
  | cons e past ih =>
    obtain ⟨follows, lawful⟩ := h
    -- an event that keeps what is under way and how much is recorded
    have kept : (status w u (e :: past)).recorded = (status w u past).recorded →
        (status w u past).flight = some (due, x) → ∃ between t r before,
          e :: past = between ++ .begun u (status w u (e :: past)).recorded t r :: before ∧
          x = w.execute.answer before t r ∧ due = t + x.travel := by
      intro same flight
      obtain ⟨between, t, r, before, split, answer, travel⟩ := ih lawful flight
      refine ⟨e :: between, t, r, before, ?_, answer, travel⟩
      rw [same, List.cons_append, ← split]
    by_cases about : e.user = u
    · have next : status w u (e :: past) = (status w u past).after w past e :=
        status_cons_self about
      rw [next] at flight kept ⊢
      cases e with
      | begun v i t r =>
        obtain rfl : v = u := about
        have index : i = (status w v past).recorded := follows.2.2.2.1
        cases flight
        exact ⟨[], t, r, past, by rw [index]; rfl, rfl, rfl⟩
      | recorded v i t sample checks => cases flight
      | spawned v t => exact kept rfl flight
      | stopped v t => exact kept rfl flight
      | ended v t => exact kept rfl flight
      | crashed v t => exact kept rfl flight
    · rw [status_cons_other about] at flight
      exact kept (by rw [status_cons_other about]) flight

end PrecheckLoad
