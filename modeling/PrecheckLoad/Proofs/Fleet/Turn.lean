import PrecheckLoad.Proofs.Fleet.Status

/-!
# What a user does when it is let run

The state of a user agrees with what the history says about it. Whatever a user does at a time is
lawful, keeps that agreement, and leaves it with nothing more to do at that time.
-/
namespace PrecheckLoad

theorem Limiter.wait_pos {l : Limiter} {now wait : Nat} (h : l.check now = .error wait) :
    0 < wait := by
  simp only [check] at h
  split at h
  · cases h
    omega
  · cases h

/-- A request passes where there is no cap, or its limiter allows it. -/
theorem Shared.passCap_cases (s : Shared) (now : Nat) :
    s.limiter = none ∧ s.passCap now = .ok s ∨ ∃ l, s.limiter = some l ∧
      ((∃ l', l.check (now * 1000000) = .ok l' ∧
          s.passCap now = .ok { s with limiter := some l' }) ∨
        ∃ wait, l.check (now * 1000000) = .error wait ∧ s.passCap now = .error wait) := by
  cases limited : s.limiter with
  | none => exact .inl ⟨rfl, by simp only [passCap, limited]⟩
  | some l =>
    refine .inr ⟨l, rfl, ?_⟩
    simp only [passCap, limited]
    cases l.check (now * 1000000) with
    | ok l' => exact .inl ⟨l', rfl, rfl⟩
    | error wait => exact .inr ⟨wait, rfl, rfl⟩

theorem Shared.wait_pos {s : Shared} {now wait : Nat} (h : s.passCap now = .error wait) :
    0 < wait := by
  rcases s.passCap_cases now with ⟨-, same⟩ | ⟨l, -, ⟨l', -, same⟩ | ⟨wait', refused, same⟩⟩
  · cases same.symm.trans h
  · cases same.symm.trans h
  · cases same.symm.trans h
    exact Limiter.wait_pos refused

theorem Shared.passCap_history {s s' : Shared} {now : Nat} (h : s.passCap now = .ok s') :
    s'.history = s.history := by
  rcases s.passCap_cases now with ⟨-, same⟩ | ⟨l, -, ⟨l', -, same⟩ | ⟨wait, -, same⟩⟩
  · cases same.symm.trans h
    rfl
  · cases same.symm.trans h
    rfl
  · cases same.symm.trans h

theorem Duration.le_ceilMillis (nanos : Nat) : nanos ≤ ceilMillis nanos * 1000000 := by
  rw [ceilMillis]
  omega

theorem Duration.ceilMillis_pos {nanos : Nat} (h : 0 < nanos) : 0 < ceilMillis nanos := by
  rw [ceilMillis]
  omega

namespace User

/-- The request under way, as the user itself has it. -/
def flight (u : User) : Option (Nat × Exchange) :=
  match u.phase with
  | .inFlight t x => some (t, x)
  | _ => none

/-- When a user that is told to stop now ends. -/
def exitTime (now : Nat) (u : User) : Nat :=
  match u.phase with
  | .inFlight t _ => t
  | _ => now

/-- The time from which on a user has rested. -/
def readyAt (now : Nat) (u : User) : Nat :=
  match u.phase with
  | .resting t => t
  | _ => now

/-- Nothing is to be done before a time. -/
def Quiet (later : Nat) (u : User) : Prop :=
  match u.phase with
  | .fresh => False
  | .waiting t => u.stopped = false ∧ later ≤ t
  | .inFlight t _ => later ≤ t
  | .resting t => u.stopped = false ∧ later ≤ t
  | .ended => True
  | .crashed => True

/-- The state of a user is what the history says about it. -/
structure Agrees (w : Workload) (past : List Event) (now : Nat) (u : User) : Prop where
  recorded : (status w u.id past).recorded = u.iteration
  flight : (status w u.id past).flight = u.flight
  finished : (status w u.id past).finished = u.isFinished
  told : (status w u.id past).deadline.isSome = u.stopped
  deadline : u.isFinished = false → ∀ d, (status w u.id past).deadline = some d →
    d = u.exitTime now
  rested : u.flight = none → u.isFinished = false →
    (status w u.id past).RestedBy w u.id (u.readyAt now)
  timely : ∀ t, u.due? = some t → now ≤ t

/-- The history has a user between two requests, whatever its state. -/
structure Idle (w : Workload) (past : List Event) (now : Nat) (u : User) : Prop where
  recorded : (status w u.id past).recorded = u.iteration
  flight : (status w u.id past).flight = none
  running : (status w u.id past).finished = false
  told : (status w u.id past).deadline.isSome = u.stopped
  deadline : ∀ d, (status w u.id past).deadline = some d → d = now

/-- A user and the history have moved on together, at one time. -/
structure Change (w : Workload) (past : List Event) (now : Nat) (u : User) (r : User × Shared) :
    Prop where
  id : r.1.id = u.id
  events : ∃ es, r.2.history = es ++ past ∧ ∀ e ∈ es, e.user = u.id ∧ e.time = now
  lawful : Lawful w past → Lawful w r.2.history
  agrees : r.1.Agrees w r.2.history now

/-- A user has done what it had to do at a time. -/
structure Turn (w : Workload) (past : List Event) (now : Nat) (u : User) (r : User × Shared) :
    Prop extends Change w past now u r where
  quiet : r.1.Quiet (now + 1)

variable {w : Workload} {past : List Event} {now later : Nat} {u v : User} {s : Shared} {e : Event}
  {r : User × Shared}

theorem exitTime_of_flight_none (h : u.flight = none) : u.exitTime now = now := by
  rw [flight] at h
  rw [exitTime]
  split at h
  · cases h
  · rfl

/-- A user without a request that is not over is between two requests. -/
theorem Agrees.idle (h : u.Agrees w past now) (flight : u.flight = none)
    (running : u.isFinished = false) : u.Idle w past now where
  recorded := h.recorded
  flight := h.flight.trans flight
  running := h.finished.trans running
  told := h.told
  deadline := fun d hd => (h.deadline running d hd).trans (exitTime_of_flight_none flight)

/-- The phase of a user between two requests may change as long as it has none. -/
theorem Idle.agrees (h : u.Idle w past now) (flight : u.flight = none)
    (running : u.isFinished = false)
    (rested : (status w u.id past).RestedBy w u.id (u.readyAt now))
    (timely : ∀ t, u.due? = some t → now ≤ t) : u.Agrees w past now where
  recorded := h.recorded
  flight := h.flight.trans flight.symm
  finished := h.running.trans running.symm
  told := h.told
  deadline := fun _ d hd => (h.deadline d hd).trans (exitTime_of_flight_none flight).symm
  rested := fun _ _ => rested
  timely := timely

theorem Idle.deadline_none (h : u.Idle w past now) (unstopped : u.stopped = false) :
    (status w u.id past).deadline = none := by
  have told := h.told
  rw [unstopped] at told
  exact Option.isNone_iff_eq_none.mp (by simpa using told)

theorem Idle.deadline_some (h : u.Idle w past now) (stopped : u.stopped = true) :
    (status w u.id past).deadline = some now := by
  have told := h.told
  rw [stopped] at told
  obtain ⟨d, hd⟩ := Option.isSome_iff_exists.mp told
  rw [hd, h.deadline d hd]

/-- With nothing to do, a user that was told to stop is over or has a request under way. -/
theorem Quiet.of_stopped (quiet : u.Quiet later) (stopped : u.stopped = true) :
    u.isFinished = true ∨ ∃ t x, u.phase = .inFlight t x ∧ later ≤ t := by
  rw [Quiet] at quiet
  cases phase : u.phase with
  | fresh => simp only [phase] at quiet
  | waiting t =>
    simp only [phase] at quiet
    exact absurd (quiet.1.symm.trans stopped) Bool.false_ne_true
  | inFlight t x =>
    simp only [phase] at quiet
    exact Or.inr ⟨t, x, rfl, quiet⟩
  | resting t =>
    simp only [phase] at quiet
    exact absurd (quiet.1.symm.trans stopped) Bool.false_ne_true
  | ended => exact Or.inl (by rw [isFinished, phase])
  | crashed => exact Or.inl (by rw [isFinished, phase])

theorem Quiet.le_due (quiet : u.Quiet later) {t : Nat} (due : u.due? = some t) : later ≤ t := by
  rw [Quiet] at quiet
  rw [due?] at due
  split at due
  · next phase =>
    cases due
    simp only [phase] at quiet
    exact quiet.2
  · next phase =>
    cases due
    simp only [phase] at quiet
    exact quiet
  · next phase =>
    cases due
    simp only [phase] at quiet
    exact quiet.2
  · cases due

theorem Quiet.mono (quiet : u.Quiet later) {sooner : Nat} (le : sooner ≤ later) :
    u.Quiet sooner := by
  rw [Quiet] at quiet ⊢
  split
  all_goals simp_all
  all_goals omega

/-- Agreement outlasts time in which there is nothing to do. -/
theorem Agrees.pass (h : u.Agrees w past now) (le : now ≤ later) (quiet : u.Quiet later) :
    u.Agrees w past later where
  recorded := h.recorded
  flight := h.flight
  finished := h.finished
  told := h.told
  deadline := by
    intro running d hd
    have stopped : u.stopped = true := by rw [← h.told, hd, Option.isSome_some]
    have same := h.deadline running d hd
    rcases quiet.of_stopped stopped with finished | ⟨t, x, phase, -⟩
    · exact absurd (running.symm.trans finished) Bool.false_ne_true
    · rw [same, exitTime, exitTime, phase]
  rested := by
    intro flight running
    refine (h.rested flight running).mono ?_
    unfold readyAt
    split <;> omega
  timely := fun t due => quiet.le_due due

/-- One event, and the user in a state that agrees with it. -/
theorem Change.of_event (id : r.1.id = u.id) (history : r.2.history = e :: past)
    (about : e.user = u.id) (time : e.time = now) (follows : Follows w past e)
    (agrees : r.1.Agrees w (e :: past) now) : Change w past now u r where
  id := id
  events := ⟨[e], history, fun x hx => by rw [List.mem_singleton.mp hx]; exact ⟨about, time⟩⟩
  lawful := fun lawful => by rw [history]; exact ⟨follows, lawful⟩
  agrees := by rw [history]; exact agrees

/-- A turn may begin with an event. -/
theorem Turn.after_event (turn : Turn w (e :: past) now v r) (id : v.id = u.id)
    (about : e.user = u.id) (time : e.time = now) (follows : Follows w past e) :
    Turn w past now u r where
  id := turn.id.trans id
  events := by
    obtain ⟨es, history, same⟩ := turn.events
    refine ⟨es ++ [e], by rw [history, List.append_assoc, List.singleton_append], ?_⟩
    intro x hx
    rcases List.mem_append.mp hx with hx | hx
    · exact ⟨(same x hx).1.trans id, (same x hx).2⟩
    · rw [List.mem_singleton.mp hx]
      exact ⟨about, time⟩
  lawful := fun lawful => turn.lawful ⟨follows, lawful⟩
  agrees := turn.agrees
  quiet := turn.quiet

/-- Who is over has ended or crashed. -/
theorem phase_of_isFinished (h : u.isFinished = true) : u.phase = .ended ∨ u.phase = .crashed := by
  rw [isFinished] at h
  split at h
  · next phase => exact .inl phase
  · next phase => exact .inr phase
  · cases h

theorem flight_of_isFinished (h : u.isFinished = true) : u.flight = none := by
  rcases phase_of_isFinished h with phase | phase <;> rw [flight, phase]

theorem due?_of_isFinished (h : u.isFinished = true) : u.due? = none := by
  rcases phase_of_isFinished h with phase | phase <;> rw [due?, phase]

theorem quiet_of_isFinished (h : u.isFinished = true) (later : Nat) : u.Quiet later := by
  rcases phase_of_isFinished h with phase | phase <;> simp [Quiet, phase]

/-- The last event of a user, after which it is over. -/
theorem last_turn (idle : u.Idle w s.history now) (about : e.user = u.id) (time : e.time = now)
    (follows : Follows w s.history e)
    (leaves : ∀ st, Status.after w s.history st e = { st with finished := true })
    (id : v.id = u.id) (iteration : v.iteration = u.iteration) (stopped : v.stopped = u.stopped)
    (finished : v.isFinished = true) : Turn w s.history now u (v, s.note e) := by
  have st : status w v.id (e :: s.history) = { status w u.id s.history with finished := true } := by
    rw [id, status_cons_self about, leaves]
  have agrees : v.Agrees w (e :: s.history) now :=
    { recorded := by rw [st, iteration]; exact idle.recorded
      flight := by rw [st, flight_of_isFinished finished]; exact idle.flight
      finished := by rw [st, finished]
      told := by rw [st, stopped]; exact idle.told
      deadline := fun running => absurd (running.symm.trans finished) Bool.false_ne_true
      rested := fun _ running => absurd (running.symm.trans finished) Bool.false_ne_true
      timely := fun t due => by rw [due?_of_isFinished finished] at due; cases due }
  exact
    { toChange := .of_event id rfl about time follows agrees
      quiet := quiet_of_isFinished finished (now + 1) }

theorem finish_turn (idle : u.Idle w s.history now) (stopped : u.stopped = true) :
    Turn w s.history now u (u.finish now s) :=
  last_turn idle rfl rfl ⟨idle.flight, idle.running, idle.deadline_some stopped⟩
    (fun _ => rfl) rfl rfl rfl rfl

theorem crash_turn (idle : u.Idle w s.history now) : Turn w s.history now u (u.crash now s) :=
  last_turn idle rfl rfl ⟨idle.flight, idle.running, idle.deadline⟩ (fun _ => rfl) rfl rfl rfl rfl

theorem send_turn {request : Request} (idle : u.Idle w s.history now)
    (unstopped : u.stopped = false)
    (built : w.pattern.build (u.context w) w.url = .ok request)
    (rested : (status w u.id s.history).RestedBy w u.id now) :
    Turn w s.history now u (u.send w now request s) := by
  let x := w.execute.answer s.history now request
  let begun : Event := .begun u.id u.iteration now request
  have st : status w u.id (begun :: s.history) =
      { status w u.id s.history with flight := some (now + x.travel, x) } := status_cons_self rfl
  have follows : Follows w s.history begun :=
    ⟨idle.flight, idle.deadline_none unstopped, idle.running, idle.recorded.symm, built, rested⟩
  have agrees : (u.send w now request s).1.Agrees w (begun :: s.history) now :=
    { recorded := by rw [send, st]; exact idle.recorded
      flight := by rw [send, st]; rfl
      finished := by rw [send, st]; exact idle.running
      told := by rw [send, st]; exact idle.told
      deadline := fun _ d hd => by
        rw [send, st] at hd
        rw [idle.deadline_none unstopped] at hd
        cases hd
      rested := fun flight => by cases flight
      timely := fun t due => by
        cases due
        omega }
  have := x.travel_pos
  exact
    { toChange := .of_event rfl rfl rfl rfl follows agrees
      quiet := show now + 1 ≤ now + x.travel by omega }

/-- A user may go to rest or to wait until a later time. -/
theorem pause_turn (idle : u.Idle w s.history now) (id : v.id = u.id)
    (iteration : v.iteration = u.iteration) (stopped : v.stopped = u.stopped)
    (flight : v.flight = none) (running : v.isFinished = false)
    (rested : (status w u.id s.history).RestedBy w u.id (v.readyAt now))
    (quiet : v.Quiet (now + 1)) : Turn w s.history now u (v, s) := by
  have idle' : v.Idle w s.history now :=
    { recorded := by rw [id, iteration]; exact idle.recorded
      flight := by rw [id]; exact idle.flight
      running := by rw [id]; exact idle.running
      told := by rw [id, stopped]; exact idle.told
      deadline := by rw [id]; exact idle.deadline }
  have agrees : v.Agrees w s.history now :=
    idle'.agrees flight running (by rw [id]; exact rested) fun t due => by
      have := quiet.le_due due
      omega
  exact
    { id := id
      events := ⟨[], rfl, fun e he => by cases he⟩
      lawful := fun lawful => lawful
      agrees := agrees
      quiet := quiet }

theorem attempt_turn (idle : u.Idle w s.history now) (unstopped : u.stopped = false)
    (rested : (status w u.id s.history).RestedBy w u.id now) :
    Turn w s.history now u (u.attempt w now s) := by
  rw [attempt]
  split
  · exact crash_turn idle
  · next request built =>
    split
    · next s' passed =>
      have same := Shared.passCap_history passed
      have turn := send_turn (same ▸ idle) unstopped built (same ▸ rested)
      exact same ▸ turn
    · next wait refused =>
      have later := Duration.ceilMillis_pos (Shared.wait_pos refused)
      refine pause_turn idle rfl rfl rfl rfl rfl rested ⟨unstopped, ?_⟩
      omega

theorem next_turn (idle : u.Idle w s.history now)
    (rested : u.stopped = false → (status w u.id s.history).RestedBy w u.id now) :
    Turn w s.history now u (u.next w now s) := by
  rw [next]
  split
  · next stopped => exact finish_turn idle stopped
  · next unstopped =>
    have unstopped := Bool.eq_false_iff.mpr unstopped
    exact attempt_turn idle unstopped (rested unstopped)

theorem complete_turn {x : Exchange} (h : u.Agrees w s.history now)
    (phase : u.phase = .inFlight now x) : Turn w s.history now u (u.complete w now x s) := by
  let e : Event := .recorded u.id u.iteration now (sampleOf x) (evaluateChecks w.checks x.outcome)
  let v : User := { u with iteration := u.iteration + 1 }
  have running : u.isFinished = false := by rw [isFinished, phase]
  have present : (status w u.id s.history).finished = false := h.finished.trans running
  have flight : (status w u.id s.history).flight = some (now, x) := by
    rw [h.flight, User.flight, phase]
  have follows : Follows w s.history e := ⟨present, h.recorded.symm, x, flight, rfl, rfl⟩
  have st : status w v.id (e :: s.history) =
      { status w u.id s.history with
        recorded := (status w u.id s.history).recorded + 1
        latest := some (u.iteration, now)
        flight := none } := status_cons_self rfl
  have idle : v.Idle w (s.note e).history now :=
    { recorded := by rw [Shared.note, st]; exact congrArg (· + 1) h.recorded
      flight := by rw [Shared.note, st]
      running := by rw [Shared.note, st]; exact present
      told := by rw [Shared.note, st]; exact h.told
      deadline := fun d hd => by
        rw [Shared.note, st] at hd
        rw [h.deadline running d hd, exitTime, phase] }
  have rested : ∀ rest t, w.pacing.delay (u.context w) = .ok rest →
      now * 1000000 + restNanos rest ≤ t * 1000000 →
      (status w v.id (s.note e).history).RestedBy w v.id t := by
    intro rest t delay enough i t₀ latest
    rw [Shared.note, st] at latest
    cases latest
    exact ⟨rest, delay, enough⟩
  suffices turn : Turn w (e :: s.history) now v (u.complete w now x s) from
    turn.after_event rfl rfl rfl follows
  rw [complete]
  dsimp only
  split
  · exact crash_turn idle
  · next delay =>
    refine next_turn idle fun _ => rested none now delay (Nat.le_of_eq ?_)
    rw [restNanos, Nat.add_zero]
  · next d delay =>
    split
    · next stopped => exact finish_turn idle stopped
    · next unstopped =>
      have unstopped : v.stopped = false := Bool.eq_false_iff.mpr unstopped
      have enough := Duration.le_ceilMillis d.nanos
      split
      · next zero =>
        refine next_turn idle fun _ => rested (some d) now delay (Nat.le_of_eq ?_)
        have : d.nanos = 0 := of_decide_eq_true zero
        rw [restNanos, this, Nat.add_zero]
      · next nonzero =>
        have : d.nanos ≠ 0 := fun zero => nonzero (decide_eq_true zero)
        have later := Duration.ceilMillis_pos (Nat.pos_of_ne_zero this)
        refine pause_turn idle rfl rfl rfl rfl rfl ?_ ⟨unstopped, by omega⟩
        refine rested (some d) _ delay ?_
        rw [restNanos, readyAt, Nat.add_mul]
        exact Nat.add_le_add_left enough _

/-- A user that is let run has nothing to do, or makes a turn. -/
theorem wake_cases (h : u.Agrees w s.history now) :
    (u.wake w now s = (u, s) ∧ u.Quiet (now + 1)) ∨ Turn w s.history now u (u.wake w now s) := by
  rw [wake]
  cases phase : u.phase with
  | fresh =>
    have flight : u.flight = none := by rw [User.flight, phase]
    have running : u.isFinished = false := by rw [isFinished, phase]
    have ready : u.readyAt now = now := by rw [readyAt, phase]
    exact Or.inr (next_turn (h.idle flight running) fun _ => ready ▸ h.rested flight running)
  | waiting t =>
    have flight : u.flight = none := by rw [User.flight, phase]
    have running : u.isFinished = false := by rw [isFinished, phase]
    have ready : u.readyAt now = now := by rw [readyAt, phase]
    have idle := h.idle flight running
    dsimp only
    split
    · next stopped => exact Or.inr (finish_turn idle stopped)
    · next unstopped =>
      have unstopped := Bool.eq_false_iff.mpr unstopped
      split
      · exact Or.inr (attempt_turn idle unstopped (ready ▸ h.rested flight running))
      · next early =>
        refine Or.inl ⟨rfl, ?_⟩
        rw [Quiet, phase]
        exact ⟨unstopped, by omega⟩
  | inFlight t x =>
    have timely : now ≤ t := h.timely t (by rw [due?, phase])
    dsimp only
    split
    · next due =>
      have same : t = now := by omega
      subst same
      exact Or.inr (complete_turn h phase)
    · next early =>
      refine Or.inl ⟨rfl, ?_⟩
      rw [Quiet, phase]
      exact Nat.lt_of_not_le early
  | resting t =>
    have flight : u.flight = none := by rw [User.flight, phase]
    have running : u.isFinished = false := by rw [isFinished, phase]
    have ready : u.readyAt now = t := by rw [readyAt, phase]
    have idle := h.idle flight running
    dsimp only
    split
    · next stopped => exact Or.inr (finish_turn idle stopped)
    · next unstopped =>
      split
      · next due =>
        have rested := ready ▸ h.rested flight running
        exact Or.inr (next_turn idle fun _ => rested.mono due)
      · next early =>
        refine Or.inl ⟨rfl, ?_⟩
        rw [Quiet, phase]
        exact ⟨Bool.eq_false_iff.mpr unstopped, by omega⟩
  | ended => exact Or.inl ⟨rfl, quiet_of_isFinished (by rw [isFinished, phase]) _⟩
  | crashed => exact Or.inl ⟨rfl, quiet_of_isFinished (by rw [isFinished, phase]) _⟩

theorem wake_change (h : u.Agrees w s.history now) :
    Change w s.history now u (u.wake w now s) := by
  rcases wake_cases h with ⟨same, -⟩ | turn
  · rw [same]
    exact
      { id := rfl
        events := ⟨[], rfl, fun e he => by cases he⟩
        lawful := fun lawful => lawful
        agrees := h }
  · exact turn.toChange

theorem wake_quiet (h : u.Agrees w s.history now) : (u.wake w now s).1.Quiet (now + 1) := by
  rcases wake_cases h with ⟨same, quiet⟩ | turn
  · rw [same]
    exact quiet
  · exact turn.quiet

/-- A user that is told to stop goes on as it is until it is let run. -/
theorem stop_change (h : u.Agrees w s.history now) :
    Change w s.history now u (u.stop now s) := by
  have st : status w u.id (.stopped u.id now :: s.history) =
      { status w u.id s.history with
        deadline := some ((status w u.id s.history).exitTime now) } := status_cons_self rfl
  have exit : (status w u.id s.history).exitTime now = u.exitTime now := by
    rw [Status.exitTime, h.flight, User.flight, exitTime]
    cases u.phase <;> rfl
  have follows : Follows w s.history (.stopped u.id now) := by
    intro running d hd
    rw [h.finished] at running
    rw [exit, h.deadline running d hd]
  refine .of_event rfl rfl rfl rfl follows ?_
  exact
    { recorded := by rw [stop, st]; exact h.recorded
      flight := by rw [stop, st]; exact h.flight
      finished := by rw [stop, st]; exact h.finished
      told := by rw [stop, st]; rfl
      deadline := fun _ d hd => by
        rw [stop, st] at hd
        cases hd
        exact exit
      rested := fun flight running => by rw [stop, st]; exact h.rested flight running
      timely := h.timely }

end User
end PrecheckLoad
