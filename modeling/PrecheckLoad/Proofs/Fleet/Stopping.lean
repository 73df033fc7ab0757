import PrecheckLoad.Proofs.Run.Reached

/-!
# Stopping a user

A user that has been told to stop begins nothing more. It records the request it had under way, if
any, when that completes, and is over at that time, or else at the time at which it was told.
-/
namespace PrecheckLoad

namespace Event

def isRecordOf (u : Nat) : Event → Bool
  | .recorded v _ _ _ _ => v = u
  | _ => false

def isEndOf (u : Nat) : Event → Bool
  | .ended v _ => v = u
  | .crashed v _ => v = u
  | _ => false

end Event

def recordsOf (u : Nat) (history : List Event) : List Event := history.filter (Event.isRecordOf u)

def endsOf (u : Nat) (history : List Event) : List Event := history.filter (Event.isEndOf u)

/-- What is recorded of a request under way that completes at a time. -/
def Status.recordAt (w : Workload) (u : Nat) (s : Status) (due : Nat) (x : Exchange) : Event :=
  .recorded u s.recorded due (User.sampleOf x) (evaluateChecks w.checks x.outcome)

variable {w : Workload} {u t : Nat} {e : Event} {past earlier later : List Event} {st s : Status}

theorem Event.user_of_isRecordOf (kept : e.isRecordOf u = true) : e.user = u := by
  cases e <;> simp_all [isRecordOf, user]

theorem Event.user_of_isEndOf (kept : e.isEndOf u = true) : e.user = u := by
  cases e <;> simp_all [isEndOf, user]

/-- What is kept of one user only has nothing of the events of others. -/
theorem filter_cons_other {keep : Event → Bool} (own : ∀ e, keep e = true → e.user = u)
    (other : e.user ≠ u) : (e :: past).filter keep = past.filter keep :=
  List.filter_cons_of_neg fun kept => other (own e kept)

/-- What the events after a stop and the status they lead to have to do with the status `st` in
which the stop came. -/
structure AfterStop (w : Workload) (u t : Nat) (st : Status) (later : List Event) (s : Status) :
    Prop where
  unsent : ∀ i t' r, .begun u i t' r ∉ later
  told : s.deadline.isSome = true
  records : (s.flight = st.flight ∧ s.recorded = st.recorded ∧ recordsOf u later = []) ∨
    ∃ due x, st.flight = some (due, x) ∧ s.flight = none ∧
      recordsOf u later = [st.recordAt w u due x]
  running : s.finished = false → s.deadline = some (st.exitTime t) ∧ endsOf u later = []
  finished : s.finished = true →
    st.finished = true ∨ ∃ e, e.time = st.exitTime t ∧ endsOf u later = [e]

namespace AfterStop

theorem start : AfterStop w u t st [] { st with deadline := some (st.exitTime t) } where
  unsent := fun _ _ _ h => by cases h
  told := rfl
  records := Or.inl ⟨rfl, rfl, rfl⟩
  running := fun _ => ⟨rfl, rfl⟩
  finished := fun finished => Or.inl finished

theorem other (h : AfterStop w u t st later s) (other : e.user ≠ u) :
    AfterStop w u t st (e :: later) s where
  unsent := fun i t' r begun => by
    rcases List.mem_cons.mp begun with rfl | begun
    · exact other rfl
    · exact h.unsent i t' r begun
  told := h.told
  records := by
    rw [recordsOf, filter_cons_other (fun _ => Event.user_of_isRecordOf) other]
    exact h.records
  running := by
    rw [endsOf, filter_cons_other (fun _ => Event.user_of_isEndOf) other]
    exact h.running
  finished := by
    rw [endsOf, filter_cons_other (fun _ => Event.user_of_isEndOf) other]
    exact h.finished

/-- The end of a user comes at the time it has to. -/
theorem last (h : AfterStop w u t st later s) (running : s.finished = false)
    (time : ∀ d, s.deadline = some d → e.time = d) (ends : e.isEndOf u = true)
    (silent : e.isRecordOf u = false) (quiet : ∀ i t' r, e ≠ .begun u i t' r) :
    AfterStop w u t st (e :: later) { s with finished := true } where
  unsent := fun i t' r begun => by
    rcases List.mem_cons.mp begun with same | begun
    · exact quiet i t' r same.symm
    · exact h.unsent i t' r begun
  told := h.told
  records := by
    have same : recordsOf u (e :: later) = recordsOf u later :=
      List.filter_cons_of_neg (Bool.eq_false_iff.mp silent)
    rw [same]
    exact h.records
  running := fun running => by cases running
  finished := fun _ => by
    obtain ⟨deadline, none⟩ := h.running running
    refine Or.inr ⟨e, time _ deadline, ?_⟩
    have first : endsOf u (e :: later) = e :: endsOf u later := List.filter_cons_of_pos ends
    rw [first, none]

theorem record (h : AfterStop w u t st later s) {due i : Nat} {x : Exchange}
    (running : s.finished = false) (index : i = s.recorded) (flight : s.flight = some (due, x)) :
    AfterStop w u t st
      (.recorded u i due (User.sampleOf x) (evaluateChecks w.checks x.outcome) :: later)
      { s with recorded := s.recorded + 1, latest := some (i, due), flight := none } where
  unsent := fun i t' r begun => by
    rcases List.mem_cons.mp begun with same | begun
    · cases same
    · exact h.unsent i t' r begun
  told := h.told
  records := by
    rcases h.records with ⟨same, recorded, none⟩ | ⟨due', x', -, landed, -⟩
    · refine Or.inr ⟨due, x, same.symm.trans flight, rfl, ?_⟩
      rw [recordsOf, List.filter_cons_of_pos (by simp [Event.isRecordOf]), index, recorded]
      exact congrArg (_ :: ·) none
    · rw [flight] at landed
      cases landed
  running := h.running
  finished := fun finished => absurd (running.symm.trans finished) Bool.false_ne_true

theorem stop_again (h : AfterStop w u t st later s) {t' : Nat}
    (agreed : s.finished = false → ∀ d, s.deadline = some d → s.exitTime t' = d) :
    AfterStop w u t st (.stopped u t' :: later) { s with deadline := some (s.exitTime t') } where
  unsent := fun i t₁ r begun => by
    rcases List.mem_cons.mp begun with same | begun
    · cases same
    · exact h.unsent i t₁ r begun
  told := rfl
  records := h.records
  running := fun running => by
    obtain ⟨deadline, none⟩ := h.running running
    exact ⟨congrArg some (agreed running _ deadline), none⟩
  finished := h.finished

theorem step (h : AfterStop w u t st later (status w u past)) (about : e.user = u)
    (follows : Follows w past e) (born : ∃ e ∈ past, e.user = u) :
    AfterStop w u t st (e :: later) ((status w u past).after w past e) := by
  cases e with
  | spawned v t' =>
    obtain ⟨e, he, same⟩ := born
    exact absurd (same.trans about.symm) (follows e he)
  | begun v i t' r =>
    obtain rfl : v = u := about
    have told := h.told
    have untold : (status w v past).deadline = none := follows.2.1
    rw [untold] at told
    cases told
  | recorded v i t' sample checks =>
    obtain rfl : v = u := about
    obtain ⟨running, index, x, flight, rfl, rfl⟩ := follows
    exact h.record running index flight
  | stopped v t' =>
    obtain rfl : v = u := about
    exact h.stop_again follows
  | ended v t' =>
    obtain rfl : v = u := about
    obtain ⟨-, running, deadline⟩ := follows
    refine h.last running (fun d hd => ?_) (by simp [Event.isEndOf]) rfl fun _ _ _ same => ?_
    · exact Option.some.inj (deadline.symm.trans hd)
    · cases same
  | crashed v t' =>
    obtain rfl : v = u := about
    obtain ⟨-, running, deadline⟩ := follows
    refine h.last running (fun d hd => ?_) (by simp [Event.isEndOf]) rfl fun _ _ _ same => ?_
    · exact (deadline d hd).symm
    · cases same

end AfterStop

/-- Whatever comes after a stop in a lawful history comes as it has to. -/
theorem afterStop_of_lawful (lawful : Lawful w (later ++ .stopped u t :: earlier)) :
    AfterStop w u t (status w u earlier) later
      (status w u (later ++ .stopped u t :: earlier)) := by
  induction later with
  | nil =>
    have told : status w u (.stopped u t :: earlier) =
        (status w u earlier).after w earlier (.stopped u t) := status_cons_self rfl
    rw [List.nil_append, told]
    exact .start
  | cons e later ih =>
    obtain ⟨follows, lawful⟩ := lawful
    have before := ih lawful
    rw [List.cons_append]
    by_cases about : e.user = u
    · rw [status_cons_self about]
      exact before.step about follows ⟨.stopped u t, by simp, rfl⟩
    · rw [status_cons_other about]
      exact before.other about

/-- How a user leaves that was told to stop at `t`, of which `earlier` and `later` are the events
before and after; `lived` are the times at which all has been done that was to be done. -/
structure Graceful (w : Workload) (lived : Nat → Prop) (u t : Nat) (later earlier : List Event) :
    Prop where
  unsent : ∀ i t' r, .begun u i t' r ∉ later
  sent : ∀ i t' r, .begun u i t' r ∈ later ++ .stopped u t :: earlier → t' ≤ t
  silent : (∀ i t' r, .begun u i t' r ∉ earlier) →
    ∀ i t' r, .begun u i t' r ∉ later ++ .stopped u t :: earlier
  unrecorded : (status w u earlier).flight = none → recordsOf u later = []
  recorded : ∀ due x, (status w u earlier).flight = some (due, x) →
    (∃ between t₀ r before, earlier =
        between ++ .begun u (status w u earlier).recorded t₀ r :: before ∧
      x = w.execute.answer before t₀ r ∧ due = t₀ + x.travel) ∧
    (recordsOf u later = [] ∨ recordsOf u later = [(status w u earlier).recordAt w u due x]) ∧
    (lived due → recordsOf u later = [(status w u earlier).recordAt w u due x])
  ends : (status w u earlier).finished = false →
    (endsOf u later = [] ∨
      ∃ e, e.time = (status w u earlier).exitTime t ∧ endsOf u later = [e]) ∧
    (lived ((status w u earlier).exitTime t) → endsOf u later ≠ [])

/-- Once the time to leave has been lived through a user is over. -/
theorem graceful_of_lawful {lived : Nat → Prop} {history : List Event} (lawful : Lawful w history)
    (chronological : Chronological history)
    (split : history = later ++ .stopped u t :: earlier)
    (done : ∀ d, (status w u history).deadline = some d → lived d →
      (status w u history).finished = true) : Graceful w lived u t later earlier := by
  subst split
  have after := afterStop_of_lawful lawful
  have before : Lawful w earlier := lawful.of_split.2
  have gone : lived ((status w u earlier).exitTime t) →
      (status w u (later ++ .stopped u t :: earlier)).finished = true := by
    intro past
    refine Classical.byContradiction fun running => running ?_
    exact done _ (after.running (Bool.eq_false_iff.mpr running)).1 past
  exact
    { unsent := after.unsent
      sent := fun i t' r begun => by
        rcases List.mem_append.mp begun with begun | begun
        · exact absurd begun (after.unsent i t' r)
        · rcases List.mem_cons.mp begun with same | begun
          · cases same
          · have order := (List.pairwise_append.mp chronological).2.1
            exact (List.pairwise_cons.mp order).1 _ begun
      silent := fun silent i t' r begun => by
        rcases List.mem_append.mp begun with begun | begun
        · exact after.unsent i t' r begun
        · rcases List.mem_cons.mp begun with same | begun
          · cases same
          · exact silent i t' r begun
      unrecorded := fun idle => by
        rcases after.records with ⟨-, -, none⟩ | ⟨due, x, flight, -⟩
        · exact none
        · rw [idle] at flight
          cases flight
      recorded := fun due x flight => by
        have exit : (status w u earlier).exitTime t = due := by rw [Status.exitTime, flight]
        refine ⟨before.begun_of_flight flight, ?_, fun past => ?_⟩
        · rcases after.records with ⟨-, -, none⟩ | ⟨due', x', flight', -, one⟩
          · exact Or.inl none
          · rw [flight] at flight'
            cases flight'
            exact Or.inr one
        · have landed := lawful.flight_of_finished (gone (exit ▸ past))
          rcases after.records with ⟨same, -⟩ | ⟨due', x', flight', -, one⟩
          · rw [landed, flight] at same
            cases same
          · rw [flight] at flight'
            cases flight'
            exact one
      ends := fun running => by
        refine ⟨?_, fun past none => ?_⟩
        · by_cases finished : (status w u (later ++ .stopped u t :: earlier)).finished = true
          · exact Or.inr ((after.finished finished).resolve_left (Bool.eq_false_iff.mp running))
          · exact Or.inl (after.running (Bool.eq_false_iff.mpr finished)).2
        · rcases after.finished (gone past) with finished | ⟨e, -, one⟩
          · exact Bool.false_ne_true (running.symm.trans finished)
          · rw [none] at one
            cases one }

namespace Fleet

variable {limiter : Option Limiter} {halted : Bool} {now : Nat} {f : Fleet}

/-- All has been done that was to be done up to a time. -/
def Lived (now : Nat) (f : Fleet) (d : Nat) : Prop :=
  d < now ∨ d = now ∧ ∀ u ∈ f.users, u.Quiet (now + 1)

/-- A user that was told to stop and is not over has still to be let run at its deadline. -/
theorem not_lived_of_running {x : User} (hx : x ∈ f.users)
    (agrees : x.Agrees w f.shared.history now) (stopped : x.stopped = true)
    (running : x.isFinished = false) : ¬ f.Lived now (x.exitTime now) := by
  have ahead : now ≤ x.exitTime now := by
    rw [User.exitTime]
    split
    · next phase => exact agrees.timely _ (by rw [User.due?, phase])
    · exact Nat.le_refl now
  rintro (past | ⟨present, quiet⟩)
  · omega
  · rcases (quiet x hx).of_stopped stopped with finished | ⟨due, y, phase, late⟩
    · exact Bool.false_ne_true (running.symm.trans finished)
    · have exit : x.exitTime now = due := by rw [User.exitTime, phase]
      omega

theorem Sound.finished_of_deadline (h : f.Sound w halted now) {d : Nat}
    (deadline : (status w u f.shared.history).deadline = some d)
    (done : f.Lived now d ∨ ∀ x ∈ f.users, x.isFinished = true) :
    (status w u f.shared.history).finished = true := by
  obtain ⟨t, told⟩ := deadline_isSome_iff.mp (by rw [deadline]; rfl : _ = true)
  have known := h.records.known _ told
  by_cases present : ∃ x ∈ f.users, x.id = u
  · obtain ⟨x, hx, rfl⟩ := present
    have agrees := h.records.agrees x hx
    by_cases running : x.isFinished = false
    · have stopped : x.stopped = true := by rw [← agrees.told, deadline]; rfl
      have exit := agrees.deadline running d deadline
      rcases done with lived | finished
      · exact absurd (exit ▸ lived) (not_lived_of_running hx agrees stopped running)
      · exact absurd (running.symm.trans (finished x hx)) Bool.false_ne_true
    · exact agrees.finished.trans (Bool.not_eq_false _ ▸ running)
  · exact h.records.gone u known.1 known.2 fun x hx same => present ⟨x, hx, same⟩

/-- When time has been let pass until `stop`, all before it has been lived through. -/
theorem Reachable.lived {stop d : Nat} (h : f.Reachable w limiter halted now) (le : now ≤ stop)
    (within : d ≤ stop) : (f.advance w now stop).Lived stop d := by
  rcases Nat.lt_or_eq_of_le within with before | same
  · exact Or.inl before
  · exact Or.inr ⟨same, (h.advance le).2⟩

end Fleet

/-- Every stop is graceful: in whatever state targets, time and at last a shutdown bring a fleet
to, and over the whole of a run. -/
theorem stop_is_graceful (w : Workload) (limiter : Option Limiter) :
    (∀ halted now f, Fleet.Reachable w limiter halted now f → ∀ later earlier u t,
      f.shared.history = later ++ .stopped u t :: earlier →
      Graceful w (f.Lived now) u t later earlier) ∧
    (∀ halted now f stop, Fleet.Reachable w limiter halted now f → now ≤ stop →
      (f.advance w now stop).Reachable w limiter halted stop ∧
      ∀ d, d ≤ stop → (f.advance w now stop).Lived stop d) ∧
    (∀ (p : Run.Plan) r, p.workload = w → p.run limiter = .ok r → ∀ later earlier u t,
      r.shared.history = later ++ .stopped u t :: earlier →
      Graceful w (fun _ => True) u t later earlier) := by
  refine ⟨fun halted now f reached later earlier u t split => ?_,
    fun halted now f stop reached le => ⟨(reached.advance le).1, fun d => reached.lived le⟩,
    fun p r same ran later earlier u t split => ?_⟩
  · have sound := reached.sound
    exact graceful_of_lawful sound.records.lawful sound.records.chronological split
      fun d deadline lived => sound.finished_of_deadline deadline (Or.inl lived)
  · subst same
    obtain ⟨now, f, reached, finished, shared, -⟩ := Run.Plan.run_reachable ran
    have sound := reached.sound
    rw [shared] at split
    exact graceful_of_lawful sound.records.lawful sound.records.chronological split
      fun d deadline _ => sound.finished_of_deadline deadline (Or.inr finished)

/-- A user with a request under way is told to stop: it records that request, and then it ends. -/
theorem stop_is_graceful_in_flight :
    let sent := (({} : Fleet).reconcile 0 1).settle .refused 0
    let told := (sent.reconcile 0 0).settle .refused 0
    Graceful .refused ((told.settle .refused 1).Lived 1) 1 0
      [.ended 1 1, .recorded 1 0 1 ⟨.zero, none⟩ []] sent.shared.history := by
  intro sent told
  have first : ({} : Fleet).Reachable .refused none false 0 := .start
  have begun : sent.Reachable .refused none false 0 := (first.reconcile 1).settle.1
  have stopped := (begun.reconcile 0).settle
  have back := (stopped.1.pass (Nat.le_succ 0) stopped.2).settle.1
  exact (stop_is_graceful .refused none).1 false 1 _ back _ _ 1 0 rfl

end PrecheckLoad
