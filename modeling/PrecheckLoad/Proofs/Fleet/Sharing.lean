import PrecheckLoad.Proofs.Fleet.Reachable

/-!
# What users do to what they share

Users change what they share in two ways only: they note that something is over, or they pass the
rate cap and note at once that a request begins. What comes after a record depends on the rest that
is due then: where it is no duration the user crashes at once. Whatever these ways keep is kept by
all that users do, and so while time passes. Besides, only a spawn changes it.
-/
namespace PrecheckLoad

/-- Something is over: neither a user nor a request begins. -/
def Event.Closing : Event → Prop
  | .spawned _ _ => False
  | .begun _ _ _ _ => False
  | _ => True

/-- What users keep of that which they share, whatever their workload. -/
structure Kept (P : Shared → Prop) : Prop where
  note : ∀ s e, e.Closing → P s → P (s.note e)
  send : ∀ s s' now u i r, s.passCap now = .ok s' → P s → P (s'.note (.begun u i now r))

/-- What users with a workload keep, each way for itself. -/
structure KeptBy (w : Workload) (P : Shared → Prop) : Prop where
  stopped : ∀ s u now, P s → P (s.note (.stopped u now))
  ended : ∀ s u now, P s → P (s.note (.ended u now))
  send : ∀ s s' now u i r, s.passCap now = .ok s' → P s → P (s'.note (.begun u i now r))
  recorded : ∀ s u i now sample checks rest, w.pacing.delay (w.context u i) = .ok rest → P s →
    P (s.note (.recorded u i now sample checks))
  overrun : ∀ s u i now sample checks, w.pacing.delay (w.context u i) = .error {} → P s →
    P ((s.note (.recorded u i now sample checks)).note (.crashed u now))
  unbuilt : ∀ s u i now fault, w.pattern.build (w.context u i) w.url = .error fault → P s →
    P (s.note (.crashed u now))

theorem Kept.keptBy {w : Workload} {P : Shared → Prop} (kept : Kept P) : KeptBy w P where
  stopped := fun s u now => kept.note s (.stopped u now) trivial
  ended := fun s u now => kept.note s (.ended u now) trivial
  send := kept.send
  recorded := fun s u i now sample checks _ _ =>
    kept.note s (.recorded u i now sample checks) trivial
  overrun := fun s u i now sample checks _ h =>
    kept.note _ (.crashed u now) trivial (kept.note s (.recorded u i now sample checks) trivial h)
  unbuilt := fun s u _ now _ _ => kept.note s (.crashed u now) trivial

variable {P : Shared → Prop} {w : Workload} {now stop : Nat} {s : Shared} {us : List User}
  {f g : Fleet}

namespace User

theorem attempt_keeps (kept : KeptBy w P) (u : User) (h : P s) : P (u.attempt w now s).2 := by
  unfold attempt
  split
  · next fault unbuilt => exact kept.unbuilt s u.id u.iteration now fault unbuilt h
  · split
    · next s' passed => exact kept.send s s' now u.id u.iteration _ passed h
    · exact h

theorem next_keeps (kept : KeptBy w P) (u : User) (h : P s) : P (u.next w now s).2 := by
  unfold next
  split
  · exact kept.ended s u.id now h
  · exact u.attempt_keeps kept h

theorem complete_keeps (kept : KeptBy w P) (u : User) (x : Exchange) (h : P s) :
    P (u.complete w now x s).2 := by
  have recorded := fun rest delay => kept.recorded s u.id u.iteration now (sampleOf x)
    (evaluateChecks w.checks x.outcome) rest delay h
  unfold complete
  dsimp only
  split
  · next delay => exact kept.overrun s u.id u.iteration now _ _ delay h
  · next delay => exact next_keeps kept _ (recorded none delay)
  · next d delay =>
    split
    · exact kept.ended _ u.id now (recorded (some d) delay)
    · split
      · exact next_keeps kept _ (recorded (some d) delay)
      · exact recorded (some d) delay

theorem wake_keeps (kept : KeptBy w P) (u : User) (h : P s) : P (u.wake w now s).2 := by
  unfold wake
  split
  · exact u.next_keeps kept h
  · split
    · exact kept.ended s u.id now h
    · split
      · exact u.attempt_keeps kept h
      · exact h
  · split
    · exact u.complete_keeps kept _ h
    · exact h
  · split
    · exact kept.ended s u.id now h
    · split
      · exact u.next_keeps kept h
      · exact h
  · exact h
  · exact h

end User

namespace Fleet

theorem wakeAll_keeps (kept : KeptBy w P) (us : List User) (h : P s) :
    P (wakeAll w now us s).2 := by
  induction us generalizing s with
  | nil => exact h
  | cons u us ih => exact ih (u.wake_keeps kept h)

theorem stopAll_keeps (kept : KeptBy w P) (us : List User) (h : P s) :
    P (stopAll now us s).2 := by
  induction us generalizing s with
  | nil => exact h
  | cons u us ih => exact ih (kept.stopped s u.id now h)

theorem halt_keeps (kept : KeptBy w P) (h : P f.shared) : P (f.halt now).shared :=
  stopAll_keeps kept f.retiring (stopAll_keeps kept f.active h)

theorem settle_keeps (kept : KeptBy w P) (h : P f.shared) : P (f.settle w now).shared :=
  wakeAll_keeps kept f.retiring (wakeAll_keeps kept f.active h)

theorem runUntil_keeps (kept : KeptBy w P) (h : P f.shared) : P (f.runUntil w stop now).shared := by
  fun_induction runUntil w stop now f with
  | case1 now f none => exact h
  | case2 now f t due turn ih => exact ih (settle_keeps kept h)
  | case3 now f t due early => exact h

theorem advance_keeps (kept : KeptBy w P) (h : P f.shared) : P (f.advance w now stop).shared :=
  runUntil_keeps kept (settle_keeps kept h)

theorem shutdown_keeps (kept : KeptBy w P) (h : P f.shared) : P (f.shutdown w now).2.shared :=
  advance_keeps kept (halt_keeps kept h)

theorem spawn_keeps (spawned : ∀ s u, P s → P (s.note (.spawned u now))) (n : Nat)
    (h : P f.shared) : P (f.spawn now n).shared := by
  induction n generalizing f with
  | zero => exact h
  | succ n ih => exact ih (spawned f.shared f.nextId h)

theorem reconcile_keeps (kept : KeptBy w P) (spawned : ∀ s u, P s → P (s.note (.spawned u now)))
    (target : Nat) (h : P f.shared) : P (f.reconcile now target).shared := by
  unfold reconcile
  dsimp only
  split
  · exact spawn_keeps spawned _ h
  · split
    · exact stopAll_keeps kept _ h
    · exact h

/-- Whatever users and spawns keep holds of every fleet that can be reached. -/
theorem Reachable.keeps {limiter : Option Limiter} {halted : Bool} (kept : KeptBy w P)
    (spawned : ∀ s u t, P s → P (s.note (.spawned u t))) (start : P { limiter })
    (h : f.Reachable w limiter halted now) : P f.shared := by
  induction h with
  | start => exact start
  | reconcile target _ ih => exact reconcile_keeps kept (fun s u => spawned s u _) target ih
  | wake _ wakes ih =>
    cases wakes with
    | active => exact User.wake_keeps kept _ ih
    | retiring => exact User.wake_keeps kept _ ih
  | pass _ _ _ ih => exact ih
  | halt _ ih => exact halt_keeps kept ih

end Fleet
end PrecheckLoad
