import Mathlib
import PrecheckLoad.Proofs.Run.Reached

/-!
# The traffic of each user

Each user begins the requests of its iterations one after the other, none of them twice, each after
the one before is back and its rest is over. When a run is over, all that was begun is recorded.
-/
namespace PrecheckLoad

namespace Event

def begunBy? (u : Nat) : Event → Option (Nat × Request)
  | .begun v i _ r => if v = u then some (i, r) else none
  | _ => none

def recordedBy? (u : Nat) : Event → Option Nat
  | .recorded v i _ _ _ => if v = u then some i else none
  | _ => none

end Event

/-- The requests that a user began and their iterations, the first one first. -/
def begunBy (u : Nat) (history : List Event) : List (Nat × Request) :=
  (history.filterMap (Event.begunBy? u)).reverse

/-- The iterations that a user recorded, the first one first. -/
def recordedBy (u : Nat) (history : List Event) : List Nat :=
  (history.filterMap (Event.recordedBy? u)).reverse

/-- How many requests a user has begun. -/
def Status.begun (s : Status) : Nat :=
  s.recorded + if s.flight.isSome then 1 else 0

variable {w : Workload} {u : Nat} {e : Event} {past history : List Event}

theorem begunBy_cons : begunBy u (e :: past) = begunBy u past ++ (e.begunBy? u).toList := by
  unfold begunBy
  cases h : e.begunBy? u <;> simp [h]

theorem recordedBy_cons :
    recordedBy u (e :: past) = recordedBy u past ++ (e.recordedBy? u).toList := by
  unfold recordedBy
  cases h : e.recordedBy? u <;> simp [h]

/-- An event of another user tells nothing of this one. -/
theorem traffic_other (other : e.user ≠ u) : e.begunBy? u = none ∧ e.recordedBy? u = none := by
  cases e with
  | begun v i t r => exact ⟨if_neg other, rfl⟩
  | recorded v i t sample checks => exact ⟨rfl, if_neg other⟩
  | _ => exact ⟨rfl, rfl⟩

/-- What a history tells of a user is what its status counts. -/
structure Counted (w : Workload) (u : Nat) (history : List Event) (s : Status) : Prop where
  begun : (begunBy u history).map (fun b => (b.1, Except.ok b.2)) =
    (List.range s.begun).map fun i => (i, w.pattern.build (w.context u i) w.url)
  recorded : recordedBy u history = List.range s.recorded
  latest : ∀ i, s.recorded = i + 1 → ∃ t sample checks, s.latest = some (i, t) ∧
    .recorded u i t sample checks ∈ history

theorem Counted.keep {s s' : Status} (h : Counted w u past s) (begun : e.begunBy? u = none)
    (recorded : e.recordedBy? u = none) (count : s'.recorded = s.recorded)
    (flight : s'.flight = s.flight) (latest : s'.latest = s.latest) :
    Counted w u (e :: past) s' where
  begun := by
    rw [begunBy_cons, begun, Option.toList_none, List.append_nil, h.begun]
    rw [Status.begun, Status.begun, count, flight]
  recorded := by
    rw [recordedBy_cons, recorded, Option.toList_none, List.append_nil, h.recorded, count]
  latest := fun i hi => by
    obtain ⟨t, sample, checks, last, mem⟩ := h.latest i (count ▸ hi)
    exact ⟨t, sample, checks, latest.trans last, List.mem_cons_of_mem e mem⟩

theorem Counted.begin {s : Status} (h : Counted w u past s) {i t due : Nat} {r : Request}
    {x : Exchange} (idle : s.flight = none) (index : i = s.recorded)
    (built : w.pattern.build (w.context u i) w.url = .ok r) :
    Counted w u (.begun u i t r :: past) { s with flight := some (due, x) } where
  begun := by
    have before : s.begun = s.recorded := by rw [Status.begun, idle]; rfl
    have one : Event.begunBy? u (.begun u i t r) = some (i, r) := if_pos rfl
    have count : Status.begun { s with flight := some (due, x) } = s.recorded + 1 := rfl
    rw [begunBy_cons, one, List.map_append, h.begun, before, count, List.range_succ,
      List.map_append, ← index, List.map_singleton, built]
    rfl
  recorded := by
    have none : Event.recordedBy? u (.begun u i t r) = none := rfl
    rw [recordedBy_cons, none, Option.toList_none, List.append_nil, h.recorded]
  latest := fun i hi => by
    obtain ⟨t, sample, checks, last, mem⟩ := h.latest i hi
    exact ⟨t, sample, checks, last, List.mem_cons_of_mem _ mem⟩

theorem Counted.record {s : Status} (h : Counted w u past s) {i t : Nat} {sample : Sample}
    {checks : List CheckResult} (flying : s.flight.isSome = true) (index : i = s.recorded) :
    Counted w u (.recorded u i t sample checks :: past)
      { s with recorded := s.recorded + 1, latest := some (i, t), flight := none } where
  begun := by
    have before : s.begun = s.recorded + 1 := by rw [Status.begun, if_pos flying]
    have none : Event.begunBy? u (.recorded u i t sample checks) = none := rfl
    rw [begunBy_cons, none, Option.toList_none, List.append_nil, h.begun, before]
    rfl
  recorded := by
    have one : Event.recordedBy? u (.recorded u i t sample checks) = some i := if_pos rfl
    rw [recordedBy_cons, one, h.recorded, List.range_succ, index]
    rfl
  latest := fun j hj => by
    have same : j = i := by
      rw [index]
      exact (Nat.succ.inj hj).symm
    exact ⟨t, sample, checks, by rw [same], by rw [same]; exact List.mem_cons_self⟩

theorem counted_of_lawful (lawful : Lawful w history) :
    Counted w u history (status w u history) := by
  induction history with
  | nil => exact ⟨rfl, rfl, fun i hi => by cases hi⟩
  | cons e past ih =>
    obtain ⟨follows, lawful⟩ := lawful
    have before := ih lawful
    by_cases about : e.user = u
    · rw [status_cons_self about]
      cases e with
      | begun v i t r =>
        obtain rfl : v = u := about
        obtain ⟨idle, -, -, index, built, -⟩ := follows
        exact before.begin idle index built
      | recorded v i t sample checks =>
        obtain rfl : v = u := about
        obtain ⟨-, index, x, flight, -, -⟩ := follows
        exact before.record (by rw [flight]; rfl) index
      | spawned v t => exact before.keep rfl rfl rfl rfl rfl
      | stopped v t => exact before.keep rfl rfl rfl rfl rfl
      | ended v t => exact before.keep rfl rfl rfl rfl rfl
      | crashed v t => exact before.keep rfl rfl rfl rfl rfl
    · rw [status_cons_other about]
      obtain ⟨begun, recorded⟩ := traffic_other about
      exact before.keep begun recorded rfl rfl rfl

/-- The first `k` requests of a user are what it has begun, and each began when it was to. -/
structure Traffic (w : Workload) (history : List Event) (u k : Nat) : Prop where
  requests : (begunBy u history).map (fun b => (b.1, Except.ok b.2)) =
    (List.range k).map fun i => (i, w.pattern.build (w.context u i) w.url)
  single : ∀ later earlier, history = later ++ earlier →
    (recordedBy u earlier).length ≤ (begunBy u earlier).length ∧
    (begunBy u earlier).length ≤ (recordedBy u earlier).length + 1
  completed : ∀ later earlier i t sample checks,
    history = later ++ .recorded u i t sample checks :: earlier →
    ∃ between t₀ r before x, earlier = between ++ .begun u i t₀ r :: before ∧
      x = w.execute.answer before t₀ r ∧ t = t₀ + x.travel ∧ sample = User.sampleOf x ∧
      checks = evaluateChecks w.checks x.outcome
  rested : ∀ later earlier i t r, history = later ++ .begun u (i + 1) t r :: earlier →
    ∃ t₀ sample checks rest, .recorded u i t₀ sample checks ∈ earlier ∧
      w.pacing.delay (w.context u i) = .ok rest ∧
      t₀ * 1000000 + restNanos rest ≤ t * 1000000

theorem traffic_of_lawful (lawful : Lawful w history) :
    Traffic w history u (status w u history).begun where
  requests := (counted_of_lawful lawful).begun
  single := by
    rintro later earlier rfl
    have counted := counted_of_lawful (u := u) lawful.of_append
    have begun := congrArg List.length counted.begun
    rw [List.length_map, List.length_map, List.length_range, Status.begun] at begun
    rw [begun, counted.recorded, List.length_range]
    split <;> omega
  completed := by
    rintro later earlier i t sample checks rfl
    obtain ⟨⟨-, index, x, flight, same, results⟩, before⟩ := lawful.of_split
    obtain ⟨between, t₀, r, first, split, answer, travel⟩ := before.begun_of_flight flight
    exact ⟨between, t₀, r, first, x, index ▸ split, answer, travel, same, results⟩
  rested := by
    rintro later earlier i t r rfl
    obtain ⟨⟨-, -, -, index, -, rested⟩, before⟩ := lawful.of_split
    obtain ⟨t₀, sample, checks, latest, mem⟩ := (counted_of_lawful before).latest i index.symm
    obtain ⟨rest, delay, enough⟩ := rested i t₀ latest
    exact ⟨t₀, sample, checks, rest, mem, delay, enough⟩

theorem sum_map_succ {xs : List Nat} {f g : Nat → Nat} {a : Nat} (distinct : xs.Nodup)
    (mem : a ∈ xs) (here : g a = f a + 1) (elsewhere : ∀ x, x ≠ a → g x = f x) :
    (xs.map g).sum = (xs.map f).sum + 1 := by
  obtain ⟨before, after, rfl⟩ := List.append_of_mem mem
  have apart := (List.nodup_cons.mp (List.perm_middle.nodup_iff.mp distinct)).1
  have first : before.map g = before.map f :=
    List.map_congr_left fun x hx => elsewhere x fun same =>
      apart (List.mem_append_left _ (same ▸ hx))
  have second : after.map g = after.map f :=
    List.map_congr_left fun x hx => elsewhere x fun same =>
      apart (List.mem_append_right _ (same ▸ hx))
  simp only [List.map_append, List.map_cons, List.sum_append, List.sum_cons, first, second, here]
  omega

theorem recorded_cons_of_sample?_none (none : e.sample? = none) :
    (status w u (e :: past)).recorded = (status w u past).recorded := by
  by_cases about : e.user = u
  · rw [status_cons_self about]
    cases e with
    | recorded v i t sample checks => cases none
    | _ => rfl
  · rw [status_cons_other about]

/-- There are as many samples as all users together have recorded. -/
theorem length_samples {ids : List Nat} (distinct : ids.Nodup)
    (known : ∀ e ∈ history, e.user ∈ ids) : (history.filterMap Event.sample?).length =
      (ids.map fun u => (status w u history).recorded).sum := by
  induction history with
  | nil =>
    have zero : ids.map (fun u => (status w u []).recorded) = List.replicate ids.length 0 :=
      List.map_const'
    rw [zero, List.sum_replicate_nat, Nat.mul_zero]
    rfl
  | cons e past ih =>
    have before := ih fun e he => known e (List.mem_cons_of_mem _ he)
    have here := known e List.mem_cons_self
    cases h : e.sample? with
    | none =>
      rw [List.filterMap_cons_none h, before]
      exact congrArg List.sum (List.map_congr_left fun u _ =>
        (recorded_cons_of_sample?_none h).symm)
    | some sample =>
      rw [List.filterMap_cons_some h, List.length_cons, before]
      refine (sum_map_succ distinct here ?_ fun x other => ?_).symm
      · rw [status_cons_self rfl]
        cases e <;> cases h
        rfl
      · rw [status_cons_other (Ne.symm other)]

namespace Fleet

variable {halted : Bool} {now : Nat} {f : Fleet}

/-- Of a fleet of which nobody is left no request is under way. -/
theorem Sound.landed (h : f.Sound w halted now) (finished : ∀ x ∈ f.users, x.isFinished = true)
    (u : Nat) : (status w u f.shared.history).flight = none := by
  by_cases known : ∃ e ∈ f.shared.history, e.user = u
  · obtain ⟨e, he, rfl⟩ := known
    have number := h.records.known e he
    refine h.records.lawful.flight_of_finished ?_
    by_cases present : ∃ x ∈ f.users, x.id = e.user
    · obtain ⟨x, hx, same⟩ := present
      rw [← same]
      exact (h.records.agrees x hx).finished.trans (finished x hx)
    · exact h.records.gone _ number.1 number.2 fun x hx same => present ⟨x, hx, same⟩
  · rw [status_of_absent fun e he same => known ⟨e, he, same⟩]

end Fleet

namespace LoadTest

theorem run_iterations {t : LoadTest} {seed : UInt64} {execute : Executor} {r : Run.Result}
    {report : Report} (h : t.run seed execute = .ok (r, report)) :
    report.iterations = (r.shared.history.filterMap Event.sample?).length := by
  rw [run] at h
  simp only [bind_eq_ok] at h
  obtain ⟨r', -, report', reported, same⟩ := h
  cases same
  rw [LoadTest.report] at reported
  simp only [bind_eq_ok] at reported
  obtain ⟨latency, -, done⟩ := reported
  cases done
  rfl

/-- The traffic of each user is in order at all times, and what a run reports is all of it. -/
theorem run_traffic (t : LoadTest) (seed : UInt64) (execute : Executor) :
    (∀ halted now f,
      Fleet.Reachable (t.plan seed execute).workload t.limiter halted now f →
      Chronological f.shared.history ∧
      ∀ u, ∃ k, Traffic (t.plan seed execute).workload f.shared.history u k) ∧
    ∀ r, (t.plan seed execute).run t.limiter = .ok r → ∃ n, ∃ k : Nat → Nat,
      Chronological r.shared.history ∧
      spawnedIds r.shared.history = List.range' 1 n ∧
      (∀ e ∈ r.shared.history, e.user ∈ List.range' 1 n) ∧
      (∀ u, Traffic (t.plan seed execute).workload r.shared.history u (k u) ∧
        recordedBy u r.shared.history = List.range (k u)) ∧
      ∀ report, t.run seed execute = .ok (r, report) →
        report.iterations = ((List.range' 1 n).map k).sum := by
  refine ⟨fun halted now f reached => ⟨reached.sound.records.chronological,
    fun u => ⟨_, traffic_of_lawful reached.sound.records.lawful⟩⟩, ?_⟩
  intro r ran
  let w := (t.plan seed execute).workload
  obtain ⟨now, f, reached, finished, shared, -⟩ := Run.Plan.run_reachable ran
  have sound := reached.sound
  have known : ∀ e ∈ f.shared.history, e.user ∈ List.range' 1 (f.nextId - 1) := fun e he => by
    have := sound.records.known e he
    rw [List.mem_range'_1]
    omega
  refine ⟨f.nextId - 1, fun u => (status w u f.shared.history).recorded, ?_, ?_, ?_, fun u => ?_,
    fun report reported => ?_⟩
  · rw [shared]
    exact sound.records.chronological
  · rw [shared]
    exact sound.records.spawned
  · rw [shared]
    exact known
  · have traffic : Traffic w f.shared.history u _ := traffic_of_lawful sound.records.lawful
    have counted : Counted w u f.shared.history _ := counted_of_lawful sound.records.lawful
    have landed : (status w u f.shared.history).flight = none := sound.landed finished u
    rw [Status.begun, landed] at traffic
    rw [shared]
    exact ⟨traffic, counted.recorded⟩
  · rw [run_iterations reported, shared]
    exact length_samples List.nodup_range' known

/-- Two users share a cap that lets one request pass every two milliseconds. -/
def capped : LoadTest where
  config := {
    name := "capped"
    baseUrl := "http://localhost:3000"
    stages := [⟨.ofMillis 3, 2⟩]
    reconcileInterval := .ofMillis 3
    pacing := .fixed (.ofMillis 1)
    maxRate := Rate.of? 500 }
  thresholds := []
  checks := []

/-- The second user is cut off while it waits for the cap, which the first has passed twice. -/
theorem run_traffic_capped : ∃ r, (capped.plan 7 (scripted [])).run capped.limiter = .ok r ∧
    Traffic (capped.plan 7 (scripted [])).workload r.shared.history 1 2 ∧
    Traffic (capped.plan 7 (scripted [])).workload r.shared.history 2 0 := by
  have evaluated : (((capped.plan 7 (scripted [])).run capped.limiter).toOption.map fun r =>
      ((recordedBy 1 r.shared.history).length, (recordedBy 2 r.shared.history).length)) =
      some (2, 0) := by decide +kernel
  cases ran : (capped.plan 7 (scripted [])).run capped.limiter with
  | error e =>
    rw [ran] at evaluated
    cases evaluated
  | ok r =>
    rw [ran] at evaluated
    obtain ⟨n, k, -, -, -, users, -⟩ := (run_traffic capped 7 (scripted [])).2 r ran
    have counts := Option.some.inj evaluated
    have first : k 1 = 2 := by
      rw [← List.length_range (n := k 1), ← (users 1).2]
      exact (Prod.mk.inj counts).1
    have second : k 2 = 0 := by
      rw [← List.length_range (n := k 2), ← (users 2).2]
      exact (Prod.mk.inj counts).2
    exact ⟨r, rfl, first ▸ (users 1).1, second ▸ (users 2).1⟩

end LoadTest
end PrecheckLoad
