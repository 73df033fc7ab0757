import PrecheckLoad.Proofs.Fleet.Crashes
import PrecheckLoad.Proofs.Run.Ending

/-!
# Times that are no durations

The arithmetic of a run adds up the lengths of its stages, and to the base of a rest what is drawn
for it. Both sums have to be durations, which the validation of a configuration does not see to.
Where they are, every look at the schedule and every rest has a result, so no user crashes, and the
ticks go through if there is room for one more interval after the stages.
-/
namespace PrecheckLoad

variable {α : Type}

theorem Duration.eq_error {x : Except Overflow α} (none : ¬ ∃ a, x = .ok a) : x = .error {} := by
  cases x with
  | error e => rfl
  | ok a => exact absurd ⟨a, rfl⟩ none

theorem Duration.ofNanos_ok_iff {n : Nat} : (∃ d, ofNanos n = .ok d) ↔ n < limit := by
  constructor
  · rintro ⟨d, made⟩
    rw [← ofNanos_eq_ok made]
    exact d.lt_limit
  · intro lt
    exact ⟨_, ofNanos_of_lt lt⟩

namespace Schedule

variable {s : Schedule} {start t : Duration} {before : UInt64} {stages : List Stage}

theorem total_ok_iff (s : Schedule) : (∃ d, s.total = .ok d) ↔ nanos s.stages < Duration.limit :=
  Duration.ofNanos_ok_iff

/-- The longest of all durations is looked for until a stage ends beyond it. -/
theorem locateFrom_last (last : t.nanos + 1 = Duration.limit)
    (late : Duration.limit ≤ start.nanos + nanos stages) (place : Option Active) :
    locateFrom start before t stages ≠ .ok place := by
  induction stages generalizing start before with
  | nil =>
    have inside : start.nanos < Duration.limit := start.lt_limit
    have none : nanos [] = 0 := rfl
    omega
  | cons st rest ih =>
    rw [nanos_cons] at late
    intro located
    unfold locateFrom at located
    obtain ⟨stop, ends, located⟩ := bind_eq_ok.mp located
    have stop_eq : stop.nanos = start.nanos + st.duration.nanos := Duration.ofNanos_eq_ok ends
    have inside : stop.nanos < Duration.limit := stop.lt_limit
    rw [if_neg (by omega)] at located
    exact ih (by omega) located

theorem looks_ok_iff (s : Schedule) :
    (∀ t, (∃ n, s.target t = .ok n) ∧ ∃ b, s.isComplete t = .ok b) ↔
      nanos s.stages < Duration.limit := by
  constructor
  · intro looks
    by_contra late
    have room : Duration.limit - 1 < Duration.limit := by decide
    obtain ⟨-, b, looked⟩ := looks ⟨Duration.limit - 1, room⟩
    unfold isComplete at looked
    obtain ⟨place, located, -⟩ := bind_eq_ok.mp looked
    refine locateFrom_last (Nat.sub_add_cancel (Nat.succ_le_of_lt (Nat.zero_lt_of_lt room))) ?_
      place located
    show Duration.limit ≤ 0 + nanos s.stages
    omega
  · intro fits t
    exact ⟨s.target_ok fits, s.isComplete_ok fits⟩

end Schedule

namespace Pacing

/-- What is drawn for a rest, in nanoseconds. -/
def jitter (spread : Duration) (c : Context) : Nat :=
  match Random.draw (Random.stream c .pacing) 0 (jitterBound spread) with
  | .ok n => n.toNat
  | .error _ => 0

/-- How long a rest is to be, in nanoseconds. -/
def span (p : Pacing) (c : Context) : Nat :=
  match p with
  | .none => 0
  | .fixed d => d.nanos
  | .jittered base spread => base.nanos + jitter spread c

/-- No rest is longer, whatever is drawn. -/
def longest : Pacing → Nat
  | .none => 0
  | .fixed d => d.nanos
  | .jittered base spread => base.nanos + ((jitterBound spread).toNat - 1)

variable {p : Pacing} {base spread : Duration}

theorem jitterBound_pos (moves : ¬ spread.isZero = true) : 0 < jitterBound spread := by
  have pos : 0 < spread.nanos := Nat.pos_of_ne_zero fun zero => moves (decide_eq_true zero)
  have word : min spread.nanos (Nat.pow 2 64 - 1) < 2 ^ 64 :=
    Nat.lt_of_le_of_lt (Nat.min_le_right _ _) (by decide)
  rw [UInt64.lt_iff_toNat_lt, jitterBound, UInt64.toNat_ofNat_of_lt' word]
  exact Nat.lt_min.mpr ⟨pos, by decide⟩

theorem jitter_of_still (still : spread.isZero = true) (c : Context) : jitter spread c = 0 := by
  have zero : spread.nanos = 0 := of_decide_eq_true still
  have bound : jitterBound spread = 0 := by
    rw [jitterBound, zero]
    rfl
  unfold jitter
  rw [bound]
  rfl

theorem draw_jitter (moves : ¬ spread.isZero = true) (c : Context) :
    ∃ n, Random.draw (Random.stream c .pacing) 0 (jitterBound spread) = .ok n ∧
      jitter spread c = n.toNat ∧ n.toNat < (jitterBound spread).toNat := by
  obtain ⟨n, drawn, -, below⟩ :=
    Random.draw_in_range (Random.stream c .pacing) (jitterBound_pos moves)
  refine ⟨n, drawn, ?_, UInt64.lt_iff_toNat_lt.mp below⟩
  rw [jitter, drawn]

theorem span_le_longest (p : Pacing) (c : Context) : p.span c ≤ p.longest := by
  cases p with
  | none => exact Nat.le_refl 0
  | fixed d => exact Nat.le_refl d.nanos
  | jittered base spread =>
    apply Nat.add_le_add_left
    by_cases still : spread.isZero = true
    · rw [jitter_of_still still]
      exact Nat.zero_le _
    · obtain ⟨n, -, same, below⟩ := draw_jitter still c
      omega

/-- A rest has a length exactly if what it is to be is a duration. -/
theorem delay_ok_iff (p : Pacing) (c : Context) :
    (∃ rest, p.delay c = .ok rest) ↔ p.span c < Duration.limit := by
  cases p with
  | none => exact ⟨fun _ => Duration.zero.lt_limit, fun _ => ⟨_, rfl⟩⟩
  | fixed d => exact ⟨fun _ => d.lt_limit, fun _ => ⟨_, rfl⟩⟩
  | jittered base spread =>
    dsimp only [span, delay]
    by_cases still : spread.isZero = true
    · rw [if_pos still, jitter_of_still still]
      exact ⟨fun _ => base.lt_limit, fun _ => ⟨_, rfl⟩⟩
    · obtain ⟨n, drawn, same, -⟩ := draw_jitter still c
      rw [if_neg still, drawn, same, ← Duration.ofNanos_ok_iff]
      simp only [map_eq_ok]
      constructor
      · rintro ⟨rest, d, made, -⟩
        exact ⟨d, made⟩
      · rintro ⟨d, made⟩
        exact ⟨some d, d, made, rfl⟩

end Pacing

/-- The sums that a run forms of its times are durations. -/
structure Config.Timely (c : Config) : Prop where
  stages : Schedule.nanos c.stages < Duration.limit
  rests : ∀ x, c.pacing.span x < Duration.limit

/-- All arithmetic on times has a result, for every time and for every iteration. -/
structure Config.Computes (c : Config) : Prop where
  total : ∃ d, c.totalDuration = .ok d
  looks : ∀ t, (∃ n, c.schedule.target t = .ok n) ∧ ∃ b, c.schedule.isComplete t = .ok b
  rests : ∀ x, ∃ rest, c.pacing.delay x = .ok rest

namespace Config

variable {c : Config}

theorem computes_iff (c : Config) : c.Computes ↔ c.Timely := by
  constructor
  · intro h
    exact ⟨c.schedule.total_ok_iff.mp h.total, fun x => (c.pacing.delay_ok_iff x).mp (h.rests x)⟩
  · intro h
    exact ⟨c.schedule.total_ok_iff.mpr h.stages, c.schedule.looks_ok_iff.mpr h.stages,
      fun x => (c.pacing.delay_ok_iff x).mpr (h.rests x)⟩

/-- A bound that does not look at the draws. -/
theorem timely_of_longest (stages : Schedule.nanos c.stages < Duration.limit)
    (longest : c.pacing.longest < Duration.limit) : c.Timely :=
  ⟨stages, fun x => Nat.lt_of_le_of_lt (c.pacing.span_le_longest x) longest⟩

end Config

namespace Run.Plan

variable {p : Plan} {limiter : Option Limiter}

/-- Ticks go through, unless one of them is late that comes while the stages go on. -/
theorem ticks_ok_or_late (fits : Schedule.nanos p.schedule.stages < Duration.limit)
    (fuel k : Nat) (st : State) : (∃ now st', p.ticks fuel k st = .ok (now, st')) ∨
      ∃ j, k ≤ j ∧ Duration.limit ≤ tickTime p.interval j * 1000000 ∧
        ∀ i, k ≤ i → i < j →
          tickTime p.interval i * 1000000 < Schedule.nanos p.schedule.stages := by
  induction fuel generalizing k st with
  | zero => exact Or.inl ⟨_, _, rfl⟩
  | succ fuel ih =>
    by_cases late : Duration.limit ≤ tickTime p.interval k * 1000000
    · refine Or.inr ⟨k, Nat.le_refl k, late, ?_⟩
      intro i from_k before_k
      omega
    · let elapsed : Duration := ⟨tickTime p.interval k * 1000000, Nat.lt_of_not_le late⟩
      have time : Duration.ofNanos (tickTime p.interval k * 1000000) = .ok elapsed :=
        Duration.ofNanos_of_lt _
      obtain ⟨target, sought⟩ := p.schedule.target_ok (t := elapsed) fits
      obtain ⟨complete, looked⟩ := p.schedule.isComplete_ok (t := elapsed) fits
      unfold ticks
      dsimp only
      rw [time, ok_bind, sought, ok_bind, looked, ok_bind]
      cases complete with
      | true => exact Or.inl ⟨_, _, rfl⟩
      | false =>
        rw [if_neg Bool.false_ne_true]
        rcases ih (k + 1) _ with through | ⟨j, after_k, late, within⟩
        · exact Or.inl through
        · refine Or.inr ⟨j, by omega, late, ?_⟩
          intro i from_k before_j
          by_cases first : i = k
          · by_contra beyond
            rw [first] at beyond
            cases Schedule.isComplete_of_le looked (Nat.le_of_not_lt beyond)
          · exact within i (by omega) before_j

theorem ticks_ok (room : Schedule.nanos p.schedule.stages + p.interval.nanos + 1000000 ≤
    Duration.limit) (fuel : Nat) (st : State) : ∃ now st', p.ticks fuel 0 st = .ok (now, st') := by
  have fits : Schedule.nanos p.schedule.stages < Duration.limit := by omega
  rcases ticks_ok_or_late fits fuel 0 st with through | ⟨j, -, late, within⟩
  · exact through
  · exfalso
    cases j with
    | zero =>
      rw [tickTime_zero] at late
      exact absurd late (by decide)
    | succ i =>
      have before := within i (Nat.zero_le i) (Nat.lt_succ_self i)
      have next : (i + 1) * p.interval.nanos = i * p.interval.nanos + p.interval.nanos :=
        Nat.succ_mul _ _
      unfold tickTime Duration.ceilMillis at late before
      rw [next] at late
      omega

end Run.Plan

namespace LoadTest

/-- A validated run computes with its times exactly if they are timely. A user crashes exactly where
a rest is not, so nobody does if they all are, whatever the answers; and then the ticks go through
that have room for one more interval. -/
theorem computes_iff_timely (t : LoadTest) (valid : t.config.validate = .ok ()) :
    (t.config.Computes ↔ t.config.Timely) ∧
    ∀ seed execute,
      let p := t.plan seed execute
      (∀ halted now f, Fleet.Reachable p.workload t.limiter halted now f → ∀ u,
        (HasCrashed f.shared.history u ↔ Overrun p.workload f.shared.history u) ∧
        (t.config.Timely → ¬ HasCrashed f.shared.history u)) ∧
      (Schedule.nanos p.schedule.stages + p.interval.nanos + 1000000 ≤ Duration.limit →
        ∃ now st, p.ticks p.tickBound 0 (.first t.limiter) = .ok (now, st) ∧
          (p.run t.limiter).map (·.elapsed) =
            Duration.ofNanos ((st.fleet.shutdown p.workload now).1 * 1000000)) := by
  refine ⟨t.config.computes_iff, ?_⟩
  intro seed execute p
  constructor
  · intro halted now f reached u
    have crashed := reached.crashed_iff (Config.validate_eq_ok.mp valid).pattern u
    refine ⟨crashed, ?_⟩
    intro timely lost
    obtain ⟨i, time, sample, checks, -, delay⟩ := crashed.mp lost
    obtain ⟨rest, rests⟩ := (Config.computes_iff _).mpr timely |>.rests (p.workload.context u i)
    cases rests.symm.trans delay
  · intro room
    obtain ⟨now, st, through⟩ := Run.Plan.ticks_ok room p.tickBound (.first t.limiter)
    exact ⟨now, st, through, Run.Plan.elapsed_of_ticks through⟩

/-- The second stage goes on for as long as a stage may. -/
def endless : LoadTest where
  config := {
    name := "spike"
    baseUrl := "http://localhost:3000"
    stages := [⟨.ofSeconds 1, 1⟩, ⟨.ofSeconds 18446744073709551615, 0⟩]
    reconcileInterval := .ofSeconds 1
    seed := some 7 }
  thresholds := []
  checks := []

/-- The rests are about as long as a duration may be. -/
def weary : LoadTest where
  config := {
    name := "weary"
    baseUrl := "http://localhost:3000"
    stages := [⟨.ofSeconds 1, 1⟩]
    reconcileInterval := .ofMillis 10
    pacing := .jittered ⟨Duration.limit - 1, by decide⟩ (.ofSeconds 2)
    seed := some 7 }
  thresholds := []
  checks := []

/-- Each request is answered after so many milliseconds. -/
def answersAfter (ms : Nat) (pos : 0 < ms) : Executor :=
  ⟨fun _ _ _ => ⟨ms, .response ⟨200, Text.encode "\x7b\x7d"⟩, .ofMillis (UInt64.ofNat ms), pos⟩⟩

theorem endless_valid : endless.config.validate = .ok () :=
  Config.valid_of_isOk (by decide +kernel)

theorem weary_valid : weary.config.validate = .ok () :=
  Config.valid_of_isOk (by decide +kernel)

/-- Neither is turned down by validation. The one cannot look at its schedule after a second, and so
loses its run; the other has no rest after the first request. -/
theorem validation_misses_overflows :
    (endless.config.validate = .ok () ∧ endless.config.totalDuration = .error {} ∧
      endless.config.schedule.isComplete (.ofSeconds 1) = .error {} ∧
      (endless.plan 7 (answersAfter 700 (by decide))).run endless.limiter = .error {}) ∧
    weary.config.validate = .ok () ∧ weary.config.pacing.delay ⟨1, 0, 7⟩ = .error {} := by
  have run : ¬ ∃ r, (endless.plan 7 (answersAfter 700 (by decide))).run endless.limiter =
      .ok r := by
    rintro ⟨r, ran⟩
    have failed : ((endless.plan 7 (answersAfter 700 (by decide))).run
        endless.limiter).toOption.isNone = true := by decide +kernel
    rw [ran] at failed
    cases failed
  refine ⟨⟨endless_valid, by decide, by decide, Duration.eq_error run⟩, weary_valid, ?_⟩
  decide +kernel

/-- Two users rest for a millisecond, and the stages are over after three. -/
theorem computes_iff_timely_of_capped : capped.config.Computes ∧
    ∀ execute, ∃ now st, (capped.plan 7 execute).ticks (capped.plan 7 execute).tickBound 0
      (.first capped.limiter) = .ok (now, st) := by
  have timely : capped.config.Timely :=
    Config.timely_of_longest (by decide +kernel) (by decide +kernel)
  refine ⟨(computes_iff_timely capped capped_valid).1.mpr timely, ?_⟩
  intro execute
  have room : Schedule.nanos capped.config.stages + capped.config.reconcileInterval.nanos +
      1000000 ≤ Duration.limit := by decide +kernel
  obtain ⟨now, st, through, -⟩ :=
    ((computes_iff_timely capped capped_valid).2 7 execute).2 room
  exact ⟨now, st, through⟩

end LoadTest
end PrecheckLoad
