import PrecheckLoad.Proofs.Run.Arithmetic

/-!
# How long a rest may be

Some pacings have no rest, some always the same, and the others draw one in each iteration. What is
drawn lies in the window that starts at the base and is as wide as the spread, also where the spread
has more nanoseconds than a draw. There is always something to draw from, so a rest is missing only
where it would be longer than any duration.
-/
namespace PrecheckLoad

variable {c : Context} {d base spread : Duration}

theorem Duration.isZero_iff : d.isZero = true ↔ d = .zero := by
  constructor
  · intro zero
    exact Duration.eq_of_nanos (of_decide_eq_true zero)
  · rintro rfl
    rfl

namespace Pacing

/-- Pacings without a rest. -/
inductive Restless : Pacing → Prop
  | none : Restless .none
  | fixed : Restless (.fixed .zero)
  | jittered : Restless (.jittered .zero .zero)

/-- Pacings that always rest for the same time. -/
inductive Steady : Pacing → Duration → Prop
  | fixed (d : Duration) (some_time : d ≠ .zero) : Steady (.fixed d) d
  | jittered (base : Duration) (some_time : base ≠ .zero) : Steady (.jittered base .zero) base

/-- A pacing rests never, always for the same time, or for a time that is drawn. -/
theorem restless_or_steady_or_drawn (p : Pacing) : p.Restless ∨ (∃ d, p.Steady d) ∨
    ∃ base spread, p = .jittered base spread ∧ spread ≠ .zero := by
  cases p with
  | none => exact .inl .none
  | fixed d =>
    by_cases zero : d = .zero
    · exact .inl (zero ▸ .fixed)
    · exact .inr (.inl ⟨d, .fixed d zero⟩)
  | jittered base spread =>
    by_cases still : spread = .zero
    · subst still
      by_cases zero : base = .zero
      · exact .inl (zero ▸ .jittered)
      · exact .inr (.inl ⟨base, .jittered base zero⟩)
    · exact .inr (.inr ⟨base, spread, rfl, still⟩)

variable {p : Pacing}

theorem restOf_of_ne_zero (some_time : d ≠ .zero) : restOf d = some d :=
  if_neg fun zero => some_time (Duration.isZero_iff.mp zero)

theorem Restless.delay_eq (restless : p.Restless) (c : Context) : p.delay c = .ok Option.none := by
  cases restless with
  | none => rfl
  | fixed => rfl
  | jittered => rfl

theorem Steady.delay_eq (steady : p.Steady d) (c : Context) : p.delay c = .ok (some d) := by
  cases steady with
  | fixed d some_time => rw [delay, restOf_of_ne_zero some_time]
  | jittered d some_time =>
    rw [delay, if_pos (Duration.isZero_iff.mpr rfl), restOf_of_ne_zero some_time]

/-- A draw has no more nanoseconds than a word holds. -/
theorem toNat_jitterBound (spread : Duration) :
    (jitterBound spread).toNat = min spread.nanos (2 ^ 64 - 1) :=
  UInt64.toNat_ofNat_of_lt' (Nat.lt_of_le_of_lt (Nat.min_le_right _ _) (by decide))

/-- Something is drawn, and it is less than the spread. -/
theorem exists_drawn (moves : spread ≠ .zero) (c : Context) : 0 < jitterBound spread ∧
    ∃ n, Random.draw (Random.stream c .pacing) 0 (jitterBound spread) = .ok n ∧
      jitter spread c = n.toNat ∧ n.toNat < min spread.nanos (2 ^ 64 - 1) := by
  have moving : ¬ spread.isZero = true := fun zero => moves (Duration.isZero_iff.mp zero)
  obtain ⟨n, drawn, same, below⟩ := draw_jitter moving c
  rw [toNat_jitterBound] at below
  exact ⟨jitterBound_pos moving, n, drawn, same, below⟩

theorem delay_of_drawn (moves : spread ≠ .zero) (c : Context) :
    (jittered base spread).delay c =
      some <$> Duration.ofNanos (base.nanos + jitter spread c) := by
  obtain ⟨-, n, drawn, same, -⟩ := exists_drawn moves c
  rw [delay, if_neg fun zero => moves (Duration.isZero_iff.mp zero), drawn, same]

theorem delay_drawn_eq_ok_iff (moves : spread ≠ .zero) {rest : Option Duration} :
    (jittered base spread).delay c = .ok rest ↔
      ∃ d, rest = some d ∧ d.nanos = base.nanos + jitter spread c := by
  rw [delay_of_drawn moves, map_eq_ok]
  constructor
  · rintro ⟨d, made, rfl⟩
    exact ⟨d, rfl, Duration.ofNanos_eq_ok made⟩
  · rintro ⟨d, rfl, length⟩
    refine ⟨d, ?_, rfl⟩
    rw [← length, Duration.ofNanos_of_lt d.lt_limit]

theorem delay_drawn_eq_error_iff (moves : spread ≠ .zero) :
    (jittered base spread).delay c = .error {} ↔
      Duration.limit ≤ base.nanos + jitter spread c := by
  rw [delay_of_drawn moves]
  by_cases fits : base.nanos + jitter spread c < Duration.limit
  · rw [Duration.ofNanos_of_lt fits]
    exact iff_of_false (fun failed => by cases failed) (Nat.not_le_of_lt fits)
  · rw [Duration.ofNanos_of_le (Nat.le_of_not_lt fits)]
    exact iff_of_true rfl (Nat.le_of_not_lt fits)

theorem delay_eq_none_iff : p.delay c = .ok Option.none ↔ p.Restless := by
  refine ⟨fun resting => ?_, fun restless => restless.delay_eq c⟩
  rcases p.restless_or_steady_or_drawn with restless | ⟨d, steady⟩ | ⟨base, spread, rfl, moves⟩
  · exact restless
  · cases (steady.delay_eq c).symm.trans resting
  · obtain ⟨d, some_rest, -⟩ := (delay_drawn_eq_ok_iff moves).mp resting
    cases some_rest

theorem exists_drawn_of_error (failed : p.delay c = .error {}) :
    ∃ base spread, p = .jittered base spread ∧ spread ≠ .zero := by
  rcases p.restless_or_steady_or_drawn with restless | ⟨d, steady⟩ | drawn
  · cases (restless.delay_eq c).symm.trans failed
  · cases (steady.delay_eq c).symm.trans failed
  · exact drawn

/-- There is no rest exactly where a pacing is restless, and a steady one always has the same rest.
All others draw from a range that is not empty, and rest for the base and what they draw, which is
less than the spread, and than a word can hold. The only rests that are missing are those for which
this sum is longer than the longest duration. -/
theorem delays_in_window (p : Pacing) (c : Context) :
    (p.delay c = .ok Option.none ↔ p.Restless) ∧
    (∀ d, p.Steady d → p.delay c = .ok (some d)) ∧
    (∀ base spread, p = .jittered base spread → spread ≠ .zero → 0 < jitterBound spread ∧
      ∃ n, Random.draw (Random.stream c .pacing) 0 (jitterBound spread) = .ok n ∧
        n.toNat < min spread.nanos (2 ^ 64 - 1) ∧
        ∀ rest, p.delay c = .ok rest ↔ ∃ d, rest = some d ∧ d.nanos = base.nanos + n.toNat) ∧
    (∀ base spread d, p = .jittered base spread → spread ≠ .zero → p.delay c = .ok (some d) →
      base.nanos ≤ d.nanos ∧ d.nanos < base.nanos + spread.nanos) ∧
    (p.delay c = .error {} ↔ ∃ base spread n, p = .jittered base spread ∧ spread ≠ .zero ∧
      Random.draw (Random.stream c .pacing) 0 (jitterBound spread) = .ok n ∧
      Duration.limit ≤ base.nanos + n.toNat) := by
  refine ⟨delay_eq_none_iff, fun d steady => steady.delay_eq c, ?_, ?_, ?_, ?_⟩
  · rintro base spread rfl moves
    obtain ⟨some_number, n, drawn, same, below⟩ := exists_drawn moves c
    refine ⟨some_number, n, drawn, below, fun rest => ?_⟩
    rw [← same]
    exact delay_drawn_eq_ok_iff moves
  · rintro base spread d rfl moves rests
    obtain ⟨-, n, -, same, below⟩ := exists_drawn moves c
    obtain ⟨_, ⟨⟩, length⟩ := (delay_drawn_eq_ok_iff moves).mp rests
    omega
  · intro failed
    obtain ⟨base, spread, rfl, moves⟩ := exists_drawn_of_error failed
    obtain ⟨-, n, drawn, same, -⟩ := exists_drawn moves c
    exact ⟨base, spread, n, rfl, moves, drawn, same ▸ (delay_drawn_eq_error_iff moves).mp failed⟩
  · rintro ⟨base, spread, n, rfl, moves, drawn, late⟩
    obtain ⟨-, n', drawn', same, -⟩ := exists_drawn moves c
    cases drawn.symm.trans drawn'
    exact (delay_drawn_eq_error_iff moves).mpr (same ▸ late)

/-- The longest of all durations, which has more nanoseconds than a draw. -/
def widest : Duration := .ofNanosCapped Duration.limit

/-- The spread goes beyond all draws, and behind the base there is nothing. -/
theorem delays_in_window_of_widest :
    (∃ d, (jittered .zero widest).delay ⟨1, 0, 7⟩ = .ok (some d) ∧ d.nanos < 2 ^ 64 - 1) ∧
    (jittered widest .zero).delay ⟨1, 0, 7⟩ = .ok (some widest) ∧
    (jittered widest widest).delay ⟨1, 0, 7⟩ = .error {} := by
  have moves : widest ≠ .zero := by decide
  obtain ⟨-, -, window, -⟩ := delays_in_window (jittered .zero widest) ⟨1, 0, 7⟩
  obtain ⟨-, steady, -⟩ := delays_in_window (jittered widest .zero) ⟨1, 0, 7⟩
  obtain ⟨-, -, -, -, missing⟩ := delays_in_window (jittered widest widest) ⟨1, 0, 7⟩
  obtain ⟨-, n, drawn, below, rests⟩ := window _ _ rfl moves
  refine ⟨⟨⟨n.toNat, ?_⟩, ?_, ?_⟩, steady _ (.jittered widest moves), ?_⟩
  · exact Nat.lt_of_lt_of_le below (Nat.le_trans (Nat.min_le_right _ _) (by decide))
  · exact (rests _).mpr ⟨_, rfl, (Nat.zero_add _).symm⟩
  · exact Nat.lt_of_lt_of_le below (Nat.min_le_right _ _)
  · exact missing.mpr ⟨_, _, 16758465056119610439, rfl, moves, by decide +kernel, by decide⟩

end Pacing
end PrecheckLoad
