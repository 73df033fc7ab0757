import PrecheckLoad.Config.Basic
import PrecheckLoad.Proofs.Fallible

/-!
# What validation looks at

A configuration is accepted when it has stages, an interval, an address, a pattern and thresholds,
each of them sound by itself. Nothing is asked of its times but that the interval is not zero.
-/
namespace PrecheckLoad
namespace Config

/-- All that is asked of a configuration. -/
structure Accepted (c : Config) : Prop where
  stages : c.stages.isEmpty = false
  interval : c.reconcileInterval.isZero = false
  address : Url.validate c.baseUrl = .ok ()
  pattern : c.pattern.validate = .ok ()
  thresholds : ∃ ts, c.compileThresholds = .ok ts

variable {c : Config}

theorem validate_eq_ok : c.validate = .ok () ↔ c.Accepted := by
  constructor
  · intro valid
    unfold validate at valid
    cases stages : c.stages.isEmpty with
    | true =>
      rw [stages] at valid
      cases valid
    | false =>
      cases interval : c.reconcileInterval.isZero with
      | true =>
        rw [stages, interval] at valid
        cases valid
      | false =>
        rw [stages, interval] at valid
        obtain ⟨_, address, valid⟩ := bind_eq_ok.mp valid
        obtain ⟨_, pattern, valid⟩ := bind_eq_ok.mp valid
        obtain ⟨ts, thresholds, -⟩ := bind_eq_ok.mp valid
        exact ⟨stages, interval, mapError_eq_ok.mp address, mapError_eq_ok.mp pattern, ts,
          mapError_eq_ok.mp thresholds⟩
  · rintro ⟨stages, interval, address, pattern, ts, thresholds⟩
    unfold validate
    rw [stages, interval, address, pattern, thresholds]
    rfl

/-- A run that has been validated gets on from tick to tick. -/
theorem interval_pos (valid : c.validate = .ok ()) : 0 < c.reconcileInterval.nanos := by
  apply Nat.pos_of_ne_zero
  intro zero
  have stands : c.reconcileInterval.isZero = true := decide_eq_true zero
  rw [(validate_eq_ok.mp valid).interval] at stands
  cases stands

theorem valid_of_isOk (accepted : c.validate.isOk = true) : c.validate = .ok () := by
  cases valid : c.validate with
  | error fault =>
    rw [valid] at accepted
    cases accepted
  | ok _ => rfl

end Config
end PrecheckLoad
