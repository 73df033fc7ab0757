import Mathlib.Data.List.Pairwise
import PrecheckLoad.Proofs.Fleet.Sharing
import PrecheckLoad.Proofs.Limiter.Spacing
import PrecheckLoad.Proofs.Run.Traffic

/-!
# The rate cap of a run

However the users of a run take turns, the limiter they share is what it is made by one pass for
each request begun, in the order of their beginnings. So the requests of all users together are as
far apart as the limiter spaces what it lets pass.
-/
namespace PrecheckLoad

def Event.begunAt? : Event → Option Nat
  | .begun _ _ t _ => some t
  | _ => none

/-- When requests began, the first one first. -/
def begunTimes (history : List Event) : List Nat :=
  (history.filterMap Event.begunAt?).reverse

/-- The same in nanoseconds, which is how a limiter counts. -/
def begunNanos (history : List Event) : List Nat :=
  (begunTimes history).map (· * 1000000)

/-- The limiter is what the requests begun have made of it. -/
def Tallied (l₀ : Limiter) (s : Shared) : Prop :=
  ∃ l, s.limiter = some l ∧ l₀.passAll (begunNanos s.history) = .ok l

variable {l₀ : Limiter} {s s' : Shared} {e : Event} {now time u i : Nat} {r : Request}
  {history later earlier : List Event}

theorem begunTimes_append :
    begunTimes (later ++ earlier) = begunTimes earlier ++ begunTimes later := by
  unfold begunTimes
  rw [List.filterMap_append, List.reverse_append]

theorem begunTimes_begun :
    begunTimes (.begun u i time r :: earlier) = begunTimes earlier ++ [time] := by
  have time_begun : (Event.begun u i time r).begunAt? = some time := rfl
  unfold begunTimes
  rw [List.filterMap_cons_some time_begun, List.reverse_cons]

theorem begunTimes_cons_of_none (other : e.begunAt? = none) :
    begunTimes (e :: earlier) = begunTimes earlier := by
  unfold begunTimes
  rw [List.filterMap_cons_none other]

theorem begunAt?_of_closing (closing : e.Closing) : e.begunAt? = none := by
  cases e with
  | begun u i t r => exact absurd closing id
  | _ => rfl

/-- The times of a history in the order of time ascend. -/
theorem begunTimes_ascending (chronological : Chronological history) :
    (begunTimes history).Pairwise (· ≤ ·) := by
  unfold begunTimes
  rw [List.pairwise_reverse, List.pairwise_filterMap]
  apply chronological.imp
  intro a b order t ht t' ht'
  cases a <;> cases ht
  cases b <;> cases ht'
  exact order

theorem exists_check_of_passCap {l : Limiter} (limited : s.limiter = some l)
    (passes : s.passCap now = .ok s') :
    ∃ l', l.check (now * 1000000) = .ok l' ∧ s' = { s with limiter := some l' } := by
  rcases s.passCap_cases now with ⟨none, -⟩ | ⟨_, same, ⟨l', checked, passes'⟩ | ⟨_, -, refused⟩⟩
  · cases none.symm.trans limited
  · cases same.symm.trans limited
    exact ⟨l', checked, Except.ok.inj (passes.symm.trans passes')⟩
  · cases refused.symm.trans passes

theorem Tallied.note (h : Tallied l₀ s) (other : e.begunAt? = none) : Tallied l₀ (s.note e) := by
  obtain ⟨l, limited, passed⟩ := h
  refine ⟨l, limited, ?_⟩
  unfold begunNanos at passed ⊢
  rw [Shared.note, begunTimes_cons_of_none other]
  exact passed

theorem tallied_kept : Kept (Tallied l₀) where
  note := fun s e closing h => h.note (begunAt?_of_closing closing)
  send := by
    rintro s s' now u i r passes ⟨l, limited, passed⟩
    obtain ⟨l', checked, rfl⟩ := exists_check_of_passCap limited passes
    refine ⟨l', rfl, ?_⟩
    unfold begunNanos at passed ⊢
    rw [Shared.note, begunTimes_begun, List.map_append, Limiter.passAll_append, passed, ok_bind,
      List.map_singleton, Limiter.passAll_singleton]
    exact checked

theorem tallied_of_reachable {w : Workload} {halted : Bool} {f : Fleet}
    (h : f.Reachable w (some l₀) halted now) : Tallied l₀ f.shared := by
  refine h.keeps tallied_kept.keptBy ?_ ⟨l₀, rfl, rfl⟩
  intro s u t tallied
  exact tallied.note rfl

/-- What a cap on the requests of all users together does to a history. -/
structure Capped (rate : Rate) (s : Shared) : Prop where
  /-- Each request has a pass of its own, and the limiter has let nothing else pass. -/
  tallied : Tallied (.perSecond rate.perSecond 1) s
  passed : ∀ later u i time r earlier, s.history = later ++ .begun u i time r :: earlier →
    ∃ l l', (Limiter.perSecond rate.perSecond 1).passAll (begunNanos earlier) = .ok l ∧
      l.check (time * 1000000) = .ok l'
  ordered : (begunTimes s.history).Pairwise (· ≤ ·)
  spaced : ∀ first rest, begunTimes s.history = first :: rest →
    ∀ n t, (first :: rest)[n]? = some t →
      first * 1000000 + n * (1000000000 / rate.perSecond) ≤ t * 1000000

theorem Tallied.passed (tallied : Tallied l₀ s)
    (split : s.history = later ++ .begun u i time r :: earlier) :
    ∃ l l', l₀.passAll (begunNanos earlier) = .ok l ∧ l.check (time * 1000000) = .ok l' := by
  obtain ⟨l, -, admitted⟩ := tallied
  unfold begunNanos at admitted
  rw [split, begunTimes_append, begunTimes_begun, List.append_assoc, List.map_append,
    Limiter.passAll_append] at admitted
  obtain ⟨before, earlier, others⟩ := bind_eq_ok.mp admitted
  rw [List.map_append, List.map_singleton, List.singleton_append, Limiter.passAll_cons] at others
  obtain ⟨after, checked, -⟩ := bind_eq_ok.mp others
  exact ⟨before, after, earlier, checked⟩

theorem capped_of_tallied {rate : Rate} (tallied : Tallied (.perSecond rate.perSecond 1) s)
    (chronological : Chronological s.history) : Capped rate s where
  tallied := tallied
  passed := by
    intro later u i time r earlier split
    exact tallied.passed split
  ordered := begunTimes_ascending chronological
  spaced := by
    intro first rest times n t place
    have ascending := begunTimes_ascending chronological
    obtain ⟨l, -, admitted⟩ := tallied
    unfold begunNanos at admitted
    rw [times] at admitted ascending
    exact Limiter.passAll_spacing_of_unit 1000000 admitted ascending place

namespace LoadTest

/-- A rate cap holds for the requests of all users together, in whatever state targets, time and at
last a shutdown bring a fleet to, and over the whole of a run. -/
theorem rate_cap_holds (t : LoadTest) (seed : UInt64) (execute : Executor) (rate : Rate)
    (capped : t.config.maxRate = some rate) :
    (∀ halted now f, Fleet.Reachable (t.plan seed execute).workload t.limiter halted now f →
      Capped rate f.shared) ∧
    ∀ r, (t.plan seed execute).run t.limiter = .ok r → Capped rate r.shared := by
  have limited : t.limiter = some (.perSecond rate.perSecond 1) := by
    rw [limiter, capped]
    rfl
  rw [limited]
  have all : ∀ halted now f, Fleet.Reachable (t.plan seed execute).workload
      (some (.perSecond rate.perSecond 1)) halted now f → Capped rate f.shared := by
    intro halted now f reached
    have sound := reached.sound
    exact capped_of_tallied (tallied_of_reachable reached) sound.records.chronological
  constructor
  · exact all
  · intro r ran
    obtain ⟨now, f, reached, -, shared, -⟩ := Run.Plan.run_reachable ran
    rw [shared]
    exact all true now f reached

/-- The cap of 500 requests in a second makes the second request wait for two milliseconds. -/
theorem rate_cap_holds_of_capped : ∃ rate r, capped.config.maxRate = some rate ∧
    (capped.plan 7 (scripted [])).run capped.limiter = .ok r ∧
    begunTimes r.shared.history = [0, 2] ∧ Capped rate r.shared := by
  have evaluated : ((capped.plan 7 (scripted [])).run capped.limiter).toOption.map
      (fun r => begunTimes r.shared.history) = some [0, 2] := by decide +kernel
  obtain ⟨r, ran, times⟩ := exists_ok_of_toOption evaluated
  have limited : capped.config.maxRate = some ⟨500, by decide, by decide⟩ := rfl
  exact ⟨_, r, limited, ran, times, (rate_cap_holds capped 7 (scripted []) _ limited).2 r ran⟩

end LoadTest
end PrecheckLoad
