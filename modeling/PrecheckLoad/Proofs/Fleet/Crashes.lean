import PrecheckLoad.Proofs.Fleet.Sharing
import PrecheckLoad.Proofs.Pattern.Composition

/-!
# Which users crash

Where every request can be built, a user crashes for one reason only: the rest that is due after a
record is no duration. It does so at once, and a user that is over without having been told to stop
has crashed.
-/
namespace PrecheckLoad

/-- A user has crashed. -/
def HasCrashed (history : List Event) (u : Nat) : Prop := ∃ t, .crashed u t ∈ history

/-- A user has recorded an iteration after which the rest that is due is no duration. -/
def Overrun (w : Workload) (history : List Event) (u : Nat) : Prop :=
  ∃ i t sample checks, .recorded u i t sample checks ∈ history ∧
    w.pacing.delay (w.context u i) = .error {}

/-- Those have crashed whose rests were no durations, and nobody else. -/
def CrashesExplained (w : Workload) (s : Shared) : Prop :=
  ∀ u, HasCrashed s.history u ↔ Overrun w s.history u

variable {w : Workload} {u : Nat} {e : Event} {past history : List Event} {s : Shared}

theorem hasCrashed_cons :
    HasCrashed (e :: past) u ↔ (∃ t, e = .crashed u t) ∨ HasCrashed past u := by
  unfold HasCrashed
  rw [← exists_or]
  refine exists_congr fun t => ?_
  rw [List.mem_cons, eq_comm]

theorem overrun_cons : Overrun w (e :: past) u ↔
    (∃ i t sample checks, e = .recorded u i t sample checks ∧
      w.pacing.delay (w.context u i) = .error {}) ∨ Overrun w past u := by
  unfold Overrun
  simp only [List.mem_cons, or_and_right, exists_or, eq_comm]

/-- An event that is neither a record nor a crash explains nothing and needs no explanation. -/
theorem CrashesExplained.note (h : CrashesExplained w s) (calm : ∀ u t, e ≠ .crashed u t)
    (silent : ∀ u i t sample checks, e ≠ .recorded u i t sample checks) :
    CrashesExplained w (s.note e) := by
  intro u
  have events : (s.note e).history = e :: s.history := rfl
  rw [events, hasCrashed_cons, overrun_cons, ← h u]
  simp [calm, silent]

theorem crashesExplained_kept (built : ∀ c, ∃ r, w.pattern.build c w.url = .ok r) :
    KeptBy w (CrashesExplained w) where
  stopped := fun s u now h => h.note (by simp) (by simp)
  ended := fun s u now h => h.note (by simp) (by simp)
  send := by
    intro s s' now u i r passes h
    have same : CrashesExplained w s' := by
      intro v
      rw [Shared.passCap_history passes]
      exact h v
    exact same.note (by simp) (by simp)
  recorded := by
    intro s v i now sample checks rest delay h u
    have events : (s.note (.recorded v i now sample checks)).history =
        .recorded v i now sample checks :: s.history := rfl
    rw [events, hasCrashed_cons, overrun_cons, ← h u]
    have rests : w.pacing.delay (w.context v i) ≠ .error {} := by
      rw [delay]
      simp
    grind
  overrun := by
    intro s v i now sample checks delay h u
    have events : ((s.note (.recorded v i now sample checks)).note (.crashed v now)).history =
        .crashed v now :: .recorded v i now sample checks :: s.history := rfl
    rw [events, hasCrashed_cons, hasCrashed_cons, overrun_cons, overrun_cons, ← h u]
    grind
  unbuilt := by
    intro s u i now fault unbuilt h
    obtain ⟨r, request⟩ := built (w.context u i)
    rw [request] at unbuilt
    cases unbuilt

/-- The requests of an accepted pattern can be built. -/
theorem Pattern.exists_build {p : Pattern} (accepted : p.validate = .ok ()) (url : String)
    (c : Context) : ∃ r, p.build c url = .ok r := by
  obtain ⟨d, drafted, -⟩ := exists_composed (validate_eq_ok.mp accepted).2.2 c
  exact ⟨Draft.request p url d, build_of_draft url drafted⟩

/-- Only who was told to stop ends in order. -/
theorem Lawful.wasStopped_of_ended (h : Lawful w history) {t : Nat}
    (ended : .ended u t ∈ history) : WasStopped history u := by
  obtain ⟨later, earlier, rfl⟩ := List.append_of_mem ended
  have told : (status w u earlier).deadline = some t := h.of_split.1.2.2
  obtain ⟨time, stopped⟩ : WasStopped earlier u := by
    rw [← deadline_isSome_iff, told]
    rfl
  exact ⟨time, List.mem_append_right _ (List.mem_cons_of_mem _ stopped)⟩

namespace Fleet

variable {limiter : Option Limiter} {halted : Bool} {now : Nat} {f : Fleet}

theorem Reachable.crashed_iff (h : f.Reachable w limiter halted now)
    (accepted : w.pattern.validate = .ok ()) (u : Nat) :
    HasCrashed f.shared.history u ↔ Overrun w f.shared.history u := by
  refine h.keeps (crashesExplained_kept (Pattern.exists_build accepted w.url)) ?_ ?_ u
  · intro s v time explained
    exact explained.note (by simp) (by simp)
  · intro v
    simp [HasCrashed, Overrun]

/-- Who is over without having been told to stop has crashed. -/
theorem Reachable.hasEnded_iff (h : f.Reachable w limiter halted now)
    (accepted : w.pattern.validate = .ok ()) (running : ¬ WasStopped f.shared.history u) :
    HasEnded f.shared.history u ↔ Overrun w f.shared.history u := by
  rw [← h.crashed_iff accepted u]
  constructor
  · rintro ⟨t, ended | crashed⟩
    · exact absurd (h.sound.records.lawful.wasStopped_of_ended ended) running
    · exact ⟨t, crashed⟩
  · rintro ⟨t, crashed⟩
    exact ⟨t, Or.inr crashed⟩

end Fleet
end PrecheckLoad
