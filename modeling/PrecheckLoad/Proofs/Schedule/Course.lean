import Mathlib.Logic.Relation
import PrecheckLoad.Proofs.Schedule.Completion

/-!
# The course of a schedule

Stages follow one another, each active from where it begins until just before it ends. What a
schedule does at a time depends on the stages that are not over by then: the first of them is the
active one, and a stage without length is never the first. Under the stepped ramp nothing else
counts, so two lists of stages that hold every target equally long ask for the same at all times.
-/
namespace PrecheckLoad

namespace Schedule

/-- Where the stage of an index begins, and the one before it ends. -/
def startOf (stages : List Stage) (i : Nat) : Nat := nanos (stages.take i)

/-- The stage of an index is active at a time. Its window is open at the end. -/
structure ActiveAt (stages : List Stage) (m i : Nat) (st : Stage) : Prop where
  listed : stages[i]? = some st
  begun : startOf stages i ≤ m
  unfinished : m < startOf stages (i + 1)

/-- The stages that are not over at a time. -/
def pending : List Stage → Nat → List Stage
  | [], _ => []
  | st :: rest, m =>
    if m < st.duration.nanos then st :: rest else pending rest (m - st.duration.nanos)

/-- The target that is held at a time. -/
def held (stages : List Stage) (m : Nat) : UInt64 :=
  match pending stages m with
  | [] => 0
  | st :: _ => st.target

variable {s : Schedule} {start t : Duration} {before : UInt64} {stages stages' rest : List Stage}
  {st st' : Stage} {place : Option Active} {i j m m' : Nat}

theorem startOf_zero (stages : List Stage) : startOf stages 0 = 0 := rfl

theorem startOf_cons (st : Stage) (rest : List Stage) (i : Nat) :
    startOf (st :: rest) (i + 1) = st.duration.nanos + startOf rest i := rfl

theorem startOf_mono (stages : List Stage) (le : i ≤ j) : startOf stages i ≤ startOf stages j := by
  induction stages generalizing i j with
  | nil =>
    rw [startOf, startOf, List.take_nil, List.take_nil]
  | cons st rest ih =>
    cases i with
    | zero => exact Nat.zero_le _
    | succ i =>
      cases j with
      | zero => omega
      | succ j =>
        rw [startOf_cons, startOf_cons]
        exact Nat.add_le_add_left (ih (Nat.le_of_succ_le_succ le)) _

theorem startOf_le (stages : List Stage) (i : Nat) : startOf stages i ≤ nanos stages := by
  induction stages generalizing i with
  | nil =>
    rw [startOf, List.take_nil]
  | cons st rest ih =>
    cases i with
    | zero => exact Nat.zero_le _
    | succ i =>
      rw [startOf_cons, nanos_cons]
      exact Nat.add_le_add_left (ih i) _

theorem startOf_succ (listed : stages[i]? = some st) :
    startOf stages (i + 1) = startOf stages i + st.duration.nanos := by
  induction stages generalizing i with
  | nil => cases listed
  | cons x rest ih =>
    cases i with
    | zero =>
      cases listed
      exact Nat.add_comm _ _
    | succ i =>
      rw [startOf_cons, startOf_cons, ih listed, Nat.add_assoc]

/-- Windows do not overlap. -/
theorem ActiveAt.index_eq (h : ActiveAt stages m i st) (h' : ActiveAt stages m j st') : i = j := by
  have begun := h.begun
  have begun' := h'.begun
  have unfinished := h.unfinished
  have unfinished' := h'.unfinished
  by_contra apart
  rcases Nat.lt_or_gt_of_ne apart with lt | lt
  · have before : startOf stages (i + 1) ≤ startOf stages j := startOf_mono stages lt
    omega
  · have before : startOf stages (j + 1) ≤ startOf stages i := startOf_mono stages lt
    omega

theorem activeAt_head (st : Stage) (rest : List Stage) (early : m < st.duration.nanos) :
    ActiveAt (st :: rest) m 0 st := by
  refine ⟨rfl, Nat.zero_le m, ?_⟩
  rw [startOf_cons]
  omega

theorem activeAt_tail {x : Stage} (late : x.duration.nanos ≤ m) :
    ActiveAt (x :: rest) m (i + 1) st ↔ ActiveAt rest (m - x.duration.nanos) i st := by
  constructor
  · rintro ⟨listed, begun, unfinished⟩
    rw [startOf_cons] at begun unfinished
    exact ⟨listed, by omega, by omega⟩
  · rintro ⟨listed, begun, unfinished⟩
    refine ⟨listed, ?_, ?_⟩
    · rw [startOf_cons]
      omega
    · rw [startOf_cons]
      omega

/-- Windows leave no gap. -/
theorem exists_activeAt (within : m < nanos stages) : ∃ i st, ActiveAt stages m i st := by
  induction stages generalizing m with
  | nil => cases within
  | cons st rest ih =>
    rw [nanos_cons] at within
    by_cases early : m < st.duration.nanos
    · exact ⟨0, st, activeAt_head st rest early⟩
    · obtain ⟨i, st', active⟩ := ih (m := m - st.duration.nanos) (by omega)
      exact ⟨i + 1, st', (activeAt_tail (Nat.le_of_not_lt early)).mpr active⟩

theorem pending_early (rest : List Stage) (early : m < st.duration.nanos) :
    pending (st :: rest) m = st :: rest := if_pos early

theorem pending_late (rest : List Stage) (late : st.duration.nanos ≤ m) :
    pending (st :: rest) m = pending rest (m - st.duration.nanos) :=
  if_neg (Nat.not_lt_of_le late)

/-- The active stage is the first that is not over. -/
theorem pending_of_activeAt (active : ActiveAt stages m i st) :
    pending stages m = st :: stages.drop (i + 1) := by
  induction stages generalizing m i with
  | nil => cases active.listed
  | cons x rest ih =>
    have unfinished := active.unfinished
    rw [startOf_cons] at unfinished
    cases i with
    | zero =>
      have same : x = st := Option.some.inj active.listed
      subst same
      exact pending_early rest unfinished
    | succ i =>
      have late : x.duration.nanos ≤ m := by
        have begun := active.begun
        rw [startOf_cons] at begun
        omega
      rw [pending_late rest late]
      exact ih ((activeAt_tail late).mp active)

theorem pending_of_le (past : nanos stages ≤ m) : pending stages m = [] := by
  induction stages generalizing m with
  | nil => rfl
  | cons st rest ih =>
    rw [nanos_cons] at past
    rw [pending_late rest (by omega)]
    exact ih (by omega)

theorem mem_pending_iff :
    st ∈ pending stages m ↔ ∃ i, stages[i]? = some st ∧ m < startOf stages (i + 1) := by
  induction stages generalizing m with
  | nil =>
    constructor
    · intro mem
      cases mem
    · rintro ⟨i, listed, -⟩
      cases listed
  | cons x rest ih =>
    by_cases early : m < x.duration.nanos
    · rw [pending_early rest early, List.mem_iff_getElem?]
      -- The first stage is not over, so none of them is and the second part says nothing.
      refine exists_congr fun i => ?_
      rw [startOf_cons]
      exact ⟨fun listed => ⟨listed, by omega⟩, fun both => both.1⟩
    · rw [pending_late rest (Nat.le_of_not_lt early), ih]
      constructor
      · rintro ⟨i, listed, ahead⟩
        refine ⟨i + 1, listed, ?_⟩
        rw [startOf_cons]
        omega
      · rintro ⟨i, listed, ahead⟩
        rw [startOf_cons] at ahead
        cases i with
        | zero =>
          rw [startOf_zero] at ahead
          omega
        | succ i => exact ⟨i, listed, by omega⟩

/-- A stage that is over stays so. -/
theorem pending_subset (le : m ≤ m') : pending stages m' ⊆ pending stages m := by
  intro st mem
  obtain ⟨i, listed, ahead⟩ := mem_pending_iff.mp mem
  exact mem_pending_iff.mpr ⟨i, listed, Nat.lt_of_le_of_lt le ahead⟩

theorem ActiveAt.mem_pending (active : ActiveAt stages m i st) : st ∈ pending stages m :=
  mem_pending_iff.mpr ⟨i, active.listed, active.unfinished⟩

theorem held_of_activeAt (active : ActiveAt stages m i st) : held stages m = st.target := by
  rw [held, pending_of_activeAt active]

theorem held_of_le (past : nanos stages ≤ m) : held stages m = 0 := by
  rw [held, pending_of_le past]

theorem held_early (rest : List Stage) (early : m < st.duration.nanos) :
    held (st :: rest) m = st.target := by
  rw [held, pending_early rest early]

theorem held_late (rest : List Stage) (late : st.duration.nanos ≤ m) :
    held (st :: rest) m = held rest (m - st.duration.nanos) := by
  rw [held, held, pending_late rest late]

/-- The stages from a place on. -/
def remaining : Option Active → List Stage
  | none => []
  | some a => a.stage :: a.later

/-- Looking for a time, one comes to the stages that are not over. -/
theorem remaining_of_locateFrom (located : locateFrom start before t stages = .ok place)
    (begun : start.nanos ≤ t.nanos) :
    remaining place = pending stages (t.nanos - start.nanos) := by
  -- The start moves along the stages as the time left does in `pending`.
  induction stages generalizing start before with
  | nil =>
    cases located
    rfl
  | cons st rest ih =>
    unfold locateFrom at located
    obtain ⟨stop, ends, located⟩ := bind_eq_ok.mp located
    have stop_eq : stop.nanos = start.nanos + st.duration.nanos := Duration.ofNanos_eq_ok ends
    split at located
    · cases located
      rw [pending_early rest (by omega)]
      rfl
    · rw [ih located (by omega), pending_late rest (by omega)]
      congr 1
      omega

theorem remaining_of_locate (located : s.locate t = .ok place) :
    remaining place = pending s.stages t.nanos :=
  remaining_of_locateFrom located (Nat.zero_le _)

/-- A stepped schedule holds the target of its active stage. -/
theorem target_eq_held (stepped : s.ramp = .step) (fits : nanos s.stages < Duration.limit)
    (t : Duration) : s.target t = .ok (held s.stages t.nanos) := by
  obtain ⟨place, located⟩ := s.locate_ok (t := t) fits
  unfold target held
  rw [located, ok_bind, ← remaining_of_locate located, stepped]
  cases place with
  | none => rfl
  | some a => rfl

/-- Under either ramp a complete schedule has nothing ahead. -/
theorem idle_of_isComplete (complete : s.isComplete t = .ok true) :
    ∀ st ∈ pending s.stages t.nanos, st.target = 0 := by
  obtain ⟨place, located, idle⟩ := locate_of_isComplete complete
  rw [← remaining_of_locate located]
  cases place with
  | none =>
    intro st mem
    cases mem
  | some a => exact (idle a rfl).2

/-- Without slopes, it is complete as soon as it has nothing ahead. -/
theorem isComplete_of_idle (stepped : s.ramp = .step) (fits : nanos s.stages < Duration.limit)
    (idle : ∀ st ∈ pending s.stages t.nanos, st.target = 0) : s.isComplete t = .ok true := by
  obtain ⟨place, located⟩ := s.locate_ok (t := t) fits
  rw [← remaining_of_locate located] at idle
  unfold isComplete
  rw [located, ok_bind, stepped]
  cases place with
  | none => rfl
  | some a =>
    have none_ahead : (a.stage :: a.later).all (·.target = 0) = true := by
      rw [List.all_eq_true]
      intro st mem
      exact decide_eq_true (idle st mem)
    have now : a.target .step t = 0 := idle a.stage List.mem_cons_self
    show Except.ok (a.target .step t = 0 && (a.stage :: a.later).all (·.target = 0)) = .ok true
    rw [none_ahead, now]
    rfl

/-- Ways to tell a course with one more stage: one without length may stand anywhere, and a stage
may be told as two of its target. -/
inductive Finer : List Stage → List Stage → Prop
  | idle (before after : List Stage) (st : Stage) (still : st.duration.nanos = 0) :
    Finer (before ++ after) (before ++ st :: after)
  | parts (before after : List Stage) (whole first second : Stage)
    (length : whole.duration.nanos = first.duration.nanos + second.duration.nanos)
    (first_target : first.target = whole.target) (second_target : second.target = whole.target) :
    Finer (before ++ whole :: after) (before ++ first :: second :: after)

/-- Lists of stages that come from one another by such steps, to and fro. -/
def SameCourse : List Stage → List Stage → Prop := Relation.EqvGen Finer

theorem held_append_congr (front : List Stage) (same : ∀ m, held stages m = held stages' m)
    (m : Nat) :
    held (front ++ stages) m = held (front ++ stages') m := by
  induction front generalizing m with
  | nil => exact same m
  | cons st front ih =>
    by_cases early : m < st.duration.nanos
    · rw [List.cons_append, List.cons_append, held_early _ early, held_early _ early]
    · have late := Nat.le_of_not_lt early
      rw [List.cons_append, List.cons_append, held_late _ late, held_late _ late, ih]

theorem held_idle (rest : List Stage) (still : st.duration.nanos = 0) (m : Nat) :
    held rest m = held (st :: rest) m := by
  rw [held_late rest (by omega), still, Nat.sub_zero]

theorem held_parts {whole first second : Stage} (rest : List Stage)
    (length : whole.duration.nanos = first.duration.nanos + second.duration.nanos)
    (first_target : first.target = whole.target) (second_target : second.target = whole.target)
    (m : Nat) : held (whole :: rest) m = held (first :: second :: rest) m := by
  by_cases early : m < first.duration.nanos
  · rw [held_early rest (by omega), held_early _ early, first_target]
  · rw [held_late _ (Nat.le_of_not_lt early)]
    by_cases between : m - first.duration.nanos < second.duration.nanos
    · rw [held_early rest (by omega), held_early rest between, second_target]
    · rw [held_late rest (by omega), held_late rest (by omega), length, Nat.sub_sub]

theorem nanos_append (front stages : List Stage) :
    nanos (front ++ stages) = nanos front + nanos stages := by
  induction front with
  | nil => exact (Nat.zero_add _).symm
  | cons st front ih =>
    rw [List.cons_append, nanos_cons, nanos_cons, ih, Nat.add_assoc]

theorem Finer.nanos_eq (finer : Finer stages stages') : nanos stages = nanos stages' := by
  cases finer with
  | idle before after st still =>
    rw [nanos_append, nanos_append, nanos_cons, still, Nat.zero_add]
  | parts before after whole first second length =>
    rw [nanos_append, nanos_append, nanos_cons, nanos_cons, nanos_cons, length, Nat.add_assoc]

theorem Finer.held_eq (finer : Finer stages stages') (m : Nat) :
    held stages m = held stages' m := by
  cases finer with
  | idle before after st still => exact held_append_congr before (held_idle after still) m
  | parts before after whole first second length first_target second_target =>
    exact held_append_congr before (held_parts after length first_target second_target) m

/-- What one more stage does not change is the same for all lists of one course. -/
theorem SameCourse.invariant {α : Type} (v : List Stage → α)
    (kept : ∀ stages stages', Finer stages stages' → v stages = v stages')
    (same : SameCourse stages stages') : v stages = v stages' := by
  induction same with
  | rel _ _ finer => exact kept _ _ finer
  | refl _ => rfl
  | symm _ _ _ ih => exact ih.symm
  | trans _ _ _ _ _ ih ih' => exact ih.trans ih'

theorem SameCourse.nanos_eq (same : SameCourse stages stages') : nanos stages = nanos stages' :=
  same.invariant nanos fun _ _ finer => finer.nanos_eq

theorem SameCourse.held_eq (same : SameCourse stages stages') (m : Nat) :
    held stages m = held stages' m :=
  same.invariant (fun stages => held stages m) fun _ _ finer => finer.held_eq m

/-- A stepped schedule asks for the target of the one stage that is active, for nobody once all are
over, and never for more than its peak. Stages without length may come and go and stages may be told
in parts. Whatever its ramp, a schedule that is complete has come to its last target: each stage
that is active then or later asks for nobody, and without slopes it stays complete. -/
theorem stepped_course (s : Schedule) (fits : nanos s.stages < Duration.limit) :
    (s.ramp = .step → ∀ t : Duration,
      (t.nanos < nanos s.stages → ∃ i st, ActiveAt s.stages t.nanos i st ∧
        s.target t = .ok st.target ∧ ∀ j st', ActiveAt s.stages t.nanos j st' → j = i) ∧
      (nanos s.stages ≤ t.nanos → s.target t = .ok 0) ∧
      (∃ n, s.target t = .ok n ∧ n ≤ s.peak) ∧
      ∀ stages, SameCourse s.stages stages → Schedule.target ⟨stages, s.ramp⟩ t = s.target t) ∧
    ∀ t later : Duration, s.isComplete t = .ok true → t.nanos ≤ later.nanos →
      (∀ i st, ActiveAt s.stages later.nanos i st → st.target = 0) ∧
      (s.ramp = .step → s.isComplete later = .ok true ∧ s.target later = .ok 0) := by
  constructor
  · intro stepped t
    have looked := target_eq_held stepped fits t
    refine ⟨?_, ?_, ⟨_, looked, target_le_peak stepped looked⟩, ?_⟩
    · intro within
      obtain ⟨i, st, active⟩ := exists_activeAt within
      refine ⟨i, st, active, ?_, ?_⟩
      · rw [looked, held_of_activeAt active]
      · intro j st' active'
        exact active'.index_eq active
    · intro past
      rw [looked, held_of_le past]
    · intro stages same
      have fits' : nanos stages < Duration.limit := same.nanos_eq ▸ fits
      rw [looked, same.held_eq]
      exact target_eq_held (s := ⟨stages, s.ramp⟩) stepped fits' t
  · intro t later complete le
    have idle : ∀ st ∈ pending s.stages later.nanos, st.target = 0 := by
      intro st mem
      exact idle_of_isComplete complete st (pending_subset le mem)
    refine ⟨fun i st active => idle st active.mem_pending, ?_⟩
    intro stepped
    have still := isComplete_of_idle stepped fits idle
    exact ⟨still, target_of_isComplete still⟩

/-- Five seconds of 50, twenty of 200, then ten of nobody. A stage of 500 without length stands
before the second of them. -/
def burst : Schedule where
  stages := [⟨.ofSeconds 5, 50⟩, ⟨.zero, 500⟩, ⟨.ofSeconds 20, 200⟩, ⟨.ofSeconds 10, 0⟩]
  ramp := .step

/-- At the end of the first stage the second begins, as it does without the stage between them; with
the third the schedule is complete and stays so. -/
theorem stepped_course_of_burst : nanos burst.stages < Duration.limit ∧
    (∃ i st, ActiveAt burst.stages 5000000000 i st ∧ burst.target (.ofSeconds 5) = .ok st.target) ∧
    Schedule.target ⟨[⟨.ofSeconds 5, 50⟩, ⟨.ofSeconds 20, 200⟩, ⟨.ofSeconds 10, 0⟩], .step⟩
      (.ofSeconds 5) = burst.target (.ofSeconds 5) ∧
    burst.isComplete (.ofSeconds 25) = .ok true ∧ burst.isComplete (.ofSeconds 30) = .ok true := by
  have fits : nanos burst.stages < Duration.limit := by decide
  have complete : burst.isComplete (.ofSeconds 25) = .ok true := by decide
  obtain ⟨course, rest⟩ := stepped_course burst fits
  obtain ⟨within, -, -, retold⟩ := course rfl (.ofSeconds 5)
  obtain ⟨i, st, active, asked, -⟩ := within (by decide)
  have same : SameCourse burst.stages
      [⟨.ofSeconds 5, 50⟩, ⟨.ofSeconds 20, 200⟩, ⟨.ofSeconds 10, 0⟩] :=
    .symm _ _ (.rel _ _ (.idle [⟨.ofSeconds 5, 50⟩] [⟨.ofSeconds 20, 200⟩, ⟨.ofSeconds 10, 0⟩]
      ⟨.zero, 500⟩ rfl))
  have later := (rest (.ofSeconds 25) (.ofSeconds 30) complete (by decide)).2 rfl
  exact ⟨fits, ⟨i, st, active, asked⟩, retold _ same, complete, later.1⟩

end Schedule
end PrecheckLoad
