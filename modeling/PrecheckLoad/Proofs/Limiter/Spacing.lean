import PrecheckLoad.Pacing
import PrecheckLoad.Proofs.Fallible

/-!
# The spacing of requests behind a limiter

Each pass moves the time at which the next request is due by one interval at least, and without a
burst a request comes at most one interval ahead of that time. So the requests that pass are as far
from the first as their number says, however long the gaps between them.
-/
namespace PrecheckLoad.Limiter

/-- Lets requests pass at these times, one after the other, if none of them has to wait. -/
def passAll (l : Limiter) (times : List Nat) : Except Nat Limiter :=
  times.foldlM check l

/-- So many requests have passed, the first of them at a time, and none may come ahead of the
others. -/
structure Passed (first n : Nat) (l : Limiter) : Prop where
  tolerance : l.tolerance = max l.interval 1
  due : ∃ d, l.due = some d ∧ first + (n + 1) * l.interval ≤ d

variable {l l' : Limiter} {first n now rate : Nat} {times rest : List Nat}

theorem check_eq_ok : l.check now = .ok l' ↔ l.dueAt now - l.tolerance ≤ now ∧
    l' = { l with due := some (max (l.dueAt now) now + l.interval) } := by
  unfold check
  dsimp only
  split
  · next early =>
    constructor
    · intro h
      cases h
    · rintro ⟨late, -⟩
      omega
  · next late =>
    constructor
    · intro h
      cases h
      exact ⟨Nat.le_of_not_lt late, rfl⟩
    · rintro ⟨-, rfl⟩
      rfl

theorem passAll_append (earlier later : List Nat) :
    l.passAll (earlier ++ later) = l.passAll earlier >>= fun l => l.passAll later := by
  unfold passAll
  rw [List.foldlM_append]

theorem passAll_cons :
    l.passAll (now :: times) = l.check now >>= fun l => l.passAll times := by
  unfold passAll
  rw [List.foldlM_cons]

theorem passAll_singleton : l.passAll [now] = l.check now := by
  rw [passAll_cons]
  cases l.check now <;> rfl

/-- The first request passes whenever it comes. -/
theorem passed_first (h : (perSecond rate 1).check now = .ok l) :
    l.interval = 1000000000 / rate ∧ l.Passed now 1 := by
  obtain ⟨-, rfl⟩ := check_eq_ok.mp h
  refine ⟨rfl, Nat.mul_one _, _, rfl, ?_⟩
  show now + (1 + 1) * (1000000000 / rate) ≤
    max (now + 1000000000 / rate) now + 1000000000 / rate
  omega

theorem Passed.check (h : l.Passed first n) (passes : l.check now = .ok l')
    (order : first ≤ now) :
    first + n * l.interval ≤ now ∧ l'.interval = l.interval ∧ l'.Passed first (n + 1) := by
  obtain ⟨d, due, far⟩ := h.due
  have at_due : l.dueAt now = d := by rw [dueAt, due, Option.getD_some]
  obtain ⟨late, rfl⟩ := check_eq_ok.mp passes
  rw [at_due, h.tolerance] at late
  rw [Nat.succ_mul] at far
  refine ⟨?_, rfl, h.tolerance, _, rfl, ?_⟩
  · by_cases zero : l.interval = 0
    · rw [zero, Nat.mul_zero]
      exact order
    · omega
  · show first + (n + 1 + 1) * l.interval ≤ max (l.dueAt now) now + l.interval
    rw [at_due, Nat.succ_mul, Nat.succ_mul]
    omega

theorem Passed.passAll (h : l.Passed first n) (passes : l.passAll times = .ok l')
    (order : ∀ t ∈ times, first ≤ t) {j t : Nat} (place : times[j]? = some t) :
    first + (n + j) * l.interval ≤ t := by
  induction times generalizing l n j with
  | nil => cases place
  | cons now times ih =>
    rw [passAll_cons] at passes
    obtain ⟨next, passed, others⟩ := bind_eq_ok.mp passes
    obtain ⟨spaced, same, h'⟩ := h.check passed (order now List.mem_cons_self)
    cases j with
    | zero =>
      cases place
      exact spaced
    | succ j =>
      have later := ih h' others (fun t ht => order t (List.mem_cons_of_mem now ht)) place
      rw [same, Nat.add_assoc, Nat.add_comm 1 j] at later
      exact later

/-- The `j`th request after the first passes `j` intervals after it at the earliest. -/
theorem passAll_spacing (passes : (perSecond rate 1).passAll (first :: rest) = .ok l)
    (order : ∀ t ∈ rest, first ≤ t) {j t : Nat} (place : (first :: rest)[j]? = some t) :
    first + j * (1000000000 / rate) ≤ t := by
  rw [passAll_cons] at passes
  obtain ⟨next, passed, others⟩ := bind_eq_ok.mp passes
  obtain ⟨interval, h⟩ := passed_first passed
  cases j with
  | zero =>
    cases place
    omega
  | succ j =>
    have spaced := h.passAll others order place
    rw [interval, Nat.add_comm 1 j] at spaced
    exact spaced

/-- The same for ascending times in a unit of `c` nanoseconds. -/
theorem passAll_spacing_of_unit (c : Nat)
    (passes : (perSecond rate 1).passAll ((first :: rest).map (· * c)) = .ok l)
    (ascending : (first :: rest).Pairwise (· ≤ ·)) {j t : Nat}
    (place : (first :: rest)[j]? = some t) :
    first * c + j * (1000000000 / rate) ≤ t * c := by
  rw [List.map_cons] at passes
  apply passAll_spacing passes
  · intro time mem
    obtain ⟨t', later, rfl⟩ := List.mem_map.mp mem
    exact Nat.mul_le_mul_right c ((List.pairwise_cons.mp ascending).1 t' later)
  · rw [← List.map_cons (f := (· * c)), List.getElem?_map, place, Option.map_some]

end PrecheckLoad.Limiter
