import PrecheckLoad.Duration.Basic

/-!
# Computations that may fail

How a computation that ends well came to its result, step by step, and which times are durations.
-/
namespace PrecheckLoad

variable {ε ε' α β : Type}

@[simp] theorem throw_bind (e : ε) (f : α → Except ε β) :
    ((throw e : Except ε α) >>= f) = .error e := rfl

@[simp] theorem error_bind (e : ε) (f : α → Except ε β) :
    ((.error e : Except ε α) >>= f) = .error e := rfl

@[simp] theorem ok_bind (a : α) (f : α → Except ε β) :
    ((.ok a : Except ε α) >>= f) = f a := rfl

theorem pure_eq_ok (a : α) : (pure a : Except ε α) = .ok a := rfl

theorem bind_eq_ok {x : Except ε α} {f : α → Except ε β} {b : β} :
    (x >>= f) = .ok b ↔ ∃ a, x = .ok a ∧ f a = .ok b := by
  cases x with
  | error e => simp
  | ok a => simp

/-- What is made of a result does not fail. -/
theorem bind_pure_eq_error {x : Except ε α} {g : α → β} {e : ε} :
    (x >>= fun a => pure (g a)) = .error e ↔ x = .error e := by
  cases x with
  | error e' => rw [error_bind, Except.error.injEq, Except.error.injEq]
  | ok a =>
    constructor
    · intro failed
      cases failed
    · intro failed
      cases failed

theorem map_eq_ok {x : Except ε α} {f : α → β} {b : β} :
    f <$> x = .ok b ↔ ∃ a, x = .ok a ∧ f a = b := by
  cases x with
  | error e => simp [Functor.map, Except.map]
  | ok a => simp [Functor.map, Except.map]

/-- What part of a result was found to be, it is. -/
theorem exists_ok_of_toOption {x : Except ε α} {f : α → β} {b : β}
    (found : x.toOption.map f = some b) : ∃ a, x = .ok a ∧ f a = b := by
  cases x with
  | error e => cases found
  | ok a => exact ⟨a, rfl, Option.some.inj found⟩

/-- What a list was made into comes from its elements. -/
theorem mem_of_mapM_eq_ok {f : α → Except ε β} {items : List α} {xs : List β}
    (read : items.mapM f = .ok xs) {x : β} (mem : x ∈ xs) : ∃ v ∈ items, f v = .ok x := by
  induction items generalizing xs with
  | nil =>
    cases read
    cases mem
  | cons v rest ih =>
    rw [List.mapM_cons] at read
    obtain ⟨y, first, read⟩ := bind_eq_ok.mp read
    obtain ⟨ys, later, read⟩ := bind_eq_ok.mp read
    cases read
    rcases List.mem_cons.mp mem with rfl | mem
    · exact ⟨v, List.mem_cons_self, first⟩
    · obtain ⟨w, listed, found⟩ := ih later mem
      exact ⟨w, List.mem_cons_of_mem v listed, found⟩

/-- What is known of each result is known of their list. -/
theorem map_of_mapM_eq_ok {γ : Type} {f : α → Except ε β} {g : β → γ} {h : α → γ}
    (known : ∀ v x, f v = .ok x → g x = h v) {items : List α} {xs : List β}
    (read : items.mapM f = .ok xs) : xs.map g = items.map h := by
  induction items generalizing xs with
  | nil =>
    cases read
    rfl
  | cons v rest ih =>
    rw [List.mapM_cons] at read
    obtain ⟨y, first, read⟩ := bind_eq_ok.mp read
    obtain ⟨ys, later, read⟩ := bind_eq_ok.mp read
    cases read
    rw [List.map_cons, List.map_cons, known v y first, ih later]

theorem mapM_map_eq_ok {f : β → Except ε α} {g : α → β} {xs : List α}
    (h : ∀ x ∈ xs, f (g x) = .ok x) : (xs.map g).mapM f = .ok xs := by
  induction xs with
  | nil => rfl
  | cons x rest ih =>
    rw [List.forall_mem_cons] at h
    rw [List.map_cons, List.mapM_cons, h.1, ok_bind, ih h.2]
    rfl

theorem mapError_eq_ok {x : Except ε α} {g : ε → ε'} {a : α} :
    x.mapError g = .ok a ↔ x = .ok a := by
  cases x with
  | error e =>
    constructor
    · intro h
      cases h
    · intro h
      cases h
  | ok b =>
    constructor
    · intro h
      cases h
      rfl
    · intro h
      cases h
      rfl

namespace Duration

variable {n : Nat}

theorem eq_of_nanos {a b : Duration} (same : a.nanos = b.nanos) : a = b := by
  cases a
  cases b
  cases same
  rfl

theorem ofNanos_of_lt (lt : n < limit) : ofNanos n = .ok ⟨n, lt⟩ := by
  have some : ofNanos? n = some ⟨n, lt⟩ := dif_pos lt
  rw [ofNanos, some]

theorem ofNanos_of_le (le : limit ≤ n) : ofNanos n = .error {} := by
  have none : ofNanos? n = none := dif_neg (Nat.not_lt_of_le le)
  rw [ofNanos, none]

theorem ofNanos_eq_ok {d : Duration} (h : ofNanos n = .ok d) : d.nanos = n := by
  by_cases lt : n < limit
  · rw [ofNanos_of_lt lt] at h
    cases h
    rfl
  · rw [ofNanos_of_le (Nat.le_of_not_lt lt)] at h
    cases h

end Duration

end PrecheckLoad
