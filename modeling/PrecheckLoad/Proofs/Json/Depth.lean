import PrecheckLoad.Json.Choice
import PrecheckLoad.Proofs.Fallible

/-!
# What reading can bring out

Each bracket that a decoder opens costs a level, so what stands inside is read with one level less.
A property of records that every field keeps under this is one of whatever is read.
-/
namespace PrecheckLoad.Json

variable {α δ κ : Type} {s : Scope}

theorem Scope.levels_of_enter {inner : Scope} (h : s.enter = .ok inner) :
    inner.levels + 1 = s.levels := by
  obtain ⟨levels, collected⟩ := s
  cases levels with
  | zero => cases h
  | succ n =>
    cases h
    rfl

theorem Node.refuse_ne_ok {v : Node} {expected : String} {x : α} : v.refuse expected ≠ .ok x := by
  intro read
  obtain ⟨found, -, read⟩ := bind_eq_ok.mp read
  cases read

/-- The elements of a list are read inside its brackets. -/
theorem list_eq_ok {dec : Decoder α} {v : Node} {xs : List α}
    (read : Decode.list dec s v = .ok xs) :
    ∃ inner : Scope, inner.levels + 1 = s.levels ∧ ∀ x ∈ xs, ∃ item, dec inner item = .ok x := by
  unfold Decode.list at read
  split at read
  · obtain ⟨inner, entered, read⟩ := bind_eq_ok.mp read
    obtain ⟨ys, elements, read⟩ := bind_eq_ok.mp read
    obtain ⟨_, -, read⟩ := bind_eq_ok.mp read
    cases read
    refine ⟨inner, Scope.levels_of_enter entered, fun x mem => ?_⟩
    obtain ⟨item, -, found⟩ := mem_of_mapM_eq_ok elements mem
    exact ⟨item, found⟩
  · exact absurd read Node.refuse_ne_ok

/-- What comes with a choice stands inside a bracket. -/
theorem choose_content {ns : Names κ} {v content : Node} {c : Choice κ}
    (fresh : s.collected = false) (chosen : v.choose ns s = .ok c)
    (given : c.held = .ok content) : c.scope.levels + 1 = s.levels := by
  unfold Node.choose at chosen
  simp only [fresh, Bool.false_eq_true, if_false] at chosen
  split at chosen
  · obtain ⟨kind, -, chosen⟩ := bind_eq_ok.mp chosen
    cases chosen
    cases given
  · obtain ⟨inner, entered, chosen⟩ := bind_eq_ok.mp chosen
    split at chosen
    · cases chosen
    · obtain ⟨kind, -, chosen⟩ := bind_eq_ok.mp chosen
      cases chosen
      exact Scope.levels_of_enter entered
  · split at chosen <;> cases chosen

/-- Storing a value that stands inside a bracket keeps a property of the record. -/
def Field.Keeps (P : δ → Prop) (s : Scope) (f : Field δ) : Prop :=
  ∀ inner : Scope, inner.levels + 1 = s.levels → ∀ v d d',
    P d → f.store inner v d = .ok d' → P d'

namespace Field.Keeps

variable {P : δ → Prop} {need : Need} {name : String} {dec : Decoder α} {put : α → δ → δ}

theorem of (h : ∀ inner : Scope, inner.levels + 1 = s.levels → ∀ v x, dec inner v = .ok x →
    ∀ d, P d → P (put x d)) : (Field.of need name dec put).Keeps P s := by
  intro inner level v d d' kept stored
  obtain ⟨x, read, stored⟩ := bind_eq_ok.mp stored
  cases stored
  exact h inner level v x read d kept

theorem frame (h : ∀ x d, P d → P (put x d)) : (Field.of need name dec put).Keeps P s :=
  of fun _ _ _ x _ d => h x d

end Field.Keeps

section Records

variable {P : δ → Prop} {r : Record δ} {inner : Scope} {d x : δ}

theorem Record.readFields_keeps (kept : ∀ f ∈ r.fields, f.Keeps P s)
    (level : inner.levels + 1 = s.levels) {fields : List (Node × Node)}
    {given given' : List String} (start : P d)
    (read : r.readFields inner fields given d = .ok (given', x)) : P x := by
  induction fields generalizing given d with
  | nil =>
    cases read
    exact start
  | cons f rest ih =>
    obtain ⟨k, v⟩ := f
    rw [readFields] at read
    obtain ⟨name, -, read⟩ := bind_eq_ok.mp read
    cases found : r.field? name with
    | none =>
      simp only [found] at read
      obtain ⟨_, -, read⟩ := bind_eq_ok.mp read
      exact ih start read
    | some f =>
      simp only [found] at read
      split at read
      · cases read
      obtain ⟨d', stored, read⟩ := bind_eq_ok.mp read
      exact ih (kept f (List.mem_of_find?_eq_some found) inner level v d d' start stored) read

theorem Record.readItems_keeps (level : inner.levels + 1 = s.levels) {stop : Option TextFault}
    {n : Nat} {fs : List (Field δ)} (kept : ∀ f ∈ fs, f.Keeps P s) {items : List Node}
    (start : P d) (read : r.readItems inner stop n fs items d = .ok x) : P x := by
  induction fs generalizing n items d with
  | nil =>
    cases items with
    | nil =>
      rw [readItems] at read
      obtain ⟨_, -, read⟩ := bind_eq_ok.mp read
      cases read
      exact start
    | cons v rest =>
      unfold readItems at read
      split at read
      · cases read
      · cases read
  | cons f fs ih =>
    rw [List.forall_mem_cons] at kept
    cases items with
    | nil =>
      rw [readItems] at read
      obtain ⟨_, -, read⟩ := bind_eq_ok.mp read
      dsimp only at read
      split at read
      · cases read
      · exact ih kept.2 start read
    | cons v rest =>
      rw [readItems] at read
      obtain ⟨d', stored, read⟩ := bind_eq_ok.mp read
      exact ih kept.2 (kept.1 inner level v d d' start stored) read

theorem Record.read_keeps (kept : ∀ f ∈ r.fields, f.Keeps P s) (start : P r.start) {v : Node}
    (read : r.read s v = .ok x) : P x := by
  unfold Record.read at read
  split at read
  · obtain ⟨inner, entered, read⟩ := bind_eq_ok.mp read
    obtain ⟨⟨given, e⟩, fields, read⟩ := bind_eq_ok.mp read
    obtain ⟨_, -, read⟩ := bind_eq_ok.mp read
    cases lacking : r.lacking? given with
    | some f =>
      simp only [lacking] at read
      cases read
    | none =>
      simp only [lacking] at read
      cases read
      exact readFields_keeps kept (Scope.levels_of_enter entered) start fields
  · obtain ⟨inner, entered, read⟩ := bind_eq_ok.mp read
    exact readItems_keeps (Scope.levels_of_enter entered) kept start read
  · exact absurd read Node.refuse_ne_ok

end Records

end PrecheckLoad.Json
