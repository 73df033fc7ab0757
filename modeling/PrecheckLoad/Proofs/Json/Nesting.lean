import PrecheckLoad.Json.Decoder
import PrecheckLoad.Json.Value
import PrecheckLoad.Proofs.Fallible

/-!
# Nesting

How many brackets are open at a time in the text of a value. A value of any kind can be collected
from a tree over it if that many levels are left.
-/
namespace PrecheckLoad.Json

mutual

/-- The most brackets that are open at a time. -/
def nesting : Json → Nat
  | .array items => nestingItems items + 1
  | .object fields => nestingFields fields + 1
  | .null => 0
  | .bool _ => 0
  | .int _ => 0
  | .float _ => 0
  | .string _ => 0

def nestingItems : List Json → Nat
  | [] => 0
  | v :: rest => max (nesting v) (nestingItems rest)

def nestingFields : List (String × Json) → Nat
  | [] => 0
  | (_, v) :: rest => max (nesting v) (nestingFields rest)

end

variable {n : Nat}

theorem nestingItems_le_iff {items : List Json} :
    nestingItems items ≤ n ↔ ∀ v ∈ items, v.nesting ≤ n := by
  induction items with
  | nil => simp [nestingItems]
  | cons v rest ih => rw [nestingItems, Nat.max_le, ih, List.forall_mem_cons]

theorem nestingFields_le_iff {fields : List (String × Json)} :
    nestingFields fields ≤ n ↔ ∀ f ∈ fields, f.2.nesting ≤ n := by
  induction fields with
  | nil => simp [nestingFields]
  | cons f rest ih =>
    obtain ⟨k, v⟩ := f
    rw [nestingFields, Nat.max_le, ih, List.forall_mem_cons]

theorem nesting_array_le_iff {items : List Json} :
    (Json.array items).nesting ≤ n ↔ 0 < n ∧ ∀ v ∈ items, v.nesting ≤ n - 1 := by
  rw [nesting, ← nestingItems_le_iff]
  omega

theorem nesting_object_le_iff {fields : List (String × Json)} :
    (Json.object fields).nesting ≤ n ↔ 0 < n ∧ ∀ f ∈ fields, f.2.nesting ≤ n - 1 := by
  rw [nesting, ← nestingFields_le_iff]
  omega

theorem nesting_array_map_le {α : Type} {write : α → Json} {xs : List α}
    (h : ∀ x ∈ xs, (write x).nesting ≤ n) : (Json.array (xs.map write)).nesting ≤ n + 1 := by
  refine nesting_array_le_iff.mpr ⟨Nat.succ_pos n, fun v mem => ?_⟩
  obtain ⟨x, listed, rfl⟩ := List.mem_map.mp mem
  exact h x listed

theorem nesting_statuses_le (ss : List UInt16) : (Json.statuses ss).nesting ≤ 1 :=
  nesting_array_map_le fun _ _ => Nat.le_refl 0

theorem nesting_present_le {α : Type} {write : α → Json}
    (h : ∀ x, (write x).nesting ≤ n) (name : String) (o : Option α) :
    ∀ f ∈ Json.present name (o.map write), f.2.nesting ≤ n := by
  cases o with
  | none => exact List.forall_mem_nil _
  | some x => exact List.forall_mem_singleton.mpr (h x)

mutual

/-- A value is collected as it is. -/
theorem collect_of : ∀ (v : Json) (levels : Nat), v.nesting ≤ levels →
    Node.collect levels (.of v) = .ok v
  | .null, _, _ => rfl
  | .bool _, _, _ => rfl
  | .int _, _, _ => rfl
  | .float _, _, _ => rfl
  | .string _, _, _ => rfl
  | .array items, levels, le => by
    rw [nesting] at le
    have room : ¬ levels = 0 := by omega
    have collected := collectItems_of items (levels - 1) (by omega)
    rw [Node.of, Node.collect, if_neg room, collected]
    rfl
  | .object fields, levels, le => by
    rw [nesting] at le
    have room : ¬ levels = 0 := by omega
    have collected := collectFields_of fields (levels - 1) (by omega)
    rw [Node.of, Node.collect, if_neg room, collected]
    rfl

theorem collectItems_of : ∀ (items : List Json) (levels : Nat), nestingItems items ≤ levels →
    Node.collectItems levels (Node.ofItems items) = .ok items
  | [], _, _ => rfl
  | v :: rest, levels, le => by
    rw [nestingItems, Nat.max_le] at le
    rw [Node.ofItems, Node.collectItems, collect_of v levels le.1, ok_bind,
      collectItems_of rest levels le.2]
    rfl

theorem collectFields_of : ∀ (fields : List (String × Json)) (levels : Nat),
    nestingFields fields ≤ levels →
    Node.collectFields levels (Node.ofFields fields) = .ok fields
  | [], _, _ => rfl
  | (k, v) :: rest, levels, le => by
    rw [nestingFields, Nat.max_le] at le
    rw [Node.ofFields, Node.collectFields, Node.key, ok_bind, collect_of v levels le.1, ok_bind,
      collectFields_of rest levels le.2]
    rfl

end

end PrecheckLoad.Json
