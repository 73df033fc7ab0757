import PrecheckLoad.Proofs.Json.Texts

/-!
# Written values are read back

A value without floats, whose integers are naturals of 64 bits, comes back from its text, indented
or compact, as the tree over it. Floats are left out because they are read fast rather than exactly.
-/
namespace PrecheckLoad.Json

open Text Decimal

/-- Values whose text says all about them. -/
inductive Exact : Json → Prop
  | null : Exact .null
  | bool (b : Bool) : Exact (.bool b)
  | nat {n : Nat} (fits : n < 2 ^ 64) : Exact (.nat n)
  | string (s : String) : Exact (.string s)
  | array {items : List Json} (exact : ∀ v ∈ items, Exact v) : Exact (.array items)
  | object {fields : List (String × Json)} (exact : ∀ f ∈ fields, Exact f.2) :
    Exact (.object fields)

theorem ofItems_eq_map (items : List Json) : Node.ofItems items = items.map Node.of := by
  induction items with
  | nil => rfl
  | cons v rest ih => rw [Node.ofItems, ih, List.map_cons]

/-- The node over a field. -/
def Node.ofField (f : String × Json) : Node × Node := (.string f.1, .of f.2)

theorem ofFields_eq_map (fields : List (String × Json)) :
    Node.ofFields fields = fields.map Node.ofField := by
  induction fields with
  | nil => rfl
  | cons f rest ih =>
    obtain ⟨k, v⟩ := f
    rw [Node.ofFields, ih, List.map_cons, Node.ofField]

theorem intChars_nat (n : Nat) : intChars n = digitChars n := by
  have sign : ¬ (n : Int) < 0 := by omega
  rw [intChars, signChars, decide_eq_false sign]
  rfl

theorem prettyItems_eq (depth : Nat) (items : List Json) : prettyItems depth items =
    commaed (items.map fun v => newLine depth ++ prettyChars depth v) :=
  eq_commaed rfl (fun _ => rfl) (fun _ _ _ => rfl) items

def prettyField (depth : Nat) (f : String × Json) : List Char :=
  newLine depth ++ (stringChars f.1 ++ ':' :: ' ' :: prettyChars depth f.2)

theorem prettyFields_eq (depth : Nat) (fields : List (String × Json)) :
    prettyFields depth fields = commaed (fields.map (prettyField depth)) := by
  refine eq_commaed rfl (fun f => ?_) (fun f g rest => ?_) fields
  · rw [prettyFields, List.append_assoc, prettyField]
  · simp [prettyFields, prettyField]

/-- The indented text of a value is read back, at any depth. -/
theorem reads_prettyChars {v : Json} (exact : Exact v) (depth : Nat) :
    Reads (.of v) (prettyChars depth v) := by
  induction exact generalizing depth with
  | null => exact .null
  | bool b => cases b <;> exact .bool _
  | nat fits =>
    have read := Reads.nat fits
    rw [← intChars_nat] at read
    exact read
  | string s => exact .string s
  | @array items exact ih =>
    have reads : List.Forall₂ Reads (Node.ofItems items)
        (items.map fun v => newLine (depth + 1) ++ prettyChars (depth + 1) v) := by
      rw [ofItems_eq_map, List.forall₂_map_left_iff, List.forall₂_map_right_iff, List.forall₂_same]
      exact fun v hv => (ih v hv (depth + 1)).blanks_append (blanks_newLine (depth + 1))
    cases items with
    | nil => exact Reads.array reads .nil
    | cons v rest =>
      have read := Reads.array reads (blanks_newLine depth)
      rw [← prettyItems_eq] at read
      rw [prettyChars, List.append_assoc]
      · exact read
      · simp
  | @object fields exact ih =>
    have reads : List.Forall₂ ReadsField (Node.ofFields fields)
        (fields.map (prettyField (depth + 1))) := by
      rw [ofFields_eq_map, List.forall₂_map_left_iff, List.forall₂_map_right_iff, List.forall₂_same]
      intro f hf
      have one : Blanks [' '] := fun c hc => by
        rw [List.mem_singleton.mp hc]
        decide
      exact ⟨_, f.1, _, blanks_newLine (depth + 1), rfl, rfl,
        (ih f hf (depth + 1)).blanks_append one⟩
    cases fields with
    | nil => exact Reads.object reads .nil
    | cons f rest =>
      have read := Reads.object reads (blanks_newLine depth)
      rw [← prettyFields_eq] at read
      rw [prettyChars, List.append_assoc]
      · exact read
      · simp

theorem compactItems_eq (items : List Json) :
    compactItems items = commaed (items.map compactChars) :=
  eq_commaed rfl (fun _ => rfl) (fun _ _ _ => rfl) items

def compactField (f : String × Json) : List Char :=
  stringChars f.1 ++ ':' :: compactChars f.2

theorem compactFields_eq (fields : List (String × Json)) :
    compactFields fields = commaed (fields.map compactField) := by
  refine eq_commaed rfl (fun f => rfl) (fun f g rest => ?_) fields
  simp [compactFields]

/-- The compact text of a value is read back. -/
theorem reads_compactChars {v : Json} (exact : Exact v) : Reads (.of v) (compactChars v) := by
  induction exact with
  | null => exact .null
  | bool b => cases b <;> exact .bool _
  | nat fits =>
    have read := Reads.nat fits
    rw [← intChars_nat] at read
    exact read
  | string s => exact .string s
  | @array items exact ih =>
    have reads : List.Forall₂ Reads (Node.ofItems items) (items.map compactChars) := by
      rw [ofItems_eq_map, List.forall₂_map_left_iff, List.forall₂_map_right_iff, List.forall₂_same]
      exact ih
    have read := Reads.array reads .nil
    rw [← compactItems_eq] at read
    exact read
  | @object fields exact ih =>
    have reads : List.Forall₂ ReadsField (Node.ofFields fields) (fields.map compactField) := by
      rw [ofFields_eq_map, List.forall₂_map_left_iff, List.forall₂_map_right_iff, List.forall₂_same]
      intro f hf
      exact ⟨[], f.1, _, .nil, rfl, rfl, ih f hf⟩
    have read := Reads.object reads .nil
    rw [← compactFields_eq] at read
    exact read

theorem document_of_reads {v : Json} {text : List Char} (reads : Reads (.of v) text) :
    Document.ofChars text = ⟨.of v, false⟩ := by
  have room : text.length ≤ 4 * text.length + 4 := by omega
  have read := reads _ [] room .nil
  rw [List.append_nil] at read
  rw [Document.ofChars, read]
  rfl

/-- The indented text of a value is a document of which nothing but the value is read. -/
theorem document_pretty {v : Json} (exact : Exact v) : Document.of v.pretty = ⟨.of v, false⟩ := by
  rw [Document.of, pretty, String.toList_ofList]
  exact document_of_reads (reads_prettyChars exact 0)

/-- And so is its compact text. -/
theorem document_compact {v : Json} (exact : Exact v) :
    Document.of v.compact = ⟨.of v, false⟩ := by
  rw [Document.of, compact, String.toList_ofList]
  exact document_of_reads (reads_compactChars exact)

end PrecheckLoad.Json
