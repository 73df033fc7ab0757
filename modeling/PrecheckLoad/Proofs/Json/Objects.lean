import PrecheckLoad.Proofs.Json.Decoding
import PrecheckLoad.Proofs.Verdict.Entries

/-!
# Objects with sorted keys

The fields of a canonical object are entries by key, so it is told by its members: each field that
no later one of the same key replaces, and no other. An object whose keys ascend is canonical as far
as its values are, and the text of any value is read as that value.
-/
namespace PrecheckLoad.Json

variable {fields : List (String × Json)} {v : Json}

theorem putField_eq_putEntry (k : String) (v : Json) (fields : List (String × Json)) :
    putField k v fields = putEntry k v fields := by
  induction fields with
  | nil => rfl
  | cons f rest ih =>
    obtain ⟨k', v'⟩ := f
    rw [putField, putEntry, ih]

theorem sortedObject_eq (fields : List (String × Json)) :
    sortedObject fields = .object (entriesOf fields) := by
  have step : (fun (acc : List (String × Json)) ((k, v) : String × Json) => putField k v acc) =
      fun acc (k, v) => putEntry k v acc := by
    funext acc ⟨k, v⟩
    exact putField_eq_putEntry k v acc
  rw [sortedObject, step, entriesOf]

theorem canonicalFields_eq_map (fields : List (String × Json)) :
    canonicalFields fields = fields.map fun f => (f.1, f.2.canonical) := by
  induction fields with
  | nil => rfl
  | cons f rest ih =>
    obtain ⟨k, v⟩ := f
    rw [canonicalFields, ih, List.map_cons]

theorem canonical_object (ascending : Ascending fields)
    (settled : ∀ f ∈ fields, f.2.canonical = f.2) :
    (object fields).canonical = .object fields := by
  have same : canonicalFields fields = fields := by
    rw [canonicalFields_eq_map]
    refine (List.map_congr_left fun f mem => ?_).trans (List.map_id fields)
    rw [settled f mem]
    rfl
  rw [canonical, same, sortedObject_eq, ascending.entriesOf_eq]

theorem field?_eq_lookup (fields : List (String × Json)) (k : String) :
    (object fields).field? k = fields.lookup k := by
  rw [field?]
  induction fields with
  | nil => rfl
  | cons f rest ih =>
    obtain ⟨k', v⟩ := f
    by_cases here : k' = k
    · subst here
      simp
    · have skipped : (k == k') = false := beq_eq_false_iff_ne.mpr (Ne.symm here)
      rw [List.find?_cons_of_neg (by simpa using here), List.lookup_cons, skipped]
      exact ih

/-- What a field is looked up as is what the fields tell. -/
theorem field?_of_tells {f : String → Option Json} (told : Tells fields f) (k : String) :
    (object fields).field? k = f k := by
  refine Option.ext fun v => ?_
  rw [field?_eq_lookup, told.ascending.lookup_eq_some_iff, told.mem_iff]

/-- Any value is read as it was written. -/
theorem recovers_any (exact : Exact v) : Recovers Decode.any v v :=
  ⟨exact, fun s room => collect_of v s.levels room⟩

end PrecheckLoad.Json
