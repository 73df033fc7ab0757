import Mathlib.Data.List.Induction
import Mathlib.Data.List.Nodup
import Mathlib.Logic.Function.Basic
import PrecheckLoad.Verdict

/-!
# Entries by key

Entries are kept in the order of their keys, one for each key. Of those put under one key the last
is kept, and no other entry is touched.
-/
namespace PrecheckLoad

variable {κ ν : Type} [DecidableEq κ] [LT κ] [DecidableLT κ]

theorem mem_putEntry_cases {k : κ} {v : ν} {es : List (κ × ν)} {e : κ × ν}
    (h : e ∈ putEntry k v es) : e = (k, v) ∨ e ∈ es := by
  induction es with
  | nil => exact Or.inl (by simpa [putEntry] using h)
  | cons x rest ih =>
    rw [putEntry] at h
    split at h
    · exact (List.mem_cons.mp h).imp_right (List.mem_cons_of_mem x)
    split at h
    · exact List.mem_cons.mp h
    · rcases List.mem_cons.mp h with rfl | h
      · exact Or.inr List.mem_cons_self
      · exact (ih h).imp_right (List.mem_cons_of_mem x)

theorem entriesOf_append (xs : List (κ × ν)) (x : κ × ν) :
    entriesOf (xs ++ [x]) = putEntry x.1 x.2 (entriesOf xs) := by
  simp [entriesOf]

theorem putEntry_perm {k : κ} {v : ν} {es : List (κ × ν)} (new : k ∉ es.map Prod.fst) :
    (putEntry k v es).Perm ((k, v) :: es) := by
  induction es with
  | nil => exact List.Perm.refl _
  | cons e es ih =>
    obtain ⟨k', v'⟩ := e
    rw [List.map_cons, List.mem_cons, not_or] at new
    rw [putEntry, if_neg new.1]
    split
    · exact List.Perm.refl _
    · exact ((ih new.2).cons _).trans (List.Perm.swap _ _ _)

/-- Entries whose keys differ are all kept. -/
theorem entriesOf_perm {xs : List (κ × ν)} (distinct : (xs.map Prod.fst).Nodup) :
    (entriesOf xs).Perm xs := by
  induction xs using List.reverseRecOn with
  | nil => exact List.Perm.refl _
  | append_singleton xs x ih =>
    rw [List.map_append, List.map_singleton, ← List.concat_eq_append, List.nodup_concat] at distinct
    have kept := ih distinct.2
    have new : x.1 ∉ (entriesOf xs).map Prod.fst := by
      rw [(kept.map Prod.fst).mem_iff]
      exact distinct.1
    rw [entriesOf_append]
    exact (putEntry_perm new).trans ((kept.cons x).trans (List.perm_append_singleton x xs).symm)

/-- Each key stands before all later ones. -/
def Ascending (es : List (κ × ν)) : Prop := es.Pairwise fun a b => a.1 < b.1

variable [LE κ] [Std.LawfulOrderLT κ] [Std.IsLinearOrder κ]

theorem ascending_putEntry (k : κ) (v : ν) {es : List (κ × ν)} (h : Ascending es) :
    Ascending (putEntry k v es) := by
  induction es with
  | nil => simp [putEntry, Ascending]
  | cons x rest ih =>
    obtain ⟨hx, hrest⟩ := List.pairwise_cons.mp h
    rw [putEntry]
    split
    · next hk =>
      subst hk
      exact List.pairwise_cons.mpr ⟨hx, hrest⟩
    split
    · next hlt =>
      refine List.pairwise_cons.mpr ⟨fun y hy => ?_, h⟩
      rcases List.mem_cons.mp hy with rfl | hy
      · exact hlt
      · exact Std.lt_trans hlt (hx y hy)
    · next hne hlt =>
      refine List.pairwise_cons.mpr ⟨fun y hy => ?_, ih hrest⟩
      rcases mem_putEntry_cases hy with rfl | hy
      · exact Std.lt_of_le_of_ne (Std.not_lt.mp hlt) (Ne.symm hne)
      · exact hx y hy

theorem mem_putEntry {k : κ} {v : ν} {es : List (κ × ν)} (h : Ascending es) {e : κ × ν} :
    e ∈ putEntry k v es ↔ e = (k, v) ∨ e.1 ≠ k ∧ e ∈ es := by
  induction es with
  | nil => simp [putEntry]
  | cons x rest ih =>
    obtain ⟨hx, hrest⟩ := List.pairwise_cons.mp h
    have apart : ∀ y ∈ rest, y.1 ≠ x.1 := fun y hy same => by
      have := hx y hy
      rw [same] at this
      exact Std.lt_irrefl this
    rw [putEntry]
    split
    · next hk =>
      subst hk
      have other : e ∈ rest → e.1 ≠ x.1 := apart e
      simp only [List.mem_cons]
      grind
    split
    · next hne hlt =>
      have other : e ∈ rest → e.1 ≠ k := fun he same => by
        have := Std.lt_trans hlt (hx e he)
        rw [same] at this
        exact Std.lt_irrefl this
      simp only [List.mem_cons]
      grind
    · next hne hlt =>
      simp only [List.mem_cons, ih hrest]
      grind

theorem ascending_entriesOf (xs : List (κ × ν)) : Ascending (entriesOf xs) := by
  induction xs using List.reverseRecOn with
  | nil => exact List.Pairwise.nil
  | append_singleton xs x ih =>
    rw [entriesOf_append]
    exact ascending_putEntry x.1 x.2 ih

/-- The entries are those that no later one of the same key replaces. -/
theorem mem_entriesOf {xs : List (κ × ν)} {e : κ × ν} :
    e ∈ entriesOf xs ↔ ∃ before after, xs = before ++ e :: after ∧ ∀ x ∈ after, x.1 ≠ e.1 := by
  induction xs using List.reverseRecOn with
  | nil => simp [entriesOf]
  | append_singleton xs x ih =>
    rw [entriesOf_append, mem_putEntry (ascending_entriesOf xs)]
    constructor
    · rintro (rfl | ⟨hne, he⟩)
      · exact ⟨xs, [], rfl, by simp⟩
      · obtain ⟨before, after, rfl, last⟩ := ih.mp he
        refine ⟨before, after ++ [x], by simp, fun y hy => ?_⟩
        rcases List.mem_append.mp hy with hy | hy
        · exact last y hy
        · rw [List.mem_singleton.mp hy]
          exact Ne.symm hne
    · rintro ⟨before, after, hxs, last⟩
      rcases List.eq_nil_or_concat after with rfl | ⟨front, y, rfl⟩
      · obtain ⟨-, hx⟩ := List.append_inj' hxs rfl
        exact Or.inl (List.cons.inj hx).1.symm
      · rw [List.concat_eq_append, ← List.cons_append, ← List.append_assoc] at hxs
        obtain ⟨kept, hx⟩ := List.append_inj' hxs rfl
        obtain rfl := (List.cons.inj hx).1
        refine Or.inr ⟨?_, ih.mpr ⟨before, front, kept, fun z hz => last z (by simp [hz])⟩⟩
        exact Ne.symm (last x (by simp))

section Ascending

variable {es es' : List (κ × ν)} {k : κ}

omit [DecidableEq κ] [DecidableLT κ] [Std.IsLinearOrder κ] in
theorem Ascending.keys_nodup (h : Ascending es) : (es.map Prod.fst).Nodup := by
  refine List.pairwise_map.mpr (List.Pairwise.imp (fun {a b} below same => ?_) h)
  rw [same] at below
  exact Std.lt_irrefl below

omit [DecidableEq κ] [DecidableLT κ] in
/-- Ascending entries are told apart by their members. -/
theorem Ascending.ext (h : Ascending es) (h' : Ascending es') (same : ∀ e, e ∈ es ↔ e ∈ es') :
    es = es' := by
  have perm : es.Perm es' :=
    (List.perm_ext_iff_of_nodup h.keys_nodup.of_map h'.keys_nodup.of_map).mpr same
  refine perm.eq_of_pairwise (fun a b _ _ below above => ?_) h h'
  exact absurd (Std.lt_trans below above) Std.lt_irrefl

omit [DecidableLT κ] [Std.IsLinearOrder κ] in
theorem Ascending.lookup_eq_some_iff (h : Ascending es) {v : ν} :
    es.lookup k = some v ↔ (k, v) ∈ es := by
  induction es with
  | nil => simp
  | cons e rest ih =>
    obtain ⟨k', v'⟩ := e
    obtain ⟨least, ascending⟩ := List.pairwise_cons.mp h
    by_cases here : k = k'
    · subst here
      have later : (k, v) ∉ rest := fun mem => Std.lt_irrefl (least (k, v) mem)
      simp only [List.lookup_cons_self, List.mem_cons, Prod.mk.injEq, true_and, later, or_false,
        Option.some.injEq]
      exact eq_comm
    · have skipped : (k == k') = false := beq_eq_false_iff_ne.mpr here
      simp only [List.lookup_cons, skipped, List.mem_cons, Prod.mk.injEq, here, false_and,
        false_or]
      exact ih ascending

/-- Entries that are in order already are left as they are. -/
theorem Ascending.entriesOf_eq (h : Ascending es) : entriesOf es = es := by
  have kept := entriesOf_perm h.keys_nodup
  exact (ascending_entriesOf es).ext h fun e => kept.mem_iff

/-- Entries in order, with what is kept under each key. -/
structure Tells (es : List (κ × ν)) (f : κ → Option ν) : Prop where
  ascending : Ascending es
  mem_iff : ∀ k v, (k, v) ∈ es ↔ f k = some v

namespace Tells

variable {f : κ → Option ν}

omit [DecidableEq κ] [DecidableLT κ] [LE κ] [Std.LawfulOrderLT κ] [Std.IsLinearOrder κ] in
theorem nil : Tells ([] : List (κ × ν)) fun _ => none where
  ascending := List.Pairwise.nil
  mem_iff := fun k v => by simp

/-- An entry that is put changes what is kept under its key, and nothing else. -/
theorem put (h : Tells es f) (k : κ) (v : ν) :
    Tells (putEntry k v es) (Function.update f k (some v)) where
  ascending := ascending_putEntry k v h.ascending
  mem_iff := by
    intro k' v'
    rw [mem_putEntry h.ascending, h.mem_iff]
    by_cases here : k' = k
    · subst here
      simp [eq_comm]
    · simp [here]

omit [DecidableEq κ] [DecidableLT κ] in
/-- No other entries tell the same. -/
theorem iff_eq (h : Tells es f) : Tells es' f ↔ es' = es := by
  constructor
  · intro h'
    exact h'.ascending.ext h.ascending fun e => (h'.mem_iff _ _).trans (h.mem_iff _ _).symm
  · rintro rfl
    exact h

end Tells

end Ascending

end PrecheckLoad
