import PrecheckLoad.Pattern.Build

/-!
# What goes into a draft

Names of headers compare without case. Setting a header changes what is found under its name and
under no other, and leaves every name with one header. A draw fails on an empty range only, and
lands between its bounds, however many tries it takes.
-/
namespace PrecheckLoad

theorem Text.sameName_self (a : String) : Text.sameName a a = true := by
  rw [sameName, beq_iff_eq]

theorem Text.sameName_comm (a b : String) : Text.sameName a b = Text.sameName b a := by
  rw [sameName, sameName, Bool.eq_iff_iff, beq_iff_eq, beq_iff_eq, eq_comm]

/-- Names that are the same are the same as any third. -/
theorem Text.sameName_congr {a b : String} (h : Text.sameName a b = true) (c : String) :
    Text.sameName a c = Text.sameName b c := by
  rw [sameName, beq_iff_eq] at h
  rw [sameName, sameName, h]

namespace Headers

variable {name other value : String}

theorem find?_cons (hs : Headers) (k v : String) : find? ((k, v) :: hs) name =
    if Text.sameName k name then some v else hs.find? name := by
  rw [find?, List.find?_cons]
  cases Text.sameName k name <;> rfl

theorem find?_set_self (hs : Headers) (same : Text.sameName name other = true) :
    (hs.set name value).find? other = some value := by
  induction hs with
  | nil => rw [set, find?_cons, if_pos same]
  | cons h hs ih =>
    obtain ⟨k, v⟩ := h
    rw [set]
    split
    · next here => rw [find?_cons, Text.sameName_congr here, if_pos same]
    · next elsewhere =>
      have apart : ¬ Text.sameName k other = true := by
        intro there
        refine elsewhere ?_
        rw [Text.sameName_congr there, Text.sameName_comm, same]
      rw [find?_cons, if_neg apart, ih]

theorem find?_set_other (hs : Headers) (apart : Text.sameName name other = false) :
    (hs.set name value).find? other = hs.find? other := by
  induction hs with
  | nil => rw [set, find?_cons, apart]; rfl
  | cons h hs ih =>
    obtain ⟨k, v⟩ := h
    rw [set]
    split
    · next here => rw [find?_cons, find?_cons, Text.sameName_congr here, apart]; rfl
    · rw [find?_cons, find?_cons, ih]

theorem find?_eq_none_iff {hs : Headers} :
    hs.find? name = none ↔ ∀ h ∈ hs, Text.sameName h.1 name = false := by
  rw [find?, Option.map_eq_none_iff, List.find?_eq_none]
  simp only [Bool.not_eq_true]

/-- No two headers are of one name. -/
def OneEach (hs : Headers) : Prop := List.Pairwise (fun a b => Text.sameName a.1 b.1 = false) hs

theorem oneEach_nil : OneEach [] := List.Pairwise.nil

theorem oneEach_cons_iff {hs : Headers} {k v : String} :
    OneEach ((k, v) :: hs) ↔ hs.find? k = none ∧ hs.OneEach := by
  rw [OneEach, List.pairwise_cons, find?_eq_none_iff]
  simp only [Text.sameName_comm k]
  rfl

/-- A header that is set takes the place of the one of its name. -/
theorem OneEach.set {hs : Headers} (each : hs.OneEach) (name value : String) :
    (hs.set name value).OneEach := by
  induction hs with
  | nil => exact oneEach_cons_iff.mpr ⟨rfl, oneEach_nil⟩
  | cons x hs ih =>
    obtain ⟨k, v⟩ := x
    obtain ⟨first, later⟩ := oneEach_cons_iff.mp each
    rw [Headers.set]
    split
    · exact oneEach_cons_iff.mpr ⟨first, later⟩
    · next apart =>
      refine oneEach_cons_iff.mpr ⟨?_, ih later⟩
      have other : Text.sameName name k = false := by
        rw [Text.sameName_comm]
        exact Bool.eq_false_iff.mpr apart
      rw [find?_set_other hs other, first]

end Headers

namespace Random

theorem product_div_lt (v : UInt64) {r : Nat} (pos : 0 < r) : v.toNat * r / Nat.pow 2 64 < r := by
  have word : v.toNat < Nat.pow 2 64 := v.toNat_lt
  exact Nat.div_lt_of_lt_mul (Nat.mul_lt_mul_of_pos_right word pos)

theorem Generator.below_lt (g : Generator) {r : Nat} (pos : 0 < r) (tries : Nat) :
    g.below r tries < r := by
  induction tries generalizing g with
  | zero => exact product_div_lt _ pos
  | succ tries ih =>
    rw [below]
    dsimp only
    split
    · exact product_div_lt _ pos
    · exact ih _

theorem draw_in_range (g : Generator) {lo hi : UInt64} (h : lo < hi) :
    ∃ n, draw g lo hi = .ok n ∧ lo ≤ n ∧ n < hi := by
  have hlt : lo.toNat < hi.toNat := UInt64.lt_iff_toNat_lt.mp h
  have hhi : hi.toNat < 2 ^ 64 := hi.toNat_lt
  have hb : g.below (hi.toNat - lo.toNat) 1000 < hi.toNat - lo.toNat :=
    g.below_lt (by omega) 1000
  refine ⟨_, if_pos h, ?_⟩
  -- the sum stays below `hi`, so that it does not wrap around
  have sum : (lo + UInt64.ofNat (g.below (hi.toNat - lo.toNat) 1000)).toNat =
      lo.toNat + g.below (hi.toNat - lo.toNat) 1000 := by
    rw [UInt64.toNat_add, UInt64.toNat_ofNat', Nat.mod_eq_of_lt (a := g.below _ _) (by omega)]
    exact Nat.mod_eq_of_lt (by omega)
  rw [UInt64.le_iff_toNat_le, UInt64.lt_iff_toNat_lt, sum]
  omega

end Random

theorem drawNumber_in_range (c : Context) (p : Random.Purpose) {lo hi : UInt64} (h : lo < hi) :
    ∃ n, drawNumber c p lo hi = .ok n ∧ lo.toNat ≤ n ∧ n < hi.toNat := by
  obtain ⟨n, drawn, low, high⟩ := Random.draw_in_range (Random.stream c p) h
  refine ⟨n.toNat, ?_, UInt64.le_iff_toNat_le.mp low, UInt64.lt_iff_toNat_lt.mp high⟩
  rw [drawNumber, drawn]

theorem divides_eq_ok {period n : UInt64} (h : period ≠ 0) :
    divides period n = .ok (decide (period.toNat ∣ n.toNat)) := by
  rw [divides, if_neg h]
  congr 1
  rw [Bool.eq_iff_iff, beq_iff_eq, decide_eq_true_iff, ← UInt64.toNat_inj, UInt64.toNat_mod,
    Nat.dvd_iff_mod_eq_zero]
  rfl

end PrecheckLoad
