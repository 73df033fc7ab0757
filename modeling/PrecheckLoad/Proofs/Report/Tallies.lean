import Mathlib.Algebra.BigOperators.Group.Finset.Basic
import Mathlib.Algebra.GroupWithZero.Nat
import Mathlib.Algebra.Order.BigOperators.Group.Finset
import PrecheckLoad.Proofs.Verdict.Entries
import PrecheckLoad.Report

/-!
# Tables of counts

Statuses and checks are reported as tables: one row for each key that occurs, in the order of the
keys, with what was counted for it. So a table depends only on which keys occur and on the counts,
and the counts of its rows sum up to the number of all that was counted.
-/
namespace PrecheckLoad

/-- One row for each key that occurs, ascending. -/
def table {κ ν : Type} [DecidableEq κ] [LT κ] [DecidableLT κ] (keys : List κ) (row : κ → ν) :
    List (κ × ν) :=
  entriesOf (keys.eraseDups.map fun k => (k, row k))

section Tables

variable {κ ν : Type} [DecidableEq κ] [LT κ] [DecidableLT κ] [LE κ] [Std.LawfulOrderLT κ]
  [Std.IsLinearOrder κ] {es es' xs : List (κ × ν)} {keys keys' : List κ} {row row' : κ → ν} {k : κ}

/-- Where entries of one key are one entry, none is replaced. -/
theorem mem_entriesOf_of_agree (agree : ∀ a ∈ xs, ∀ b ∈ xs, a.1 = b.1 → a = b) {e : κ × ν} :
    e ∈ entriesOf xs ↔ e ∈ xs := by
  induction xs using List.reverseRecOn with
  | nil => simp [entriesOf]
  | append_singleton xs x ih =>
    have before : e ∈ entriesOf xs ↔ e ∈ xs :=
      ih fun a ha b hb => agree a (List.mem_append_left _ ha) b (List.mem_append_left _ hb)
    rw [entriesOf_append, mem_putEntry (ascending_entriesOf xs), before, List.mem_append,
      List.mem_singleton]
    constructor
    · rintro (rfl | ⟨-, he⟩)
      · exact Or.inr rfl
      · exact Or.inl he
    · rintro (he | rfl)
      · by_cases same : e.1 = x.1
        · exact Or.inl (agree e (List.mem_append_left _ he) x (by simp) same)
        · exact Or.inr ⟨same, he⟩
      · exact Or.inl rfl

theorem ascending_table : Ascending (table keys row) := ascending_entriesOf _

theorem mem_table {e : κ × ν} : e ∈ table keys row ↔ e.1 ∈ keys ∧ e.2 = row e.1 := by
  rw [table, mem_entriesOf_of_agree, List.mem_map]
  · constructor
    · rintro ⟨k, hk, rfl⟩
      exact ⟨List.mem_eraseDups.mp hk, rfl⟩
    · rintro ⟨hk, value⟩
      exact ⟨e.1, List.mem_eraseDups.mpr hk, by rw [← value]⟩
  · intro a ha b hb same
    obtain ⟨k, -, rfl⟩ := List.mem_map.mp ha
    obtain ⟨k', -, rfl⟩ := List.mem_map.mp hb
    obtain rfl : k = k' := same
    rfl

theorem lookup_table (mem : k ∈ keys) : (table keys row).lookup k = some (row k) :=
  ascending_table.lookup_eq_some_iff.mpr (mem_table.mpr ⟨mem, rfl⟩)

theorem lookup_table_of_notMem (absent : k ∉ keys) : (table keys row).lookup k = none := by
  rw [Option.eq_none_iff_forall_ne_some]
  intro v found
  exact absent (mem_table.mp (ascending_table.lookup_eq_some_iff.mp found)).1

theorem table_congr (occur : ∀ k, k ∈ keys ↔ k ∈ keys') (agree : ∀ k, row k = row' k) :
    table keys row = table keys' row' := by
  refine ascending_table.ext ascending_table fun e => ?_
  rw [mem_table, mem_table, occur, agree]

theorem getD_lookup_table {v : ν} (start : k ∉ keys → row k = v) :
    ((table keys row).lookup k).getD v = row k := by
  by_cases mem : k ∈ keys
  · rw [lookup_table mem, Option.getD_some]
  · rw [lookup_table_of_notMem mem, Option.getD_none, start mem]

/-- Entries that are updated one after the other make a table: under each key stands what the
updates of that key come to. -/
theorem foldl_updateEntry_eq_table {ι : Type} (key : ι → κ) (start : ν) (step : ι → ν → ν)
    (inputs : List ι) :
    inputs.foldl (fun es x => updateEntry (key x) start (step x) es) [] =
      table (inputs.map key) fun k =>
        (inputs.filter (key · = k)).foldl (fun v x => step x v) start := by
  induction inputs using List.reverseRecOn with
  | nil => rfl
  | append_singleton inputs x ih =>
    have unused : key x ∉ inputs.map key →
        (inputs.filter (key · = key x)).foldl (fun v x => step x v) start = start := by
      intro absent
      have none : inputs.filter (key · = key x) = [] := by
        refine List.filter_eq_nil_iff.mpr fun y hy same => absent ?_
        rw [← of_decide_eq_true same]
        exact List.mem_map_of_mem hy
      rw [none, List.foldl_nil]
    rw [List.foldl_append, List.foldl_cons, List.foldl_nil, ih, updateEntry,
      getD_lookup_table unused]
    refine (ascending_putEntry _ _ ascending_table).ext ascending_table fun e => ?_
    obtain ⟨k, v⟩ := e
    rw [mem_putEntry ascending_table, mem_table, mem_table, List.map_append, List.mem_append,
      List.filter_append, List.foldl_append]
    by_cases same : k = key x
    · subst same
      simp
    · have other : key x ≠ k := fun eq => same eq.symm
      simp [same, other]

/-- The rows that are picked by their keys count all that is counted under such a key. -/
theorem sum_table (pick : κ → Bool) (amount : ν → Nat) {ys : List κ}
    (counted : ∀ k, pick k = true → amount (row k) = ys.count k)
    (covered : ∀ y ∈ ys, y ∈ keys ∧ pick y = true) :
    (((table keys row).filter fun e => pick e.1).map fun e => amount e.2).sum = ys.length := by
  let rows := (table keys row).filter fun e => pick e.1
  have distinct : (rows.map Prod.fst).Nodup :=
    ascending_table.keys_nodup.sublist (List.filter_sublist.map Prod.fst)
  have complete : ∀ y ∈ (ys : Multiset κ), y ∈ (rows.map Prod.fst).toFinset := by
    intro y hy
    obtain ⟨key, picked⟩ := covered y hy
    rw [List.mem_toFinset, List.mem_map]
    exact ⟨(y, row y), List.mem_filter.mpr ⟨mem_table.mpr ⟨key, rfl⟩, picked⟩, rfl⟩
  calc (rows.map fun e => amount e.2).sum
      = ((rows.map Prod.fst).map fun k => ys.count k).sum := by
        rw [List.map_map]
        refine congrArg List.sum (List.map_congr_left fun e he => ?_)
        obtain ⟨mem, picked⟩ := List.mem_filter.mp he
        rw [(mem_table.mp mem).2]
        exact counted e.1 picked
    _ = ∑ k ∈ (rows.map Prod.fst).toFinset, (ys : Multiset κ).count k := by
        rw [List.sum_toFinset _ distinct]
        simp only [Multiset.coe_count]
    _ = ys.length := Multiset.sum_count_eq_card complete

theorem sum_table_all (amount : ν → Nat) {ys : List κ}
    (counted : ∀ k, amount (row k) = ys.count k) (covered : ∀ y ∈ ys, y ∈ keys) :
    ((table keys row).map fun e => amount e.2).sum = ys.length := by
  have sum := sum_table (fun _ => true) amount (fun k _ => counted k)
    fun y hy => ⟨covered y hy, rfl⟩
  rwa [List.filter_true] at sum

end Tables

variable {samples : List Sample} {results : List CheckResult} {name : String}

theorem statusCounts_eq_table (samples : List Sample) : statusCounts samples =
    table (samples.filterMap (·.status)) fun s => (samples.filterMap (·.status)).count s := by
  have folded : statusCounts samples = (samples.filterMap (·.status)).foldl
      (fun counts s => updateEntry (id s) 0 (· + 1) counts) [] := by
    rw [List.foldl_filterMap, statusCounts]
    congr 1
    funext counts s
    cases s.status with
    | none => rfl
    | some status => rfl
  rw [folded, foldl_updateEntry_eq_table id 0 fun _ n => n + 1, List.map_id]
  refine table_congr (fun _ => Iff.rfl) fun s => ?_
  rw [List.foldl_add_const, Nat.zero_add, Nat.one_mul, List.count_eq_countP,
    List.countP_eq_length_filter]
  rfl

/-- Samples are told apart by their statuses, but for those without a response. -/
theorem countP_status (pick : UInt16 → Bool) (samples : List Sample) :
    samples.countP (fun s => s.status.all pick) = transportFailures samples +
      (((statusCounts samples).filter fun e => pick e.1).map fun e => e.2).sum := by
  let statuses := samples.filterMap (·.status)
  have rows : (((statusCounts samples).filter fun e => pick e.1).map fun e => e.2).sum =
      (statuses.filter pick).length := by
    rw [statusCounts_eq_table]
    refine sum_table pick id (fun s picked => ?_) fun s mem => ?_
    · exact (List.count_filter picked).symm
    · exact List.mem_filter.mp mem
  rw [rows, transportFailures]
  clear rows
  induction samples with
  | nil => rfl
  | cons s rest ih =>
    cases status : s.status with
    | none =>
      simp [statuses, status, ih]
      omega
    | some code =>
      by_cases picked : pick code = true
      · simp [statuses, status, picked, ih]
        omega
      · simp [statuses, status, picked, ih]

/-- Every sample is without a response or counted under its status. -/
theorem length_eq_transportFailures_add (samples : List Sample) : samples.length =
    transportFailures samples + ((statusCounts samples).map fun e => e.2).sum := by
  have every := countP_status (fun _ => true) samples
  rw [List.filter_true] at every
  rw [← every, eq_comm, List.countP_eq_length]
  intro s _
  cases s.status <;> rfl

theorem isFailure_eq_all (tolerated : List UInt16) (status : Option UInt16) :
    isFailure tolerated status = status.all fun s => isFailure tolerated (some s) := by
  cases status <;> rfl

/-- Samples fail for want of a response, or by their status. -/
theorem failedCount_eq_add (tolerated : List UInt16) (samples : List Sample) :
    failedCount tolerated samples = transportFailures samples +
      (((statusCounts samples).filter fun e => isFailure tolerated (some e.1)).map
        fun e => e.2).sum := by
  rw [← countP_status fun s => isFailure tolerated (some s), failedCount]
  simp only [← isFailure_eq_all]

/-- The results of one check, counted apart from those of all others. -/
def tallyOf (name : String) (results : List CheckResult) : Tally :=
  let mine := results.filter (·.name = name)
  ⟨mine.countP (·.passed), mine.countP (!·.passed)⟩

theorem foldl_push (t : Tally) (results : List CheckResult) :
    results.foldl (fun t r => t.push r.passed) t =
      ⟨t.passes + results.countP (·.passed), t.fails + results.countP (!·.passed)⟩ := by
  induction results generalizing t with
  | nil => rfl
  | cons r rest ih =>
    rw [List.foldl_cons, ih, Tally.push]
    cases passed : r.passed <;> simp [passed] <;> omega

theorem checkTallies_eq_table (results : List CheckResult) : checkTallies results =
    table (results.map (·.name)) fun name => tallyOf name results := by
  have folded := foldl_updateEntry_eq_table CheckResult.name ({} : Tally)
    (fun r t => t.push r.passed) results
  refine folded.trans ?_
  refine table_congr (fun _ => Iff.rfl) fun name => ?_
  rw [foldl_push, tallyOf, Nat.zero_add, Nat.zero_add]

theorem tallyOf_total_eq_length (name : String) (results : List CheckResult) :
    (tallyOf name results).total = (results.filter (·.name = name)).length := by
  rw [tallyOf, Tally.total]
  generalize results.filter (·.name = name) = mine
  induction mine with
  | nil => rfl
  | cons r rest ih =>
    cases passed : r.passed <;> simp [passed] at ih ⊢ <;> omega

theorem count_names (name : String) (results : List CheckResult) :
    (results.map (·.name)).count name = (results.filter (·.name = name)).length := by
  rw [List.count_eq_countP, List.countP_map, List.countP_eq_length_filter]
  rfl

theorem tallyOf_passes (name : String) (results : List CheckResult) :
    (tallyOf name results).passes = ((results.filter (·.passed)).map (·.name)).count name := by
  rw [count_names, tallyOf, List.filter_filter, ← List.countP_eq_length_filter]
  exact List.countP_filter.trans (List.countP_congr fun r _ => by simp [and_comm])

theorem tallyOf_of_notMem (absent : name ∉ results.map (·.name)) : tallyOf name results = {} := by
  have none : results.filter (·.name = name) = [] := by
    rw [← List.length_eq_zero_iff, ← count_names]
    exact List.count_eq_zero_of_not_mem absent
  rw [tallyOf, none]
  rfl

/-- A name that is not in the table has nothing to its tally. -/
theorem lookup_checkTallies (name : String) (results : List CheckResult) :
    ((checkTallies results).lookup name).getD {} = tallyOf name results := by
  rw [checkTallies_eq_table]
  exact getD_lookup_table tallyOf_of_notMem

theorem sum_passes (results : List CheckResult) :
    ((checkTallies results).map fun e => e.2.passes).sum = results.countP (·.passed) := by
  rw [checkTallies_eq_table, sum_table_all Tally.passes (tallyOf_passes · results), List.length_map,
    List.countP_eq_length_filter]
  intro name mem
  obtain ⟨r, hr, rfl⟩ := List.mem_map.mp mem
  exact List.mem_map_of_mem (List.mem_of_mem_filter hr)

theorem sum_totals (results : List CheckResult) :
    ((checkTallies results).map fun e => e.2.total).sum = results.length := by
  rw [checkTallies_eq_table, sum_table_all Tally.total (fun name => ?_) fun name mem => mem,
    List.length_map]
  rw [count_names, tallyOf_total_eq_length]

/-- What a threshold on checks looks at is in the tallies: in one of them, or in all. -/
theorem relevantChecks_counts (check : Option String) (results : List CheckResult) :
    ((relevantChecks check results).countP (·.passed), (relevantChecks check results).length) =
      match check with
      | some name =>
        let tally := ((checkTallies results).lookup name).getD {}
        (tally.passes, tally.total)
      | none => (((checkTallies results).map fun e => e.2.passes).sum,
          ((checkTallies results).map fun e => e.2.total).sum) := by
  cases check with
  | some name =>
    dsimp only
    rw [lookup_checkTallies, tallyOf_total_eq_length]
    rfl
  | none =>
    dsimp only
    rw [sum_passes, sum_totals]
    rfl

end PrecheckLoad
