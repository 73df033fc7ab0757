import PrecheckLoad.Config.Reader
import PrecheckLoad.Proofs.Json.Depth
import PrecheckLoad.Proofs.Json.Nesting

/-!
# How deep configurations are

Everything in a configuration but the predicates of its checks has a depth that is known
beforehand. Predicates nest freely; they alone decide whether the text of a configuration stays
within the levels that a reader opens, and no predicate that has been read goes beyond them.
-/
namespace PrecheckLoad

open Json

theorem Stage.nesting_toJson (s : Stage) : s.toJson.nesting = 1 := rfl

theorem Pacing.nestingFields_fieldsJson (p : Pacing) : nestingFields p.fieldsJson = 0 := by
  cases p <;> rfl

theorem Pacing.nesting_toJson (p : Pacing) : p.toJson.nesting = 1 := by
  rw [Pacing.toJson, nesting, nestingFields, p.nestingFields_fieldsJson]
  rfl

theorem Profile.nestingFields_fieldsJson (p : Profile) : nestingFields p.fieldsJson = 0 := by
  cases p with
  | spoofedHeader s =>
    obtain ⟨header, lead, max, mode, agent, strip⟩ := s
    cases agent <;> rfl
  | uniformRandom r => rfl
  | fixedIdentity identity => rfl
  | duplicate period => rfl
  | forcedFailure f => rfl

theorem Profile.nesting_toJson (p : Profile) : p.toJson.nesting = 1 := by
  rw [Profile.toJson, nesting, nestingFields, p.nestingFields_fieldsJson]
  rfl

theorem Pattern.nesting_toJson_le (p : Pattern) : p.toJson.nesting ≤ 3 := by
  have profiles : (Json.array (p.profiles.map Profile.toJson)).nesting ≤ 2 :=
    nesting_array_map_le fun q _ => Nat.le_of_eq q.nesting_toJson
  refine nesting_object_le_iff.mpr ⟨by omega, ?_⟩
  simp only [List.forall_mem_cons]
  exact ⟨profiles, Nat.le_succ 1, Nat.le_succ 1, List.forall_mem_nil _⟩

theorem ThresholdSpec.nesting_toJson_le (s : ThresholdSpec) : s.toJson.nesting ≤ 2 := by
  obtain ⟨metric, expr, tolerate, check⟩ := s
  refine nesting_object_le_iff.mpr ⟨by omega, ?_⟩
  simp only [List.forall_mem_append, List.forall_mem_cons]
  refine ⟨⟨⟨Nat.zero_le 1, Nat.zero_le 1, List.forall_mem_nil _⟩, ?_⟩,
    nesting_present_le (fun _ => Nat.zero_le 1) "check" check⟩
  by_cases none : tolerate.isEmpty = true
  · simp [none]
  · simpa [none] using nesting_statuses_le tolerate

theorem Predicate.listJson_eq_map (ps : List Predicate) :
    Predicate.listJson ps = ps.map Predicate.toJson := by
  induction ps with
  | nil => rfl
  | cons p rest ih => rw [Predicate.listJson, ih, List.map_cons]

theorem CheckSpec.nesting_toJson (k : CheckSpec) :
    k.toJson.nesting = k.predicate.toJson.nesting + 1 := by
  simp [CheckSpec.toJson, nesting, nestingFields]

/-- Around a predicate stand the brackets of its check, of the list of checks and of the
configuration; all else fits into the levels that are left. -/
theorem Config.nesting_toJson_le_iff (c : Config) : c.toJson.nesting ≤ maxLevels ↔
    ∀ k ∈ c.checks, k.predicate.toJson.nesting ≤ maxLevels - 3 := by
  have stages : (Json.array (c.stages.map Stage.toJson)).nesting ≤ 2 :=
    nesting_array_map_le fun s _ => Nat.le_of_eq s.nesting_toJson
  have thresholds : (Json.array (c.thresholds.map ThresholdSpec.toJson)).nesting ≤ 3 :=
    nesting_array_map_le fun t _ => t.nesting_toJson_le
  have pattern := c.pattern.nesting_toJson_le
  have pacing := c.pacing.nesting_toJson
  have checks : (Json.array (c.checks.map CheckSpec.toJson)).nesting ≤ maxLevels - 1 ↔
      ∀ k ∈ c.checks, k.predicate.toJson.nesting ≤ maxLevels - 3 := by
    rw [nesting_array_le_iff, List.forall_mem_map]
    simp only [CheckSpec.nesting_toJson, maxLevels]
    constructor
    · rintro ⟨-, le⟩ k mem
      have := le k mem
      omega
    · intro le
      refine ⟨by omega, fun k mem => ?_⟩
      have := le k mem
      omega
  rw [← checks, Config.toJson, nesting_object_le_iff]
  simp only [List.forall_mem_append, List.forall_mem_cons]
  constructor
  · rintro ⟨-, ⟨⟨⟨-, -, -, -, -, -, le, -⟩, -⟩, -⟩, -⟩
    exact le
  · intro le
    simp only [maxLevels] at le ⊢
    refine ⟨by omega, ⟨⟨⟨Nat.zero_le _, Nat.zero_le _, by omega, Nat.zero_le _, by omega,
      by omega, le, by omega, List.forall_mem_nil _⟩, ?_⟩, Nat.zero_le _, Nat.zero_le _,
      List.forall_mem_nil _⟩, ?_⟩
    · exact nesting_present_le (fun _ => Nat.zero_le _) "max_rps" c.maxRate
    · exact nesting_present_le (fun _ => Nat.zero_le _) "seed" c.seed

mutual

/-- A predicate that has been read opens no more brackets than there were levels. -/
theorem Predicate.nesting_le_of_decodeAt : ∀ (levels : Nat) (v : Node) (p : Predicate),
    Predicate.decodeAt levels v = .ok p → p.toJson.nesting ≤ levels
  | 0, v, p, read => by
    obtain ⟨c, -, read⟩ := bind_eq_ok.mp read
    obtain ⟨_, -, read⟩ := bind_eq_ok.mp read
    cases read
  | n + 1, v, p, read => by
    rw [Predicate.decodeAt] at read
    obtain ⟨c, chosen, read⟩ := bind_eq_ok.mp read
    obtain ⟨content, given, read⟩ := bind_eq_ok.mp read
    obtain ⟨q, read, after⟩ := bind_eq_ok.mp read
    obtain ⟨_, -, after⟩ := bind_eq_ok.mp after
    cases after
    have level : c.scope.levels = n := Nat.succ.inj (choose_content rfl chosen given)
    cases kind : c.kind with
    | statusIs =>
      rw [kind] at read
      obtain ⟨code, -, rfl⟩ := map_eq_ok.mp read
      exact Nat.succ_pos n
    | statusIn =>
      rw [kind] at read
      obtain ⟨codes, listed, rfl⟩ := map_eq_ok.mp read
      obtain ⟨inner, deeper, -⟩ := list_eq_ok listed
      have flat := nesting_statuses_le codes
      simp only [Predicate.toJson, nesting, nestingFields]
      omega
    | bodyContains =>
      rw [kind] at read
      obtain ⟨text, -, rfl⟩ := map_eq_ok.mp read
      exact Nat.succ_pos n
    | all =>
      rw [kind] at read
      obtain ⟨ps, listed, rfl⟩ := map_eq_ok.mp read
      have inside := nesting_le_of_decodeList n c.scope content ps level listed
      simp only [Predicate.toJson, nesting, nestingFields]
      omega
    | any =>
      rw [kind] at read
      obtain ⟨ps, listed, rfl⟩ := map_eq_ok.mp read
      have inside := nesting_le_of_decodeList n c.scope content ps level listed
      simp only [Predicate.toJson, nesting, nestingFields]
      omega
    | not =>
      rw [kind] at read
      obtain ⟨q, negated, rfl⟩ := map_eq_ok.mp read
      have inside := nesting_le_of_decodeAt n content q negated
      simp only [Predicate.toJson, nesting, nestingFields]
      omega

theorem Predicate.nesting_le_of_decodeList : ∀ (n : Nat) (s : Scope) (v : Node)
    (ps : List Predicate), s.levels = n → Predicate.decodeList n s v = .ok ps →
    nestingItems (Predicate.listJson ps) + 1 ≤ n
  | 0, s, v, ps, level, read => by
    obtain ⟨inner, deeper, -⟩ := list_eq_ok read
    omega
  | n + 1, s, v, ps, level, read => by
    obtain ⟨inner, -, found⟩ := list_eq_ok read
    have each : nestingItems (Predicate.listJson ps) ≤ n := by
      rw [nestingItems_le_iff, Predicate.listJson_eq_map, List.forall_mem_map]
      intro p mem
      obtain ⟨item, read⟩ := found p mem
      exact nesting_le_of_decodeAt n item p read
    omega

end

/-- The two levels are for the predicate that a record of a check starts with. -/
theorem CheckSpec.nesting_le_of_read {s : Scope} {v : Node} {k : CheckSpec} {n : Nat}
    (level : s.levels = n + 3) (read : CheckSpec.record.read s v = .ok k) :
    k.predicate.toJson.nesting ≤ n + 2 := by
  have kept : ∀ f ∈ CheckSpec.record.fields,
      f.Keeps (fun k => k.predicate.toJson.nesting ≤ n + 2) s := by
    refine List.forall_mem_cons.mpr ⟨.frame fun _ _ le => le,
      List.forall_mem_singleton.mpr (.of fun inner deeper v p read _ _ => ?_)⟩
    have le := Predicate.nesting_le_of_decodeAt inner.levels v p read
    dsimp only
    omega
  have le := Record.read_keeps kept (Nat.le_add_left 2 n) read
  exact le

theorem Config.nesting_le_of_read {v : Node} {c : Config}
    (read : Config.record.read { levels := maxLevels } v = .ok c) :
    c.toJson.nesting ≤ maxLevels := by
  rw [Config.nesting_toJson_le_iff]
  have kept : ∀ f ∈ Config.record.fields, f.Keeps
      (fun c => ∀ k ∈ c.checks, k.predicate.toJson.nesting ≤ maxLevels - 3)
      { levels := maxLevels } := by
    have checks : ∀ (inner : Scope), inner.levels + 1 = maxLevels → ∀ v ks,
        Decode.list CheckSpec.record.read inner v = .ok ks →
        ∀ k ∈ ks, k.predicate.toJson.nesting ≤ maxLevels - 3 := by
      intro inner level v ks read k mem
      obtain ⟨deeper, below, found⟩ := list_eq_ok read
      obtain ⟨item, read⟩ := found k mem
      have start : deeper.levels = (maxLevels - 5) + 3 := by
        simp only [maxLevels] at level ⊢
        omega
      exact CheckSpec.nesting_le_of_read start read
    simp only [Config.record, List.forall_mem_cons]
    exact ⟨.frame fun _ _ le => le, .frame fun _ _ le => le, .frame fun _ _ le => le,
      .frame fun _ _ le => le, .frame fun _ _ le => le, .frame fun _ _ le => le,
      .of fun inner level v ks read _ _ => checks inner level v ks read,
      .frame fun _ _ le => le, .frame fun _ _ le => le, .frame fun _ _ le => le,
      .frame fun _ _ le => le, .frame fun _ _ le => le, List.forall_mem_nil _⟩
  have le := Record.read_keeps kept (List.forall_mem_nil _) read
  exact le

end PrecheckLoad
