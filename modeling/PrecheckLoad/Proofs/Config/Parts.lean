import PrecheckLoad.Proofs.Config.Nesting
import PrecheckLoad.Proofs.Json.Decoding

/-!
# Parts of a configuration are read back

Each part of a configuration is recovered from what it is written as. Parts that are records fill
the fields of their record in order; a part with a tag is collected first and read once more; a
predicate is recovered level by level.
-/
namespace PrecheckLoad

open Json

theorem Stage.recovers (s : Stage) : Recovers Stage.record.read s.toJson s :=
  Record.recovers ⟨by decide, by decide⟩
    (.field (.duration s.duration) (.field (.word "usize" s.target) (.nil _)))

theorem Ramp.names_faithful : Ramp.names.Faithful := by
  intro r
  cases r <;> rfl

theorem Pacing.names_faithful : Pacing.names.Faithful := by
  intro k
  cases k <;> rfl

theorem Pacing.fixed_recovers (d : Duration) :
    Recovers fixedRecord.read (.object (Pacing.fixed d).fieldsJson) d :=
  Record.recovers ⟨by decide, by decide⟩ (.field (.duration d) (.nil _))

theorem Pacing.jittered_recovers (base spread : Duration) :
    Recovers jitteredRecord.read (.object (Pacing.jittered base spread).fieldsJson)
      (base, spread) :=
  Record.recovers ⟨by decide, by decide⟩
    (.field (.duration base) (.field (.duration spread) (.nil _)))

theorem Pacing.recovers (p : Pacing) : Recovers Pacing.decode p.toJson p := by
  have shallow : (Json.object p.fieldsJson).nesting ≤ maxLevels := by
    rw [nesting, p.nestingFields_fieldsJson]
    decide
  have fresh : ∀ f ∈ p.fieldsJson, f.1 ≠ "kind" := by
    cases p <;> simp [fieldsJson]
  cases p with
  | none => exact .tagged names_faithful Kind.none fresh (.object (List.forall_mem_nil _)) rfl
  | fixed d => exact .taggedRecord names_faithful Kind.fixed fresh (fixed_recovers d) shallow rfl
  | jittered base spread =>
    refine .taggedRecord (f := fun d : Duration × Duration => Pacing.jittered d.1 d.2)
      names_faithful Kind.jittered fresh (jittered_recovers base spread) shallow ?_
    rfl

theorem FailureScope.names_faithful : FailureScope.names.Faithful := by
  intro s
  cases s <;> rfl

theorem SpoofMode.names_faithful : SpoofMode.names.Faithful := by
  intro m
  cases m <;> rfl

theorem ProfileKind.names_faithful : ProfileKind.names.Faithful := by
  intro k
  cases k <;> rfl

theorem IdentityRange.recovers (r : IdentityRange) :
    Recovers IdentityRange.record.read (.object r.fieldsJson) r :=
  Record.recovers ⟨by decide, by decide⟩
    (.field (.string r.lead) (.field (.word "u64" r.min) (.field (.word "u64" r.max)
      (.field (.boolean r.botAgent) (.nil _)))))

theorem ForcedFailure.recovers (f : ForcedFailure) :
    Recovers ForcedFailure.record.read (.object f.fieldsJson) f :=
  Record.recovers ⟨by decide, by decide⟩
    (.field (.word "u64" f.period) (.field (.string f.sentinel)
      (.field (.named FailureScope.names_faithful f.scope) (.nil _))))

theorem Spoof.recovers (s : Spoof) : Recovers Spoof.record.read (.object s.fieldsJson) s :=
  Record.recovers ⟨by decide, by decide⟩
    (.field (.string s.header) (.field (.string s.lead) (.field (.word "u64" s.max)
      (.field (.named SpoofMode.names_faithful s.mode)
        (.present (fun agent => .nullable (.string agent) (by simp)) rfl
          (.field (.boolean s.stripBody) (.nil _)))))))

theorem Profile.fixed_recovers (identity : String) :
    Recovers Profile.fixedRecord.read (.object (Profile.fixedIdentity identity).fieldsJson)
      identity :=
  Record.recovers ⟨by decide, by decide⟩ (.field (.string identity) (.nil _))

theorem Profile.duplicate_recovers (period : UInt64) :
    Recovers Profile.duplicateRecord.read (.object (Profile.duplicate period).fieldsJson) period :=
  Record.recovers ⟨by decide, by decide⟩ (.field (.word "u64" period) (.nil _))

theorem Profile.recovers (p : Profile) : Recovers Profile.decode p.toJson p := by
  have shallow : (Json.object p.fieldsJson).nesting ≤ maxLevels := by
    rw [nesting, p.nestingFields_fieldsJson]
    decide
  have fresh : ∀ f ∈ p.fieldsJson, f.1 ≠ "kind" := by
    cases p with
    | spoofedHeader s =>
      obtain ⟨header, lead, max, mode, agent, strip⟩ := s
      cases agent <;> simp [fieldsJson, Spoof.fieldsJson, Json.present]
    | uniformRandom r => simp [fieldsJson, IdentityRange.fieldsJson]
    | fixedIdentity identity => simp [fieldsJson]
    | duplicate period => simp [fieldsJson]
    | forcedFailure f => simp [fieldsJson, ForcedFailure.fieldsJson]
  have faithful := ProfileKind.names_faithful
  cases p with
  | uniformRandom r =>
    exact .taggedRecord faithful ProfileKind.uniformRandom fresh r.recovers shallow rfl
  | fixedIdentity identity =>
    exact .taggedRecord faithful ProfileKind.fixedIdentity fresh (fixed_recovers identity) shallow
      rfl
  | duplicate period =>
    exact .taggedRecord faithful ProfileKind.duplicate fresh (duplicate_recovers period) shallow rfl
  | forcedFailure f =>
    exact .taggedRecord faithful ProfileKind.forcedFailure fresh f.recovers shallow rfl
  | spoofedHeader s =>
    exact .taggedRecord faithful ProfileKind.spoofedHeader fresh s.recovers shallow rfl

theorem BodyShape.recovers (b : BodyShape) : Recovers BodyShape.record.read b.toJson b :=
  Record.recovers ⟨by decide, by decide⟩
    (.field (.string b.userField) (.field (.string b.productField)
      (.field (.string b.product) (.nil _))))

theorem IdentityFormat.recovers (f : IdentityFormat) :
    Recovers IdentityFormat.record.read f.toJson f :=
  Record.recovers ⟨by decide, by decide⟩
    (.field (.string f.lead) (.field (.string f.separator) (.nil _)))

theorem Pattern.recovers (p : Pattern) : Recovers Pattern.record.read p.toJson p :=
  Record.recovers ⟨by decide, by decide⟩
    (.field (.list fun q _ => q.recovers) (.field p.body.recovers
      (.field p.identity.recovers (.nil _))))

theorem recovers_statuses (ss : List UInt16) :
    Recovers (Decode.list Decode.word16) (Json.statuses ss) ss :=
  .list fun s _ => .word16 s

/-- An empty list of statuses is left out, and is the one that a threshold starts with. -/
theorem ThresholdSpec.recovers (t : ThresholdSpec) :
    Recovers ThresholdSpec.record.read t.toJson t := by
  obtain ⟨metric, expr, tolerate, check⟩ := t
  have checked : Fills [ThresholdSpec.record.fields[3]]
      (Json.present "check" (check.map .string)) ⟨metric, expr, tolerate, none⟩
      ⟨metric, expr, tolerate, check⟩ :=
    .present_last (fun c => .nullable (.string c) (by simp)) rfl
  refine Record.recovers ⟨by decide, by decide⟩ (.field (.string metric) (.field (.string expr) ?_))
  cases tolerate with
  | nil => exact .leave (by decide) checked
  | cons s rest => exact .field (recovers_statuses (s :: rest)) checked

theorem Predicate.names_faithful : Predicate.names.Faithful := by
  intro k
  cases k <;> rfl

namespace Predicate

mutual

theorem exact_toJson : ∀ p : Predicate, Exact p.toJson
  | .statusIs s => .object (List.forall_mem_singleton.mpr (Recovers.word16 s).exact)
  | .statusIn ss => .object (List.forall_mem_singleton.mpr (recovers_statuses ss).exact)
  | .bodyContains text => .object (List.forall_mem_singleton.mpr (.string text))
  | .all ps => .object (List.forall_mem_singleton.mpr (.array (exact_listJson ps)))
  | .any ps => .object (List.forall_mem_singleton.mpr (.array (exact_listJson ps)))
  | .not p => .object (List.forall_mem_singleton.mpr (exact_toJson p))

theorem exact_listJson : ∀ ps : List Predicate, ∀ v ∈ listJson ps, Exact v
  | [] => List.forall_mem_nil _
  | p :: rest => List.forall_mem_cons.mpr ⟨exact_toJson p, exact_listJson rest⟩

end

/-- Every predicate opens a bracket. -/
theorem toJson_eq (p : Predicate) : ∃ k v, p.toJson = .object [(Kind.name k, v)] := by
  cases p <;> exact ⟨_, _, rfl⟩

variable {n : Nat}

/-- What a predicate of a kind is read from: its name and what comes with it. -/
theorem decodeAt_object {k : Kind} {v : Json} {p : Predicate}
    (read : ofKind (decodeAt n) (decodeList n) { levels := n } (.of v) k = .ok p) :
    decodeAt (n + 1) (.of (.object [(k.name, v)])) = .ok p := by
  have chosen : (Node.of (.object [(k.name, v)])).choose names { levels := n + 1 } =
      .ok ⟨k, some (.of v), { levels := n }, finish none⟩ :=
    choose_of names_faithful rfl (Nat.succ_pos n)
  rw [decodeAt, chosen, ok_bind, Choice.held, ok_bind]
  dsimp only
  rw [read]
  rfl

theorem decodeList_of {ps : List Predicate} {s : Scope}
    (items : ∀ n, nestingItems (listJson ps) ≤ n →
      (Node.ofItems (listJson ps)).mapM (decodeAt n) = .ok ps)
    (level : s.levels = n) (le : (Json.array (listJson ps)).nesting ≤ n) :
    decodeList n s (.of (.array (listJson ps))) = .ok ps := by
  rw [nesting] at le
  cases n with
  | zero => omega
  | succ n =>
    rw [decodeList, Node.of, Decode.list, Scope.enter_eq (by omega), ok_bind,
      items n (by omega)]
    rfl

mutual

theorem decodeAt_of : ∀ (p : Predicate) (n : Nat), p.toJson.nesting ≤ n →
    decodeAt n (.of p.toJson) = .ok p
  | p, 0, le => by
    obtain ⟨k, v, shape⟩ := p.toJson_eq
    rw [shape, nesting] at le
    cases le
  | .statusIs s, n + 1, _ => by
    have content := (Recovers.word16 s).decoded { levels := n } (Nat.zero_le n)
    refine decodeAt_object (k := .statusIs) ?_
    rw [ofKind, content]
    rfl
  | .statusIn ss, n + 1, le => by
    obtain ⟨-, le⟩ := nesting_object_le_iff.mp le
    have content := (recovers_statuses ss).decoded { levels := n } (le _ List.mem_cons_self)
    refine decodeAt_object (k := .statusIn) ?_
    rw [ofKind, content]
    rfl
  | .bodyContains text, n + 1, _ => decodeAt_object (k := .bodyContains) rfl
  | .all ps, n + 1, le => by
    obtain ⟨-, le⟩ := nesting_object_le_iff.mp le
    have content := decodeList_of (s := { levels := n }) (mapM_decodeAt_of ps) rfl
      (le _ List.mem_cons_self)
    refine decodeAt_object (k := .all) ?_
    rw [ofKind, content]
    rfl
  | .any ps, n + 1, le => by
    obtain ⟨-, le⟩ := nesting_object_le_iff.mp le
    have content := decodeList_of (s := { levels := n }) (mapM_decodeAt_of ps) rfl
      (le _ List.mem_cons_self)
    refine decodeAt_object (k := .any) ?_
    rw [ofKind, content]
    rfl
  | .not p, n + 1, le => by
    obtain ⟨-, le⟩ := nesting_object_le_iff.mp le
    have content := decodeAt_of p n (le _ List.mem_cons_self)
    refine decodeAt_object (k := .not) ?_
    rw [ofKind, content]
    rfl

theorem mapM_decodeAt_of : ∀ (ps : List Predicate) (n : Nat), nestingItems (listJson ps) ≤ n →
    (Node.ofItems (listJson ps)).mapM (decodeAt n) = .ok ps
  | [], _, _ => rfl
  | p :: rest, n, le => by
    rw [listJson, nestingItems, Nat.max_le] at le
    rw [listJson, Node.ofItems, List.mapM_cons, decodeAt_of p n le.1, ok_bind,
      mapM_decodeAt_of rest n le.2]
    rfl

end

end Predicate

theorem Predicate.recovers (p : Predicate) : Recovers Predicate.decode p.toJson p :=
  ⟨p.exact_toJson, fun s => p.decodeAt_of s.levels⟩

theorem CheckSpec.recovers (k : CheckSpec) : Recovers CheckSpec.record.read k.toJson k :=
  Record.recovers ⟨by decide, by decide⟩
    (.field (.string k.name) (.field k.predicate.recovers (.nil _)))

theorem Rate.recovers (r : Rate) : Recovers Rate.decode (.nat r.perSecond) r := by
  obtain ⟨n, pos, lt⟩ := r
  refine ⟨.nat (Nat.lt_trans lt (by decide)), fun s _ => ?_⟩
  have given : (if 0 ≤ (n : Int) then Rate.of? (n : Int).toNat else none) = some ⟨n, pos, lt⟩ := by
    rw [if_pos (by omega), Int.toNat_natCast, Rate.of?, dif_pos ⟨pos, lt⟩]
  rw [Json.nat, Node.of, Rate.decode, given]

theorem Config.recovers (c : Config) : Recovers Config.record.read c.toJson c := by
  refine Record.recovers ⟨by decide, by decide⟩ ?_
  simp only [List.append_assoc, List.cons_append, List.nil_append]
  exact .field (.string c.name) (.field (.string c.baseUrl)
    (.field (.list fun s _ => s.recovers) (.field (.named Ramp.names_faithful c.ramp)
      (.field (.list fun t _ => t.recovers) (.field c.pattern.recovers
        (.field (.list fun k _ => k.recovers) (.field c.pacing.recovers
          (.present (fun r => .nullable r.recovers (by simp [Json.nat])) rfl
            (.field (.duration c.requestTimeout) (.field (.duration c.reconcileInterval)
              (.present_last (fun n => .nullable (.word "u64" n) (by simp [Json.word, Json.nat]))
                rfl)))))))))))

end PrecheckLoad
