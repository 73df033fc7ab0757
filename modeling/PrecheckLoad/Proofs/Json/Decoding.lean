import PrecheckLoad.Json.Choice
import PrecheckLoad.Json.Value
import PrecheckLoad.Proofs.Duration.Phrase
import PrecheckLoad.Proofs.Json.Nesting
import PrecheckLoad.Proofs.Json.Written

/-!
# Decoders that recover what was written

A decoder recovers something from a JSON value if it reads it off wherever enough levels are left
for the brackets of the value. Lists, records and tagged choices are recovered from their parts, so
a format is read back as it was written as soon as each of its parts is.
-/
namespace PrecheckLoad.Json

variable {α β δ κ : Type}

/-- What is written as `v` is read as `x`. -/
structure Recovers (dec : Decoder α) (v : Json) (x : α) : Prop where
  exact : Exact v
  decoded : ∀ s : Scope, v.nesting ≤ s.levels → dec s (.of v) = .ok x

theorem Scope.enter_eq {s : Scope} (room : 0 < s.levels) :
    s.enter = .ok { s with levels := s.levels - 1 } := by
  obtain ⟨levels, collected⟩ := s
  cases levels with
  | zero => cases room
  | succ n => rfl

/-- Every alternative is found by its name. -/
def Names.Faithful (ns : Names κ) : Prop := ∀ k, ns.find? (ns.name k) = some k

namespace Recovers

variable {dec : Decoder α} {v : Json} {x : α}

theorem string (t : String) : Recovers Decode.string (.string t) t := ⟨.string t, fun _ _ => rfl⟩

theorem boolean (b : Bool) : Recovers Decode.boolean (.bool b) b := ⟨.bool b, fun _ _ => rfl⟩

theorem map (f : α → β) (h : Recovers dec v x) : Recovers (fun s v => f <$> dec s v) v (f x) := by
  refine ⟨h.exact, fun s room => ?_⟩
  rw [h.decoded s room]
  rfl

theorem natBelow {n limit : Nat} (expected : String) (lt : n < limit) (fits : limit ≤ 2 ^ 64) :
    Recovers (Decode.natBelow limit expected) (.nat n) n := by
  refine ⟨.nat (by omega), fun s _ => ?_⟩
  have below : (0 : Int) ≤ n ∧ (n : Int).toNat < limit := by
    constructor <;> omega
  rw [Json.nat, Node.of, Decode.natBelow, if_pos below, Int.toNat_natCast]

theorem word16 (n : UInt16) : Recovers Decode.word16 (.nat n.toNat) n := by
  have read := (natBelow "u16" n.toNat_lt (by decide)).map UInt16.ofNat
  rw [UInt16.ofNat_toNat] at read
  exact read

theorem word (expected : String) (n : UInt64) :
    Recovers (Decode.word expected) (Json.word n) n := by
  have read := (natBelow expected n.toNat_lt (Nat.le_refl _)).map UInt64.ofNat
  rw [UInt64.ofNat_toNat] at read
  exact read

theorem duration (d : Duration) : Recovers Decode.duration (Json.duration d) d := by
  refine ⟨.string _, fun s _ => ?_⟩
  rw [Json.duration, Node.of, Decode.duration, Decode.string, ok_bind, Duration.ofPhrase_phrase]

/-- What is written otherwise than as null is not taken for absent. -/
theorem nullable (h : Recovers dec v x) (given : v ≠ .null) :
    Recovers (Decode.nullable dec) v (some x) := by
  refine ⟨h.exact, fun s room => ?_⟩
  have read := (h.map some).decoded s room
  cases v with
  | null => exact absurd rfl given
  | bool b => exact read
  | int n => exact read
  | float f => exact read
  | string t => exact read
  | array items => exact read
  | object fields => exact read

theorem list {write : α → Json} {xs : List α} (h : ∀ x ∈ xs, Recovers dec (write x) x) :
    Recovers (Decode.list dec) (.array (xs.map write)) xs := by
  refine ⟨.array fun v mem => ?_, fun s room => ?_⟩
  · obtain ⟨x, listed, rfl⟩ := List.mem_map.mp mem
    exact (h x listed).exact
  · obtain ⟨pos, le⟩ := nesting_array_le_iff.mp room
    have items : (xs.map (Node.of ∘ write)).mapM (dec { s with levels := s.levels - 1 }) =
        .ok xs := by
      refine mapM_map_eq_ok fun x mem => ?_
      exact (h x mem).decoded _ (le (write x) (List.mem_map_of_mem mem))
    rw [Node.of, Decode.list, Scope.enter_eq pos, ok_bind, ofItems_eq_map, List.map_map, items]
    rfl

theorem named {ns : Names κ} (faithful : ns.Faithful) (k : κ) :
    Recovers (Decode.named ns) (.string (ns.name k)) k := by
  refine ⟨.string _, fun s _ => ?_⟩
  rw [Node.of, Decode.named, Node.choose, Node.variant, faithful k]
  rfl

end Recovers

section Records

/-- Storing `v` in a field turns `d` into `d'`. -/
structure Field.Takes (f : Field δ) (v : Json) (d d' : δ) : Prop where
  exact : Exact v
  stored : ∀ s : Scope, v.nesting ≤ s.levels → f.store s (.of v) d = .ok d'

/-- The fields of an object give those of a record in their order, except some that may be left out,
and turn `d` into `e`. -/
inductive Fills : List (Field δ) → List (String × Json) → δ → δ → Prop
  | nil (d : δ) : Fills [] [] d d
  | give {f : Field δ} {fs : List (Field δ)} {fields : List (String × Json)} {d d' e : δ} {v : Json}
    (takes : f.Takes v d d') (rest : Fills fs fields d' e) :
    Fills (f :: fs) ((f.name, v) :: fields) d e
  | leave {f : Field δ} {fs : List (Field δ)} {fields : List (String × Json)} {d e : δ}
    (free : f.need ≠ .always) (rest : Fills fs fields d e) : Fills (f :: fs) fields d e

variable {f : Field δ} {fs : List (Field δ)} {fields : List (String × Json)} {r : Record δ}
  {d e : δ}

namespace Fills

variable {need : Need} {name : String} {dec : Decoder α} {put : α → δ → δ} {v : Json} {x : α}

theorem field (h : Recovers dec v x) (rest : Fills fs fields (put x d) e) :
    Fills (Field.of need name dec put :: fs) ((name, v) :: fields) d e := by
  refine give (f := .of need name dec put) ⟨h.exact, fun s room => ?_⟩ rest
  rw [Field.of]
  dsimp only
  rw [h.decoded s room]
  rfl

/-- A field that is written only where there is something to write. -/
theorem present {dec : Decoder (Option α)} {put : Option α → δ → δ} {o : Option α}
    {write : α → Json} (h : ∀ x, Recovers dec (write x) (some x)) (absent : put none d = d)
    (rest : Fills fs fields (put o d) e) :
    Fills (defaulted name dec put :: fs) (Json.present name (o.map write) ++ fields) d e := by
  cases o with
  | none =>
    rw [absent] at rest
    have free : Need.never ≠ .always := by decide
    exact leave free rest
  | some x => exact field (h x) rest

theorem present_last {dec : Decoder (Option α)} {put : Option α → δ → δ} {o : Option α}
    {write : α → Json} (h : ∀ x, Recovers dec (write x) (some x)) (absent : put none d = d) :
    Fills [defaulted name dec put] (Json.present name (o.map write)) d (put o d) := by
  have filled : Fills [defaulted name dec put] (Json.present name (o.map write) ++ []) d
      (put o d) := present h absent (.nil (put o d))
  rw [List.append_nil] at filled
  exact filled

theorem exact (fills : Fills fs fields d e) : ∀ p ∈ fields, Exact p.2 := by
  induction fills with
  | nil => exact fun _ mem => absurd mem List.not_mem_nil
  | give takes rest ih => exact List.forall_mem_cons.mpr ⟨takes.exact, ih⟩
  | leave free rest ih => exact ih

end Fills

/-- No two fields of a record answer to one name. -/
structure Record.Distinct (r : Record δ) : Prop where
  names : (r.fields.map Field.name).Nodup
  unaliased : ∀ f ∈ r.fields, f.also = none

theorem Record.Distinct.field?_name (distinct : r.Distinct) (mem : f ∈ r.fields) :
    r.field? f.name = some f := by
  obtain ⟨names, unaliased⟩ := distinct
  rw [Record.field?]
  generalize r.fields = fs at names unaliased mem
  induction fs with
  | nil => cases mem
  | cons g rest ih =>
    rw [List.map_cons, List.nodup_cons] at names
    rw [List.forall_mem_cons] at unaliased
    rcases List.mem_cons.mp mem with rfl | mem
    · simp
    · have apart : g.name ≠ f.name := by
        intro same
        rw [same] at names
        exact names.1 (List.mem_map_of_mem mem)
      rw [List.find?_cons_of_neg (by simp [apart, unaliased.1])]
      exact ih names.2 unaliased.2 mem

/-- The induction is on what is left of the fields; `given` are the names of those before. -/
theorem Record.readFields_of (distinct : r.Distinct) {s : Scope} (fills : Fills fs fields d e)
    (sub : fs.Sublist r.fields) (room : ∀ p ∈ fields, p.2.nesting ≤ s.levels) (given : List String)
    (fresh : ∀ f ∈ fs, f.name ∉ given) :
    ∃ given', r.readFields s (Node.ofFields fields) given d = .ok (given', e) ∧
      (∀ name ∈ given, name ∈ given') ∧ ∀ f ∈ fs, f.need = .always → f.name ∈ given' := by
  induction fills generalizing given with
  | nil d => exact ⟨given, rfl, fun _ mem => mem, fun _ mem => absurd mem List.not_mem_nil⟩
  | @give f fs fields d d' e v takes rest ih =>
    have names := (sub.map Field.name).nodup distinct.names
    rw [List.map_cons, List.nodup_cons] at names
    rw [List.forall_mem_cons] at room fresh
    have later : ∀ g ∈ fs, g.name ∉ f.name :: given := by
      intro g mem again
      rcases List.mem_cons.mp again with same | before
      · exact names.1 (same ▸ List.mem_map_of_mem mem)
      · exact fresh.2 g mem before
    obtain ⟨given', read, grown, filled⟩ :=
      ih ((List.sublist_cons_self f fs).trans sub) room.2 (f.name :: given) later
    have found := distinct.field?_name (sub.mem List.mem_cons_self)
    have once : given.contains f.name = false := by simpa using fresh.1
    refine ⟨given', ?_, fun name mem => grown name (List.mem_cons_of_mem _ mem), ?_⟩
    · rw [Node.ofFields, readFields, Node.key, ok_bind]
      simp only [found, once, Bool.false_eq_true, if_false]
      rw [takes.stored s room.1]
      exact read
    · exact List.forall_mem_cons.mpr ⟨fun _ => grown f.name List.mem_cons_self, filled⟩
  | @leave f fs fields d e free rest ih =>
    rw [List.forall_mem_cons] at fresh
    obtain ⟨given', read, grown, filled⟩ :=
      ih ((List.sublist_cons_self f fs).trans sub) room given fresh.2
    exact ⟨given', read, grown,
      List.forall_mem_cons.mpr ⟨fun always => absurd always free, filled⟩⟩

/-- A record is recovered from an object that fills its fields. -/
theorem Record.recovers (distinct : r.Distinct) (fills : Fills r.fields fields r.start e) :
    Recovers r.read (.object fields) e := by
  refine ⟨.object fills.exact, fun s room => ?_⟩
  obtain ⟨pos, le⟩ := nesting_object_le_iff.mp room
  obtain ⟨given, read, -, filled⟩ := readFields_of distinct (s := { s with levels := s.levels - 1 })
    fills (List.Sublist.refl _) le [] fun _ _ => List.not_mem_nil
  have complete : r.lacking? given = none := by
    rw [lacking?, List.find?_eq_none]
    intro f mem
    by_cases always : f.need = .always
    · simp [filled f mem always]
    · simp [always]
  rw [Node.of, Record.read, Scope.enter_eq pos, ok_bind, read, ok_bind]
  simp only [finish, stopAt, complete]
  rfl

end Records

section Tags

variable {tag title : String} {ns : Names κ} {k : κ} {fields : List (String × Json)}

theorem splitTag_of {levels : Nat} (fresh : ∀ f ∈ fields, f.1 ≠ tag)
    (room : ∀ f ∈ fields, f.2.nesting ≤ levels) (t : Option κ) (others : List (String × Json)) :
    Node.splitTag tag ns levels (Node.ofFields fields) t others =
      .ok (t, others.reverse ++ fields) := by
  induction fields generalizing others with
  | nil => rw [Node.ofFields, Node.splitTag, List.append_nil]
  | cons f rest ih =>
    obtain ⟨name, v⟩ := f
    rw [List.forall_mem_cons] at fresh room
    rw [Node.ofFields, Node.splitTag, Node.key, ok_bind, if_neg fresh.1,
      collect_of v levels room.1, ok_bind, ih fresh.2 room.2, List.reverse_cons,
      List.append_assoc]
    rfl

/-- An object with one key is the alternative of that name with the value that stands there. -/
theorem choose_of {s : Scope} {v : Json} (faithful : ns.Faithful) (fresh : s.collected = false)
    (room : 0 < s.levels) : (Node.of (.object [(ns.name k, v)])).choose ns s =
      .ok ⟨k, some (.of v), { s with levels := s.levels - 1 }, finish none⟩ := by
  rw [Node.of, Node.ofFields, Node.ofFields]
  unfold Node.choose
  dsimp only
  rw [fresh, if_neg Bool.false_ne_true, Scope.enter_eq room, ok_bind, Node.variant, faithful k,
    ← fresh]
  rfl

/-- The tag is found in front, and the other fields are kept as they are. -/
theorem tagged_of {s : Scope} (faithful : ns.Faithful)
    (fresh : ∀ f ∈ fields, f.1 ≠ tag)
    (room : (Json.object ((tag, .string (ns.name k)) :: fields)).nesting ≤ s.levels) :
    (Node.of (.object ((tag, .string (ns.name k)) :: fields))).tagged title tag ns s =
      .ok ⟨k, .object fields⟩ := by
  obtain ⟨pos, le⟩ := nesting_object_le_iff.mp room
  rw [List.forall_mem_cons] at le
  have split : Node.splitTag tag ns (s.levels - 1) (Node.ofFields fields) (some k) [] =
      .ok (some k, fields) := splitTag_of fresh le.2 (some k) []
  rw [Node.of, Node.tagged, Scope.enter_eq pos, ok_bind, Node.ofFields, Node.splitTag, Node.key,
    ok_bind, if_pos rfl, Node.of, Node.variant]
  simp only [faithful k]
  rw [Option.isSome_none, if_neg Bool.false_ne_true]
  simp only [pure_eq_ok, ok_bind, split]
  rfl

/-- A tagged choice is recovered if its content is, once the tag has been taken away. -/
theorem Recovers.tagged {read : Tagged κ → Except Fault α} {x : α} (faithful : ns.Faithful)
    (k : κ) (fresh : ∀ f ∈ fields, f.1 ≠ tag) (exact : Exact (.object fields))
    (found : read ⟨k, .object fields⟩ = .ok x) :
    Recovers (Decode.tagged title tag ns read)
      (.object ((tag, .string (ns.name k)) :: fields)) x := by
  refine ⟨?_, fun s room => ?_⟩
  · cases exact with
    | object exact => exact .object (List.forall_mem_cons.mpr ⟨.string _, exact⟩)
  · rw [Decode.tagged, tagged_of faithful fresh room, ok_bind, found]

/-- A tagged choice with the fields of a record: what has been collected is read once more, with as
many levels as at the start of a text. -/
theorem Recovers.taggedRecord {read : Tagged κ → Except Fault α} {r : Record δ} {d : δ} {f : δ → α}
    (faithful : ns.Faithful) (k : κ) (fresh : ∀ f ∈ fields, f.1 ≠ tag)
    (content : Recovers r.read (.object fields) d)
    (shallow : (Json.object fields).nesting ≤ maxLevels)
    (found : read ⟨k, .object fields⟩ = f <$> Tagged.record ⟨k, .object fields⟩ r) :
    Recovers (Decode.tagged title tag ns read)
      (.object ((tag, .string (ns.name k)) :: fields)) (f d) := by
  have again : Tagged.record ⟨k, .object fields⟩ r = .ok d := content.decoded .again shallow
  refine .tagged faithful k fresh content.exact ?_
  rw [found, again]
  rfl

end Tags

section Texts

variable {dec : Decoder α} {v : Json} {x : α} {text : String}

theorem decodeText_of_document (h : Recovers dec v x) (shallow : v.nesting ≤ maxLevels)
    (doc : Document.of text = ⟨.of v, false⟩) : decodeText dec text = .ok x := by
  have read := h.decoded { levels := maxLevels } shallow
  rw [decodeText, doc]
  dsimp only
  rw [read]
  rfl

theorem decodeText_pretty (h : Recovers dec v x) (shallow : v.nesting ≤ maxLevels) :
    decodeText dec v.pretty = .ok x :=
  decodeText_of_document h shallow (document_pretty h.exact)

theorem decodeText_compact (h : Recovers dec v x) (shallow : v.nesting ≤ maxLevels) :
    decodeText dec v.compact = .ok x :=
  decodeText_of_document h shallow (document_compact h.exact)

end Texts

end PrecheckLoad.Json
