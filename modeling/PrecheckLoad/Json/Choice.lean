import PrecheckLoad.Json.Record

/-!
# Choices

One of several alternatives, told by its name alone, by the only key of an object, or by a tag
among the fields of a record.
-/
namespace PrecheckLoad.Json

/-- Alternatives, and how a text names them. -/
structure Names (κ : Type) where
  all : List κ
  name : κ → String

variable {κ : Type}

def Names.find? (ns : Names κ) (s : String) : Option κ :=
  ns.all.find? fun k => ns.name k = s

/-- The alternative that is named here. -/
def Node.variant (ns : Names κ) : Node → Except Fault κ
  | .string s =>
    match ns.find? s with
    | some k => .ok k
    | none => .error (.mismatch (.unknownVariant s (ns.all.map ns.name)))
  | v => v.refuse "variant identifier"

/-- An alternative that has been chosen, what came with it, and what follows in the text. -/
structure Choice (κ : Type) where
  kind : κ
  content : Option Node
  scope : Scope
  after : Except Fault Unit

/-- A choice is a name, or an object whose only key is the name. -/
def Node.choose (ns : Names κ) (s : Scope) : Node → Except Fault (Choice κ)
  | .string n => do
    return ⟨← (Node.string n).variant ns, none, s, .ok ()⟩
  | .object fields stop =>
    if s.collected then
      match fields with
      | [(k, v)] => do return ⟨← k.variant ns, some v, s, .ok ()⟩
      | _ => .error (.mismatch (.wrongValue .map "map with a single key"))
    else do
      let inner ← s.enter
      match fields with
      | [] => throw malformed
      | (k, v) :: rest =>
        let kind ← k.variant ns
        return ⟨kind, some v, inner, if rest.isEmpty then finish stop else .error malformed⟩
  | v =>
    if s.collected then v.refuse "string or map"
    else match v with
      | .badString f _ => .error (.text f)
      | .missing => .error cut
      | _ => .error malformed

/-- A choice that nothing, or null, comes with. -/
def Choice.bare (c : Choice κ) : Except Fault κ := do
  match c.content with
  | none => pure ()
  | some .null => pure ()
  | some (.object [] none) => unless c.scope.collected do throw (.mismatch (.wrongType .map "unit"))
  | some v => v.refuse "unit"
  c.after
  return c.kind

/-- What comes with a choice that something has to come with. -/
def Choice.held (c : Choice κ) : Except Fault Node :=
  match c.content with
  | none => .error (.mismatch (.wrongType .unitVariant "newtype variant"))
  | some v => .ok v

/-- A choice among names alone. -/
def Decode.named (ns : Names κ) : Decoder κ := fun s v => do
  (← v.choose ns s).bare

/-- A choice told by a field of its own object, or by the first element of an array. -/
structure Tagged (κ : Type) where
  kind : κ
  content : Json

/-- The tag among the fields of an object, and the other fields. -/
def Node.splitTag (tag : String) (ns : Names κ) (levels : Nat) :
    List (Node × Node) → Option κ → List (String × Json) →
      Except Fault (Option κ × List (String × Json))
  | [], t, others => .ok (t, others.reverse)
  | (k, v) :: rest, t, others => do
    let name ← k.key
    if name = tag then
      if t.isSome then throw (.mismatch (.duplicateField tag))
      Node.splitTag tag ns levels rest (some (← v.variant ns)) others
    else
      Node.splitTag tag ns levels rest t ((name, ← v.collect levels) :: others)

def Node.tagged (title tag : String) (ns : Names κ) (s : Scope) : Node → Except Fault (Tagged κ)
  | .object fields stop => do
    let inner ← s.enter
    let (t, others) ← Node.splitTag tag ns inner.levels fields none []
    finish stop
    match t with
    | some kind => return ⟨kind, .object others⟩
    | none => throw (.mismatch (.missingField tag))
  | .array items stop => do
    let inner ← s.enter
    match items with
    | [] =>
      finish stop
      throw (.mismatch (.missingField tag))
    | v :: rest =>
      let kind ← v.variant ns
      let vs ← Node.collectItems inner.levels rest
      finish stop
      return ⟨kind, .array vs⟩
  | v => v.refuse ("internally tagged enum " ++ title)

/-- The scope of a collected value, which has been found shallow enough before. -/
def Scope.again : Scope := { levels := maxLevels, collected := true }

/-- The content of a tagged choice, as a record. -/
def Tagged.record {δ : Type} (t : Tagged κ) (r : Record δ) : Except Fault δ :=
  r.read .again (Node.of t.content)

/-- A choice told by its tag, and what it stands for together with its content. -/
def Decode.tagged {α : Type} (title tag : String) (ns : Names κ)
    (read : Tagged κ → Except Fault α) : Decoder α := fun s v => do
  read (← v.tagged title tag ns s)

/-- A tagged choice without fields: those of an object are ignored, elements are not. -/
def Tagged.bare (t : Tagged κ) : Except Fault Unit :=
  match t.content with
  | .array (_ :: rest) =>
    .error (.mismatch (.wrongLength (rest.length + 1) (elementsInSequence 0)))
  | _ => .ok ()

end PrecheckLoad.Json
