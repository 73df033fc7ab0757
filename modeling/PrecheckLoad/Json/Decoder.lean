import PrecheckLoad.Json.Mismatch
import PrecheckLoad.Json.Reader

/-!
# Decoding JSON

Decoders walk a tree of nodes in the order of the text. A scope says how many more brackets may be
opened, and whether the value has been read once already: the contents of a tagged choice are
collected before the tag is known, and are decoded from what was collected.
-/
namespace PrecheckLoad.Json

structure Scope where
  levels : Nat
  collected : Bool := false

/-- A text may open 127 brackets at a time. -/
def maxLevels : Nat := 127

abbrev Decoder (α : Type) := Scope → Node → Except Fault α

def liftText (r : Except TextFault Unit) : Except Fault Unit :=
  r.mapError .text

/-- What stands here, for one who expected something else. -/
def Node.found : Node → Except Fault Found
  | .null => .ok .null
  | .bool b => .ok (.bool b)
  | .number (.int n) => .ok (.int n)
  | .number (.float x) => .ok (.float x)
  | .string s => .ok (.string s)
  | .array _ _ => .ok .sequence
  | .object _ _ => .ok .map
  | .badString f _ => .error (.text f)
  | .bad f _ => .error (.text f)
  | .missing => .error cut

def Node.refuse {α : Type} (v : Node) (expected : String) : Except Fault α := do
  throw (.mismatch (.wrongType (← v.found) expected))

/-- Opens a bracket. -/
def Scope.enter (s : Scope) : Except Fault Scope :=
  match s.levels with
  | 0 => .error malformed
  | n + 1 => .ok { s with levels := n }

def finish (stop : Option TextFault) : Except Fault Unit :=
  liftText (stopAt stop)

namespace Decode

def string : Decoder String
  | _, .string s => .ok s
  | _, v => v.refuse "a string"

def boolean : Decoder Bool
  | _, .bool b => .ok b
  | _, v => v.refuse "a boolean"

/-- A natural number below a limit. -/
def natBelow (limit : Nat) (expected : String) : Decoder Nat
  | _, .number (.int n) =>
    if 0 ≤ n ∧ n.toNat < limit then .ok n.toNat
    else .error (.mismatch (.wrongValue (.int n) expected))
  | _, v => v.refuse expected

def word16 : Decoder UInt16 := fun s v => UInt16.ofNat <$> natBelow (Nat.pow 2 16) "u16" s v

/-- A natural number of 64 bits, however messages call it. -/
def word (expected : String) : Decoder UInt64 := fun s v =>
  UInt64.ofNat <$> natBelow (Nat.pow 2 64) expected s v

def word64 : Decoder UInt64 := word "u64"

def duration : Decoder Duration := fun s v => do
  match Duration.ofPhrase (← string s v) with
  | .ok d => .ok d
  | .error .overflow => .error .overflow
  | .error cause => .error (.mismatch (.wrongDuration cause))

def nullable {α : Type} (d : Decoder α) : Decoder (Option α)
  | _, .null => .ok none
  | s, v => some <$> d s v

def list {α : Type} (d : Decoder α) : Decoder (List α)
  | s, .array items stop => do
    let inner ← s.enter
    let xs ← items.mapM (d inner)
    finish stop
    return xs
  | _, v => v.refuse "a sequence"

end Decode

def Node.key : Node → Except Fault String
  | .string s => .ok s
  | .badString f _ => .error (.text f)
  | .missing => .error cut
  | _ => .error malformed

mutual

def Node.collect (levels : Nat) : Node → Except Fault Json
  | .null => .ok .null
  | .bool b => .ok (.bool b)
  | .number (.int n) => .ok (.int n)
  | .number (.float x) => .ok (.float x)
  | .string s => .ok (.string s)
  | .array items stop => do
    if levels = 0 then throw malformed
    let vs ← Node.collectItems (levels - 1) items
    finish stop
    return .array vs
  | .object fields stop => do
    if levels = 0 then throw malformed
    let fs ← Node.collectFields (levels - 1) fields
    finish stop
    return .object fs
  | .badString f _ => .error (.text f)
  | .bad f _ => .error (.text f)
  | .missing => .error cut

def Node.collectItems (levels : Nat) : List Node → Except Fault (List Json)
  | [] => .ok []
  | v :: rest => do
    let j ← Node.collect levels v
    return j :: (← Node.collectItems levels rest)

def Node.collectFields (levels : Nat) : List (Node × Node) → Except Fault (List (String × Json))
  | [] => .ok []
  | (k, v) :: rest => do
    let name ← k.key
    let j ← Node.collect levels v
    return (name, j) :: (← Node.collectFields levels rest)

end

/-- Any value, its fields as they come. -/
def Decode.any : Decoder Json := fun s v => v.collect s.levels

/-- Decodes a text; something after the value is looked at last. -/
def decodeText {α : Type} (d : Decoder α) (text : String) : Except Fault α := do
  let doc := Document.of text
  let x ← d { levels := maxLevels } doc.root
  if doc.trailing then throw malformed
  return x

end PrecheckLoad.Json
