import PrecheckLoad.Json.Decoder

/-!
# Records

A record is an object, or an array of its fields in order. Unknown fields are skipped; a field
given twice is refused; a field may have a default.
-/
namespace PrecheckLoad.Json

/-- Where a field may be left out. -/
inductive Need
  | always
  /-- In arrays only, where every place counts. -/
  | inArrays
  | never
deriving DecidableEq, Repr

/-- A field of a record, and how its value is stored. -/
structure Field (δ : Type) where
  name : String
  /-- Another name for it. -/
  also : Option String := none
  need : Need
  store : Scope → Node → δ → Except Fault δ

/-- A record: how it is called in messages, its fields in order, and the value they are stored in.
What is not given keeps the value that it has at the start. -/
structure Record (δ : Type) where
  title : String
  start : δ
  fields : List (Field δ)

variable {δ : Type}

def Record.field? (r : Record δ) (name : String) : Option (Field δ) :=
  r.fields.find? fun f => f.name = name || f.also = some name

def Record.size (r : Record δ) : String :=
  let n := r.fields.length
  r.title ++ " with " ++ toString n ++ (if n = 1 then " element" else " elements")

/-- The fields of an object, one after the other, with the names of those given so far. -/
def Record.readFields (r : Record δ) (s : Scope) :
    List (Node × Node) → List String → δ → Except Fault (List String × δ)
  | [], given, d => .ok (given, d)
  | (k, v) :: rest, given, d => do
    match r.field? (← k.key) with
    | none =>
      liftText v.skip
      r.readFields s rest given d
    | some f =>
      if given.contains f.name then throw (.mismatch (.duplicateField f.name))
      r.readFields s rest (f.name :: given) (← f.store s v d)

/-- The first field that has to be given and is not. -/
def Record.lacking? (r : Record δ) (given : List String) : Option (Field δ) :=
  r.fields.find? fun f => f.need = .always && !given.contains f.name

/-- How many elements a sequence was expected to have when it goes on after them. -/
def elementsInSequence (n : Nat) : String :=
  toString n ++ (if n = 1 then " element in sequence" else " elements in sequence")

/-- The fields of an array, by position. What follows the last field is a fault of the text, or of
the length where the array has been collected. -/
def Record.readItems (r : Record δ) (s : Scope) (stop : Option TextFault) :
    Nat → List (Field δ) → List Node → δ → Except Fault δ
  | _, [], [], d => do
    finish stop
    return d
  | n, [], rest, _ =>
    if s.collected then
      .error (.mismatch (.wrongLength (n + rest.length) (elementsInSequence n)))
    else .error malformed
  | n, f :: fs, v :: rest, d => do
    r.readItems s stop (n + 1) fs rest (← f.store s v d)
  | n, f :: fs, [], d => do
    finish stop
    if f.need ≠ .never then throw (.mismatch (.wrongLength n r.size))
    r.readItems s stop (n + 1) fs [] d

def Record.read (r : Record δ) : Decoder δ
  | s, .object fields stop => do
    let inner ← s.enter
    let (given, d) ← r.readFields inner fields [] r.start
    finish stop
    match r.lacking? given with
    | some f => throw (.mismatch (.missingField f.name))
    | none => return d
  | s, .array items stop => do
    let inner ← s.enter
    r.readItems inner stop 0 r.fields items r.start
  | _, v => v.refuse r.title

/-- A field that is decoded by itself and then put in place. -/
def Field.of {α : Type} (need : Need) (name : String) (d : Decoder α) (put : α → δ → δ) :
    Field δ where
  name := name
  need := need
  store := fun s v r => do return put (← d s v) r

def required {α : Type} (name : String) (d : Decoder α) (put : α → δ → δ) : Field δ :=
  .of .always name d put

def defaulted {α : Type} (name : String) (d : Decoder α) (put : α → δ → δ) : Field δ :=
  .of .never name d put

end PrecheckLoad.Json
