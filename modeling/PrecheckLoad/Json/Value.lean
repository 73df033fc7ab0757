import PrecheckLoad.Duration.Phrase

/-!
# JSON values and their text

Objects keep their fields in the order given. Written text is compact or indented by two spaces;
both escape only what has to be escaped, and write a float that is not finite as `null`. Records
are written with words as integers, durations in words, and fields that are left out.
-/
namespace PrecheckLoad

inductive Json
  | null
  | bool (b : Bool)
  | int (n : Int)
  | float (x : Float)
  | string (s : String)
  | array (items : List Json)
  | object (fields : List (String × Json))
deriving Inhabited

namespace Json

def nat (n : Nat) : Json := .int n

def word (n : UInt64) : Json := nat n.toNat

def statuses (ss : List UInt16) : Json := .array (ss.map fun s => nat s.toNat)

def duration (d : Duration) : Json := .string d.phrase

/-- A field that is left out when there is nothing to write. -/
def present (name : String) (v : Option Json) : List (String × Json) :=
  match v with
  | some v => [(name, v)]
  | none => []

def escapeChar (c : Char) : List Char :=
  if c = '"' then ['\\', '"']
  else if c = '\\' then ['\\', '\\']
  else if c = '\n' then ['\\', 'n']
  else if c = '\r' then ['\\', 'r']
  else if c = '\t' then ['\\', 't']
  else if c = '\x08' then ['\\', 'b']
  else if c = '\x0c' then ['\\', 'f']
  else if c.toNat < 32 then
    ['\\', 'u', '0', '0', Text.hexDigit (c.toNat / 16), Text.hexDigit (c.toNat % 16)]
  else [c]

def stringChars (s : String) : List Char :=
  '"' :: s.toList.flatMap escapeChar ++ ['"']

def intChars (n : Int) : List Char :=
  Decimal.signChars (n < 0) ++ Decimal.digitChars n.natAbs

def floatChars (x : Float) : List Char :=
  (Decimal.scientificChars? x).getD ['n', 'u', 'l', 'l']

mutual

def compactChars : Json → List Char
  | .null => ['n', 'u', 'l', 'l']
  | .bool true => ['t', 'r', 'u', 'e']
  | .bool false => ['f', 'a', 'l', 's', 'e']
  | .int n => intChars n
  | .float x => floatChars x
  | .string s => stringChars s
  | .array items => '[' :: compactItems items ++ [']']
  | .object fields => '{' :: compactFields fields ++ ['}']

def compactItems : List Json → List Char
  | [] => []
  | [v] => compactChars v
  | v :: rest => compactChars v ++ ',' :: compactItems rest

def compactFields : List (String × Json) → List Char
  | [] => []
  | [(k, v)] => stringChars k ++ ':' :: compactChars v
  | (k, v) :: rest => stringChars k ++ ':' :: compactChars v ++ ',' :: compactFields rest

end

def compact (v : Json) : String :=
  String.ofList (compactChars v)

def newLine (depth : Nat) : List Char :=
  '\n' :: List.replicate (2 * depth) ' '

mutual

def prettyChars (depth : Nat) : Json → List Char
  | .array [] => ['[', ']']
  | .array items => '[' :: prettyItems (depth + 1) items ++ newLine depth ++ [']']
  | .object [] => ['{', '}']
  | .object fields => '{' :: prettyFields (depth + 1) fields ++ newLine depth ++ ['}']
  | .null => ['n', 'u', 'l', 'l']
  | .bool true => ['t', 'r', 'u', 'e']
  | .bool false => ['f', 'a', 'l', 's', 'e']
  | .int n => intChars n
  | .float x => floatChars x
  | .string s => stringChars s

def prettyItems (depth : Nat) : List Json → List Char
  | [] => []
  | [v] => newLine depth ++ prettyChars depth v
  | v :: rest => newLine depth ++ prettyChars depth v ++ ',' :: prettyItems depth rest

def prettyFields (depth : Nat) : List (String × Json) → List Char
  | [] => []
  | [(k, v)] => newLine depth ++ stringChars k ++ ':' :: ' ' :: prettyChars depth v
  | (k, v) :: rest =>
    newLine depth ++ stringChars k ++ ':' :: ' ' :: prettyChars depth v ++
      ',' :: prettyFields depth rest

end

def pretty (v : Json) : String :=
  String.ofList (prettyChars 0 v)

/-- Puts a field into a list sorted by key; a key that is there already gets the new value. Keys
compare by code points, which is also the order of their bytes. -/
def putField (k : String) (v : Json) : List (String × Json) → List (String × Json)
  | [] => [(k, v)]
  | (k', v') :: rest =>
    if k = k' then (k, v) :: rest
    else if k < k' then (k, v) :: (k', v') :: rest
    else (k', v') :: putField k v rest

/-- An object with sorted keys, of which later fields replace earlier ones. -/
def sortedObject (fields : List (String × Json)) : Json :=
  .object (fields.foldl (fun acc (k, v) => putField k v acc) [])

mutual

def canonical : Json → Json
  | .array items => .array (canonicalItems items)
  | .object fields => sortedObject (canonicalFields fields)
  | .null => .null
  | .bool b => .bool b
  | .int n => .int n
  | .float x => .float x
  | .string s => .string s

def canonicalItems : List Json → List Json
  | [] => []
  | v :: rest => canonical v :: canonicalItems rest

def canonicalFields : List (String × Json) → List (String × Json)
  | [] => []
  | (k, v) :: rest => (k, canonical v) :: canonicalFields rest

end

/-- The value of a field, if the value is an object that has it. -/
def field? (v : Json) (k : String) : Option Json :=
  match v with
  | .object fields => (fields.find? fun f => f.1 = k).map (·.2)
  | _ => none

end Json
end PrecheckLoad
