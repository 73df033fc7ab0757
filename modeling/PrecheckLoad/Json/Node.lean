import PrecheckLoad.Json.Number
import PrecheckLoad.Json.Value

/-!
# What can be read of a JSON text

A text is read from left to right by someone who knows what to expect, and who stops at the first
fault met. Where a text has several faults, the answer depends on what was expected: a wrong kind
of value in front hides a missing bracket behind it, and what is skipped is checked less than what
is used. So a text is first read as far as it goes into a tree that keeps each fault at its place,
and the faults count only when the tree is walked.
-/
namespace PrecheckLoad.Json

/-- A fault of the text itself. -/
inductive TextFault
  /-- Something stands where it may not. -/
  | malformed
  /-- The text ends too early. -/
  | cut
deriving DecidableEq, Repr

/-- A tree over a text. A leaf with a fault tells what is met by one who reads the leaf and, if
anything, by one who skips it; only the latter ends the text. -/
inductive Node
  | null
  | bool (b : Bool)
  | number (n : Number)
  | string (s : String)
  | array (items : List Node) (stop : Option TextFault)
  /-- Keys are nodes, as a key may have a fault. -/
  | object (fields : List (Node × Node)) (stop : Option TextFault)
  | badString (read : TextFault) (skipped : Option TextFault)
  | bad (read : TextFault) (skipped : Option TextFault)
  /-- The text ends before anything stands here. -/
  | missing
deriving Inhabited

/-- A place where the text stops being readable. -/
def Node.broken : Node := .bad .malformed (some .malformed)

/-- The tree over the text of a value. -/
def Node.ofNumber : Option Number → Node
  | some n => .number n
  | none => .bad .malformed none

mutual

def Node.of : Json → Node
  | .null => .null
  | .bool b => .bool b
  | .int n => .number (.int n)
  | .float x => .number (.float x)
  | .string s => .string s
  | .array items => .array (Node.ofItems items) none
  | .object fields => .object (Node.ofFields fields) none

def Node.ofItems : List Json → List Node
  | [] => []
  | v :: rest => Node.of v :: Node.ofItems rest

def Node.ofFields : List (String × Json) → List (Node × Node)
  | [] => []
  | (k, v) :: rest => (.string k, Node.of v) :: Node.ofFields rest

end

/-- What is met by one who skips a key. -/
def Node.skipKey : Node → Except TextFault Unit
  | .string _ => .ok ()
  | .badString _ (some f) => .error f
  | .badString _ none => .ok ()
  | .missing => .error .cut
  | _ => .error .malformed

def stopAt : Option TextFault → Except TextFault Unit
  | some f => .error f
  | none => .ok ()

mutual

/-- What is met by one who skips a value. -/
def Node.skip : Node → Except TextFault Unit
  | .array items stop => do Node.skipItems items; stopAt stop
  | .object fields stop => do Node.skipFields fields; stopAt stop
  | .badString _ f => stopAt f
  | .bad _ f => stopAt f
  | .missing => .error .cut
  | .null => .ok ()
  | .bool _ => .ok ()
  | .number _ => .ok ()
  | .string _ => .ok ()

def Node.skipItems : List Node → Except TextFault Unit
  | [] => .ok ()
  | v :: rest => do Node.skip v; Node.skipItems rest

def Node.skipFields : List (Node × Node) → Except TextFault Unit
  | [] => .ok ()
  | (k, v) :: rest => do Node.skipKey k; Node.skip v; Node.skipFields rest

end

end PrecheckLoad.Json
