import PrecheckLoad.Json.Node

/-!
# Reading JSON text

From characters to nodes. Each function returns what it read and what follows; nothing follows a
fault that also stops one who skips. The fuel of the nested functions is computed from the length
of the text: between two characters at most three calls are made.
-/
namespace PrecheckLoad.Json

open Text

def isSpace (c : Char) : Bool :=
  c = ' ' || c = '\n' || c = '\t' || c = '\r'

def skipSpace (s : List Char) : List Char :=
  s.dropWhile isSpace

/-- Something read, and the text after it, if reading can go on. -/
abbrev Reading (α : Type) := α × Option (List Char)

def cutShort : Reading Node := (.bad .cut (some .cut), none)

def malformedHere : Reading Node := (.broken, none)

/-- The end of a text within a number ends it for a reader but spoils it for one who skips. -/
def cutNumber : Reading Node := (.bad .cut (some .malformed), none)

/-- The rest of a word whose first letter has been read. -/
def readWord (node : Node) : List Char → List Char → Reading Node
  | [], s => (node, some s)
  | _ :: _, [] => cutShort
  | w :: ws, c :: s => if c = w then readWord node ws s else malformedHere

def hexUnit? (a b c d : Char) : Option Nat := do
  let high := (← hexValue? a) * 16 + (← hexValue? b)
  let low := (← hexValue? c) * 16 + (← hexValue? d)
  return high * 256 + low

def escaped? : Char → Option Char
  | '"' => some '"'
  | '\\' => some '\\'
  | '/' => some '/'
  | 'b' => some '\x08'
  | 'f' => some '\x0c'
  | 'n' => some '\n'
  | 'r' => some '\r'
  | 't' => some '\t'
  | _ => none

def byteLength (s : List Char) : Nat :=
  s.foldr (·.utf8Size + ·) 0

/-- A string in the middle: its characters so far, last first, a leading surrogate that waits for
its partner, and whether a surrogate has been left alone. -/
structure Partial where
  chars : List Char := []
  waiting : Option Nat := none
  lone : Bool := false

/-- A character other than a surrogate escape leaves a waiting surrogate alone. -/
def Partial.push (p : Partial) (c : Char) : Partial :=
  ⟨c :: p.chars, none, p.lone || p.waiting.isSome⟩

/-- A code unit given by an escape. -/
def Partial.pushUnit (p : Partial) (u : Nat) : Partial :=
  if 0xDC00 ≤ u ∧ u ≤ 0xDFFF then
    match p.waiting with
    | some h =>
      ⟨Char.ofNat (0x10000 + (h - 0xD800) * 0x400 + (u - 0xDC00)) :: p.chars, none, p.lone⟩
    | none => ⟨p.chars, none, true⟩
  else if 0xD800 ≤ u ∧ u ≤ 0xDBFF then ⟨p.chars, some u, p.lone || p.waiting.isSome⟩
  else p.push (Char.ofNat u)

/-- A fault inside a string; an earlier lone surrogate is met first by one who reads. -/
def Partial.fail (p : Partial) (f : TextFault) : Reading Node :=
  (.badString (if p.lone then .malformed else f) (some f), none)

def Partial.close (p : Partial) (s : List Char) : Reading Node :=
  if p.lone || p.waiting.isSome then (.badString .malformed none, some s)
  else (.string (String.ofList p.chars.reverse), some s)

/-- The rest of a string whose opening quote has been read. -/
def readString (p : Partial) : List Char → Reading Node
  | [] => p.fail .cut
  | '"' :: s => p.close s
  | '\\' :: 'u' :: a :: b :: c :: d :: s =>
    match hexUnit? a b c d with
    | some u => readString (p.pushUnit u) s
    | none => p.fail .malformed
  | '\\' :: 'u' :: s => p.fail (if byteLength s < 4 then .cut else .malformed)
  | ['\\'] => p.fail .cut
  | '\\' :: c :: s =>
    let p := { p with waiting := none, lone := p.lone || p.waiting.isSome }
    match escaped? c with
    | some e => readString (p.push e) s
    | none => p.fail .malformed
  | c :: s =>
    let p := { p with waiting := none, lone := p.lone || p.waiting.isSome }
    if c.toNat < 32 then p.fail .malformed else readString (p.push c) s

def readExponent (t : NumberText) (s : List Char) : Reading Node :=
  let (down, s) := Decimal.takeSign s
  let (ds, rest) := Decimal.spanDigits s
  match ds, rest with
  | [], [] => cutNumber
  | [], _ => malformedHere
  | ds, rest => (.ofNumber { t with exponent := some (down, ds) }.value?, some rest)

/-- What may follow the digits of a number. -/
def readAfterDigits (t : NumberText) : List Char → Reading Node
  | 'e' :: s => readExponent t s
  | 'E' :: s => readExponent t s
  | s => (.ofNumber t.value?, some s)

def readPlaces (t : NumberText) : List Char → Reading Node
  | '.' :: s =>
    let (ds, rest) := Decimal.spanDigits s
    match ds, rest with
    | [], [] => cutNumber
    | [], _ => malformedHere
    | ds, rest => readAfterDigits { t with places := some ds } rest
  | s => readAfterDigits t s

/-- A number, after its sign. A zero in front stands alone. -/
def readNumber (negative : Bool) : List Char → Reading Node
  | [] => cutNumber
  | '0' :: s =>
    match s with
    | c :: _ => if isDigit c then malformedHere else readPlaces ⟨negative, ['0'], none, none⟩ s
    | [] => readPlaces ⟨negative, ['0'], none, none⟩ []
  | c :: s =>
    if isDigit c then
      let (ds, rest) := Decimal.spanDigits (c :: s)
      readPlaces ⟨negative, ds, none, none⟩ rest
    else malformedHere

/-- The text behind the colon after a key, or what stands in place of the value. -/
def readColon (s : List Char) : Except Node (List Char) :=
  match skipSpace s with
  | [] => .error .missing
  | ':' :: s => .ok s
  | _ => .error .broken

mutual

def readValue : Nat → List Char → Reading Node
  | 0, _ => (.missing, none)
  | fuel + 1, s =>
    match skipSpace s with
    | [] => (.missing, none)
    | 'n' :: s => readWord .null ['u', 'l', 'l'] s
    | 't' :: s => readWord (.bool true) ['r', 'u', 'e'] s
    | 'f' :: s => readWord (.bool false) ['a', 'l', 's', 'e'] s
    | '"' :: s => readString {} s
    | '-' :: s => readNumber true s
    | '[' :: s =>
      match skipSpace s with
      | [] => (.array [] (some .cut), none)
      | ']' :: s => (.array [] none, some s)
      | s =>
        let ((items, stop), rest) := readItems fuel s
        (.array items stop, rest)
    | '{' :: s =>
      match skipSpace s with
      | '}' :: s => (.object [] none, some s)
      | s =>
        let ((fields, stop), rest) := readFields fuel s
        (.object fields stop, rest)
    | c :: s => if isDigit c then readNumber false (c :: s) else malformedHere

/-- Items from here to the closing bracket. -/
def readItems : Nat → List Char → Reading (List Node × Option TextFault)
  | 0, _ => (([], some .cut), none)
  | fuel + 1, s =>
    let (v, rest) := readValue fuel s
    match rest with
    | none => (([v], none), none)
    | some s =>
      match skipSpace s with
      | [] => (([v], some .cut), none)
      | ']' :: s => (([v], none), some s)
      | ',' :: s =>
        match skipSpace s with
        | ']' :: _ => (([v, .broken], none), none)
        | s =>
          let ((items, stop), rest) := readItems fuel s
          ((v :: items, stop), rest)
      | _ => (([v], some .malformed), none)

/-- Fields from here to the closing brace. -/
def readFields : Nat → List Char → Reading (List (Node × Node) × Option TextFault)
  | 0, _ => (([], some .cut), none)
  | fuel + 1, s =>
    match s with
    | [] => (([(.missing, .missing)], none), none)
    | '"' :: s =>
      let (k, rest) := readString {} s
      match rest with
      | none => (([(k, .broken)], none), none)
      | some s =>
        match readColon s with
        | .error v => (([(k, v)], none), none)
        | .ok s =>
          let (v, rest) := readValue fuel s
          match rest with
          | none => (([(k, v)], none), none)
          | some s =>
            match skipSpace s with
            | [] => (([(k, v)], some .cut), none)
            | '}' :: s => (([(k, v)], none), some s)
            | ',' :: s =>
              let ((fields, stop), rest) := readFields fuel (skipSpace s)
              (((k, v) :: fields, stop), rest)
            | _ => (([(k, v)], some .malformed), none)
    | _ => (([(.broken, .broken)], none), none)

end

/-- A whole text: its value, and whether something that is no blank follows it. -/
structure Document where
  root : Node
  trailing : Bool

def Document.ofChars (s : List Char) : Document :=
  let (v, rest) := readValue (4 * s.length + 4) s
  ⟨v, match rest with
    | some s => !(skipSpace s).isEmpty
    | none => false⟩

def Document.of (s : String) : Document :=
  .ofChars s.toList

end PrecheckLoad.Json
