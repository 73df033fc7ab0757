/-!
# Characters and texts

Classes of characters are lists of ranges of code points, or ASCII. Texts are compared without case,
stripped at their ends, taken apart at a separator and put together again. Names of headers and
schemes are ASCII by their own grammars, so that no other letters fold.

Payloads are bytes. Lossy decoding replaces each maximal invalid part by a mark, U+FFFD where it is
shown: a lead byte together with the bytes that continue it as far as they may, or a single byte
that starts nothing.
-/
namespace PrecheckLoad.Text

/-- Both ends of a range are included. -/
def inRanges (ranges : List (Nat × Nat)) (c : Char) : Bool :=
  ranges.any fun (low, high) => low ≤ c.toNat && c.toNat ≤ high

/-- The property White_Space, as ranges of code points. -/
def blankRanges : List (Nat × Nat) :=
  [(0x9, 0xD), (0x20, 0x20), (0x85, 0x85), (0xA0, 0xA0), (0x1680, 0x1680), (0x2000, 0x200A),
   (0x2028, 0x2029), (0x202F, 0x202F), (0x205F, 0x205F), (0x3000, 0x3000)]

def isBlank (c : Char) : Bool :=
  inRanges blankRanges c

def isDigit (c : Char) : Bool :=
  '0' ≤ c && c ≤ '9'

def isLetter (c : Char) : Bool :=
  ('a' ≤ c && c ≤ 'z') || ('A' ≤ c && c ≤ 'Z')

def digitValue (c : Char) : Nat :=
  c.toNat - 48

def natOfDigits (ds : List Char) : Nat :=
  ds.foldl (fun n c => n * 10 + digitValue c) 0

def hexValue? (c : Char) : Option Nat :=
  if '0' ≤ c ∧ c ≤ '9' then some (c.toNat - 48)
  else if 'a' ≤ c ∧ c ≤ 'f' then some (c.toNat - 87)
  else if 'A' ≤ c ∧ c ≤ 'F' then some (c.toNat - 55)
  else none

/-- A lower case digit, for numbers below 16. -/
def hexDigit (n : Nat) : Char :=
  Char.ofNat (if n < 10 then 48 + n else 87 + n)

def lowerChar (c : Char) : Char :=
  if 'A' ≤ c ∧ c ≤ 'Z' then Char.ofNat (c.toNat + 32) else c

/-- Equality of names up to the case of their letters. -/
def sameName (a b : String) : Bool :=
  a.toList.map lowerChar == b.toList.map lowerChar

/-- What is left between the first and the last character that is kept. -/
def stripChars (drop : Char → Bool) (s : List Char) : List Char :=
  ((s.dropWhile drop).reverse.dropWhile drop).reverse

def trimChars (s : List Char) : List Char :=
  stripChars isBlank s

def trim (s : String) : String :=
  String.ofList (trimChars s.toList)

/-- Drops a character from the end as often as it stands there. -/
def dropTrailing (c : Char) (s : String) : String :=
  String.ofList (s.toList.reverse.dropWhile (· == c)).reverse

/-- The parts between separators, one more than there are separators. -/
def splitAtChar (sep : Char) : List Char → List (List Char)
  | [] => [[]]
  | c :: rest =>
    if c = sep then [] :: splitAtChar sep rest
    else match splitAtChar sep rest with
      | [] => [[c]]
      | part :: more => (c :: part) :: more

def joinWith (sep : String) : List String → String
  | [] => ""
  | [s] => s
  | s :: rest => s ++ sep ++ joinWith sep rest

abbrev Bytes := List UInt8

def encode (s : String) : Bytes :=
  s.toUTF8.toList

def decode? (b : Bytes) : Option String :=
  String.fromUTF8? ⟨b.toArray⟩

/-- A character begun: its bits so far, how many bytes are missing, and the range of the next. -/
structure Pending where
  bits : Nat
  more : Nat
  lo : UInt8 := 0x80
  hi : UInt8 := 0xBF

/-- The character that a lead byte begins. -/
def Pending.of? (b : UInt8) : Option Pending :=
  if 0xC2 ≤ b ∧ b ≤ 0xDF then some { more := 1, bits := b.toNat - 0xC0 }
  else if b = 0xE0 then some { more := 2, bits := 0, lo := 0xA0 }
  else if b = 0xED then some { more := 2, bits := 0xD, hi := 0x9F }
  else if 0xE1 ≤ b ∧ b ≤ 0xEF then some { more := 2, bits := b.toNat - 0xE0 }
  else if b = 0xF0 then some { more := 3, bits := 0, lo := 0x90 }
  else if 0xF1 ≤ b ∧ b ≤ 0xF3 then some { more := 3, bits := b.toNat - 0xF0 }
  else if b = 0xF4 then some { more := 3, bits := 4, hi := 0x8F }
  else none

/-- A byte outside a character begun before. What starts nothing is replaced by the mark. -/
def feedFresh (mark : List Char) (b : UInt8) : List Char × Option Pending :=
  if b < 0x80 then ([Char.ofNat b.toNat], none)
  else match Pending.of? b with
    | some p => ([], some p)
    | none => (mark, none)

/-- One byte: the characters it completes and what is pending afterwards. -/
def feed (mark : List Char) (p : Option Pending) (b : UInt8) : List Char × Option Pending :=
  match p with
  | none => feedFresh mark b
  | some p =>
    if p.lo ≤ b ∧ b ≤ p.hi then
      let bits := p.bits * 64 + (b.toNat - 0x80)
      if p.more ≤ 1 then ([Char.ofNat bits], none)
      else ([], some { bits, more := p.more - 1 })
    else
      let (cs, next) := feedFresh mark b
      (mark ++ cs, next)

def decodeFrom (mark : List Char) (p : Option Pending) : Bytes → List Char
  | [] => if p.isSome then mark else []
  | b :: rest =>
    let (cs, next) := feed mark p b
    cs ++ decodeFrom mark next rest

/-- The text of a payload, with a mark for each maximal invalid part. -/
def decodeMarked (mark : String) (b : Bytes) : String :=
  String.ofList (decodeFrom mark.toList none b)

def decodeLossy (b : Bytes) : String :=
  decodeMarked "\uFFFD" b

/-- Whether one payload occurs inside another, in one piece. -/
def occursIn (needle : Bytes) : Bytes → Bool
  | [] => needle.isEmpty
  | b :: rest => needle.isPrefixOf (b :: rest) || occursIn needle rest

end PrecheckLoad.Text
