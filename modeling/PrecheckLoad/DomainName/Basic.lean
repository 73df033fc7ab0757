import PrecheckLoad.DomainName.Mapping
import PrecheckLoad.DomainName.Punycode
import PrecheckLoad.Text.NormalForm

/-!
# Domain names

A name is mapped, brought to normal form, and split at its dots into labels. A coded label is one
that begins with `xn--`; it has to stand for a label that mapping and normal form leave as it is. No
label begins with a mark or has a joiner where it may not be, and all of them keep to their sides.

Each character is written from left to right or from right to left, or takes no side. In a name with
anything from right to left each label has to keep to one side: it begins with a letter of that
side, has no letter of the other, and ends with a letter or a number, marks aside. A label from
right to left has numbers of one kind.

There are two invisible characters, of which one joins its neighbours and the other keeps them
apart. Either may follow the mark that joins consonants. The second may also stand where a letter
that joins the next one would meet a letter that joins the one before it; marks in between do not
count. The tables class characters that no name may have with their neighbours.
-/
namespace PrecheckLoad.DomainName

open Text

inductive Direction
  | left
  | right
  | arabicNumber
  | europeanNumber
  | neutral
  | nonspacing
deriving DecidableEq, Repr

def rightRanges : List (Nat × Nat) :=
  [(0x5BE, 0x5F4), (0x608, 0x608), (0x60B, 0x60B), (0x60D, 0x60D), (0x61B, 0x64A), (0x66D, 0x6D5),
   (0x6E5, 0x6E6), (0x6EE, 0x6EF), (0x6FA, 0x7F5), (0x7FA, 0x8C9), (0xFBB2, 0xFBC2),
   (0xFE73, 0xFE73), (0x10800, 0x1091B), (0x10920, 0x10B35), (0x10B40, 0x10D23),
   (0x10D4A, 0x10D4F), (0x10D6F, 0x10D8F), (0x10E80, 0x10EC7), (0x10F00, 0x10FF6),
   (0x1E800, 0x1ED3D)]

def arabicNumberRanges : List (Nat × Nat) :=
  [(0x660, 0x669), (0x66B, 0x66C), (0x10D30, 0x10D39), (0x10E60, 0x10E7E)]

def europeanNumberRanges : List (Nat × Nat) :=
  [(0x6F0, 0x6F9), (0x102E1, 0x102FB), (0x10D40, 0x10D49)]

def neutralRanges : List (Nat × Nat) :=
  [(0xA1, 0xD7), (0xF7, 0xF7), (0x2B9, 0x2BA), (0x2C2, 0x2CF), (0x2D2, 0x2ED), (0x2EF, 0x2FF),
   (0x375, 0x375), (0x3F6, 0x3F6), (0x58A, 0x58F), (0x606, 0x607), (0x609, 0x60A), (0x60C, 0x60C),
   (0x60E, 0x60F), (0x66A, 0x66A), (0x6DE, 0x6DE), (0x6E9, 0x6E9), (0x7F6, 0x7F9), (0x9F2, 0x9F3),
   (0x9FB, 0x9FB), (0xAF1, 0xAF1), (0xBF3, 0xBFA), (0xC78, 0xC7E), (0xE3F, 0xE3F), (0xF3A, 0xF3D),
   (0x1390, 0x1399), (0x1400, 0x1400), (0x169B, 0x169C), (0x17DB, 0x17DB), (0x17F0, 0x180A),
   (0x1940, 0x1945), (0x19DE, 0x19FF), (0x200C, 0x214D), (0x218A, 0x2335), (0x237B, 0x2394),
   (0x2396, 0x26AB), (0x26AD, 0x27FF), (0x2900, 0x2BFF), (0x2CE5, 0x2CEA), (0x2CF9, 0x2CFF),
   (0x2E00, 0x3004), (0x3008, 0x3020), (0x3030, 0x3030), (0x3037, 0x3037), (0x303D, 0x303F),
   (0x30A0, 0x30A0), (0x30FB, 0x30FB), (0x31C0, 0x31E5), (0x4DC0, 0x4DFF), (0xA490, 0xA4C6),
   (0xA60D, 0xA60F), (0xA673, 0xA67F), (0xA700, 0xA721), (0xA788, 0xA788), (0xA828, 0xA82B),
   (0xA838, 0xA839), (0xA874, 0xA877), (0xAB6A, 0xAB6B), (0xFBC3, 0xFE46), (0x10101, 0x10101),
   (0x10140, 0x1018C), (0x10190, 0x101A0), (0x1091F, 0x1091F), (0x10B39, 0x10B3F),
   (0x10D6E, 0x10D6E), (0x10ED0, 0x10ED8), (0x11052, 0x11065), (0x11660, 0x1166C),
   (0x11FD5, 0x11FF1), (0x16FE2, 0x16FE2), (0x1CC00, 0x1CEF0), (0x1D1E9, 0x1D245),
   (0x1D300, 0x1D356), (0x1E2FF, 0x1E2FF), (0x1EEF0, 0x1F12F), (0x1F16D, 0x1F16F),
   (0x1F1AD, 0x1F1AD), (0x1F260, 0x1FBFA)]

/-- Nonspacing marks that are written from left to right for themselves. -/
def leftMarks : List Nat :=
  [0xCBF, 0xCC6, 0x11A07, 0x11A08, 0x11C3F]

def Direction.of (c : Char) : Direction :=
  if c.toNat < 128 then
    if isDigit c then .europeanNumber else if isLetter c then .left else .neutral
  else if isNonspacing c then if leftMarks.contains c.toNat then .left else .nonspacing
  else if inRanges rightRanges c then .right
  else if inRanges arabicNumberRanges c then .arabicNumber
  else if inRanges europeanNumberRanges c then .europeanNumber
  else if inRanges neutralRanges c then .neutral
  else .left

/-- Makes a name one in which labels have to keep to a side. -/
def Direction.turns (d : Direction) : Bool :=
  d = .right || d = .arabicNumber

/-- Without the marks at its end. -/
def trimMarks (ds : List Direction) : List Direction :=
  (ds.reverse.dropWhile (· = .nonspacing)).reverse

/-- A label from left to right. -/
def fitsLeft (ds : List Direction) : Bool :=
  ds.all (fun d => !d.turns) &&
    (ds.getLast? = some .left || ds.getLast? = some .europeanNumber)

/-- A label from right to left. -/
def fitsRight (ds : List Direction) : Bool :=
  !ds.contains .left && !(ds.contains .arabicNumber && ds.contains .europeanNumber) &&
    (ds.getLast? = some .right || ds.getLast? = some .arabicNumber ||
      ds.getLast? = some .europeanNumber)

/-- Whether a label keeps to one side. -/
def keepsSide (label : List Char) : Bool :=
  let ds := trimMarks (label.map Direction.of)
  match ds.head? with
  | none => true
  | some .left => fitsLeft ds
  | some .right => fitsRight ds
  | _ => false

/-- Whether the labels of a name go together. -/
def sidesAgree (labels : List (List Char)) : Bool :=
  if labels.any fun l => l.any fun c => (Direction.of c).turns then labels.all keepsSide else true

def joiner : Char := '\u200D'

def nonJoiner : Char := '\u200C'

/-- Letters that join the next one. -/
def joinsNextRanges : List (Nat × Nat) :=
  [(0x620, 0x620), (0x626, 0x626), (0x628, 0x628), (0x62A, 0x62E), (0x633, 0x63F), (0x641, 0x647),
   (0x649, 0x64A), (0x66E, 0x66F), (0x679, 0x687), (0x69A, 0x6BF), (0x6C1, 0x6C2), (0x6CC, 0x6CC),
   (0x6CE, 0x6CE), (0x6D0, 0x6D1), (0x6FA, 0x6FC), (0x6FF, 0x6FF), (0x712, 0x714), (0x71A, 0x71D),
   (0x71F, 0x727), (0x729, 0x729), (0x72B, 0x72B), (0x72D, 0x72E), (0x74E, 0x758), (0x75C, 0x76A),
   (0x76D, 0x770), (0x772, 0x772), (0x775, 0x777), (0x77A, 0x77F), (0x7CA, 0x7EA), (0x841, 0x845),
   (0x848, 0x848), (0x84A, 0x853), (0x855, 0x855), (0x860, 0x860), (0x862, 0x865), (0x868, 0x868),
   (0x886, 0x886), (0x889, 0x88D), (0x88F, 0x8A9), (0x8AF, 0x8B0), (0x8B3, 0x8B8), (0x8BA, 0x8C8),
   (0x1807, 0x1807), (0x1820, 0x1878), (0x1887, 0x18AA), (0xA840, 0xA872), (0x10AC0, 0x10AC4),
   (0x10ACD, 0x10ACD), (0x10AD3, 0x10ADC), (0x10ADE, 0x10AE0), (0x10AEB, 0x10AEE),
   (0x10B80, 0x10B80), (0x10B82, 0x10B82), (0x10B86, 0x10B88), (0x10B8A, 0x10B8B),
   (0x10B8D, 0x10B8D), (0x10B90, 0x10B90), (0x10BAD, 0x10BAE), (0x10D00, 0x10D21),
   (0x10D23, 0x10D23), (0x10EC3, 0x10EC4), (0x10EC6, 0x10EC7), (0x10F30, 0x10F32),
   (0x10F34, 0x10F44), (0x10F51, 0x10F53), (0x10F70, 0x10F73), (0x10F76, 0x10F81),
   (0x10FB0, 0x10FB0), (0x10FB2, 0x10FB3), (0x10FB8, 0x10FB8), (0x10FBB, 0x10FBC),
   (0x10FBE, 0x10FBF), (0x10FC1, 0x10FC1), (0x10FC4, 0x10FC4), (0x10FCA, 0x10FCB),
   (0x1E922, 0x1E943)]

/-- Letters that join the one before. -/
def joinsBeforeRanges : List (Nat × Nat) :=
  [(0x620, 0x620), (0x622, 0x63F), (0x641, 0x64A), (0x66E, 0x673), (0x679, 0x6D3), (0x6D5, 0x6D5),
   (0x6EE, 0x6EF), (0x6FA, 0x6FC), (0x6FF, 0x6FF), (0x710, 0x77F), (0x7CA, 0x7EA), (0x840, 0x858),
   (0x860, 0x860), (0x862, 0x865), (0x867, 0x882), (0x886, 0x886), (0x889, 0x8AC), (0x8AE, 0x8C8),
   (0x1807, 0x1807), (0x1820, 0x1878), (0x1887, 0x18AA), (0xA840, 0xA871), (0x10AC0, 0x10AC5),
   (0x10AC7, 0x10AC7), (0x10AC9, 0x10ACA), (0x10ACE, 0x10AD6), (0x10AD8, 0x10AE1),
   (0x10AE4, 0x10AEF), (0x10B80, 0x10B91), (0x10BA9, 0x10BAE), (0x10D01, 0x10D23),
   (0x10EC2, 0x10EC4), (0x10EC6, 0x10EC7), (0x10F30, 0x10F44), (0x10F51, 0x10F54),
   (0x10F70, 0x10F81), (0x10FB0, 0x10FB0), (0x10FB2, 0x10FB6), (0x10FB8, 0x10FBF),
   (0x10FC1, 0x10FC4), (0x10FC9, 0x10FCA), (0x1E922, 0x1E943)]

/-- Marks, and a letter that counts as one here. -/
def isTransparent (c : Char) : Bool :=
  isNonspacing c || c.toNat = 0x1E94B

/-- Whether the first character that counts is in the ranges. -/
def meets (ranges : List (Nat × Nat)) (s : List Char) : Bool :=
  match s.dropWhile isTransparent with
  | c :: _ => inRanges ranges c
  | [] => false

/-- Whether a joiner may stand between what has been read, the latest first, and what follows. -/
def joinerFits (c : Char) (before after : List Char) : Bool :=
  match before with
  | [] => false
  | b :: _ =>
    isVirama b || (c = nonJoiner && meets joinsNextRanges before && meets joinsBeforeRanges after)

/-- Whether all joiners of a label stand where they may, given what has been read of it. -/
def joinersFit (before : List Char) : List Char → Bool
  | [] => true
  | c :: rest =>
    ((c ≠ joiner && c ≠ nonJoiner) || joinerFits c before rest) && joinersFit (c :: before) rest

/-- Characters that no name may have. -/
def isForbidden (c : Char) : Bool :=
  c.toNat ≤ 32 || c.toNat = 127 || "%#/:<>?@[\\]^|".toList.contains c

def isAscii (s : List Char) : Bool :=
  s.all (·.toNat < 128)

/-- Longer codes are not read. -/
def codeLimit : Nat := 2000

/-- Longer labels beyond ASCII are not taken. -/
def labelLimit : Nat := 1000

/-- Whether mapping and normal form leave a label as it is. -/
def isStable (label : List Char) : Bool :=
  label.all (fun c => Role.of c = .kept && !isForbidden c) && normalForm label = label

/-- The label that a code stands for. -/
def ofCode? (code : List Char) : Option (List Char) := do
  if code.length ≤ codeLimit && code.getLast? ≠ some '-' then
    let label ← Punycode.decode? code
    if isStable label && label ≠ [] then some label else none
  else none

/-- Whether the characters of a label beyond ASCII go together. -/
def isWellFormed (label : List Char) : Bool :=
  (label.head?.map isMark) ≠ some true && joinersFit [] label && label.length ≤ labelLimit

/-- The label that is meant by a mapped one. -/
def readLabel? (label : List Char) : Option (List Char) := do
  let label ← match label with
    | 'x' :: 'n' :: '-' :: '-' :: code => ofCode? code
    | label => some label
  if isAscii label || isWellFormed label then some label else none

/-- The labels of a name, if it is one. -/
def labels? (s : List Char) : Option (List (List Char)) := do
  let mapped := normalForm (← mapText? s)
  if mapped.any isForbidden then none
  else
    let labels ← (splitAtChar '.' mapped).mapM readLabel?
    if sidesAgree labels then some labels else none

end PrecheckLoad.DomainName
