import PrecheckLoad.DomainName.Basic
import PrecheckLoad.Text.Basic

/-!
# Hosts

A host is an address in brackets, four numbers, or a domain name. A name is percent-decoded first.
One whose last part is a number has to be an address.
-/
namespace PrecheckLoad.Url

open Text

inductive UrlFault
  | relative
  | emptyHost
  | invalidPort
  | invalidAddress4
  | invalidAddress6
  | invalidName
  | invalidCharacter
  | unsupportedScheme (scheme : String)
  | missingHost
deriving DecidableEq, Repr

def UrlFault.reason : UrlFault → String
  | .relative => "relative URL without a base"
  | .emptyHost => "empty host"
  | .invalidPort => "invalid port number"
  | .invalidAddress4 => "invalid IPv4 address"
  | .invalidAddress6 => "invalid IPv6 address"
  | .invalidName => "invalid international domain name"
  | .invalidCharacter => "invalid domain character"
  | .unsupportedScheme scheme => "unsupported scheme `" ++ scheme ++ "`"
  | .missingHost => "missing host"

def digitIn? (radix : Nat) (c : Char) : Option Nat :=
  (hexValue? c).bind fun d => if d < radix then some d else none

def numberIn? (radix : Nat) (s : List Char) : Option Nat :=
  s.foldlM (fun n c => (digitIn? radix c).map fun d => n * radix + d) 0

/-- A number of an address: hexadecimal after `0x`, octal after another zero. -/
def addressNumber? : List Char → Option Nat
  | [] => none
  | '0' :: 'x' :: s => numberIn? 16 s
  | '0' :: 'X' :: s => numberIn? 16 s
  | '0' :: c :: s => numberIn? 8 (c :: s)
  | s => numberIn? 10 s

/-- The parts between dots. -/
def dotParts (s : List Char) : List (List Char) :=
  splitAtChar '.' s

/-- An empty part at the end does not count. -/
def dropEmptyLast (parts : List (List Char)) : List (List Char) :=
  if parts.getLast? = some [] then parts.dropLast else parts

def endsInNumber (name : List Char) : Bool :=
  let parts := dotParts name
  let parts := if parts.length > 1 then dropEmptyLast parts else parts
  match parts.getLast? with
  | none => false
  | some [] => false
  | some last => last.all isDigit || (addressNumber? last).isSome

/-- All numbers but the last are bytes; the last one fills what is left. -/
def isAddress4 (name : List Char) : Bool :=
  let parts := dropEmptyLast (dotParts name)
  if parts.length > 4 then false
  else match parts.mapM addressNumber? with
    | none => false
    | some ns =>
      match ns.getLast? with
      | none => false
      | some last => ns.dropLast.all (· ≤ 255) && last < Nat.pow 256 (5 - ns.length)

/-- Four decimal bytes without leading zeros, at the end of a bracketed address. -/
def isTailAddress4 (s : List Char) : Bool :=
  let parts := dotParts s
  parts.length = 4 && parts.all fun p =>
    !p.isEmpty && p.all isDigit && p.length ≤ 3 && natOfDigits p ≤ 255 &&
      (p.length = 1 || p.head? != some '0')

def isGroup (s : List Char) : Bool :=
  !s.isEmpty && s.length ≤ 4 && s.all fun c => (hexValue? c).isSome

/-- How many of eight groups the parts between colons make up, if they are groups. -/
def groupCount? : List (List Char) → Option Nat
  | [] => some 0
  | [p] => if isGroup p then some 1 else if isTailAddress4 p then some 2 else none
  | p :: rest => if isGroup p then (groupCount? rest).map (· + 1) else none

/-- The same for groups that others follow, so that no four bytes may end them. -/
def plainGroupCount? (parts : List (List Char)) : Option Nat :=
  if parts.all isGroup then some parts.length else none

def colonParts (s : List Char) : List (List Char) :=
  if s.isEmpty then [] else splitAtChar ':' s

/-- The text before and after the first double colon. -/
def splitDouble : List Char → Option (List Char × List Char)
  | [] => none
  | ':' :: ':' :: rest => some ([], rest)
  | c :: rest => (splitDouble rest).map fun (a, b) => (c :: a, b)

/-- Eight groups, or fewer around one double colon. -/
def isAddress6 (s : List Char) : Bool :=
  match splitDouble s with
  | none => groupCount? (colonParts s) = some 8
  | some (a, b) =>
    match plainGroupCount? (colonParts a), groupCount? (colonParts b) with
    | some m, some n => m + n ≤ 7
    | _, _ => false

def percentDecode : Bytes → Bytes
  | 0x25 :: a :: b :: rest =>
    match hexValue? (Char.ofNat a.toNat), hexValue? (Char.ofNat b.toNat) with
    | some h, some l => UInt8.ofNat (h * 16 + l) :: percentDecode rest
    | _, _ => 0x25 :: percentDecode (a :: b :: rest)
  | b :: rest => b :: percentDecode rest
  | [] => []
termination_by b => b.length

/-- A host outside brackets, mapped and with coded labels decoded. -/
def hostName (s : List Char) : Except UrlFault (List Char) := do
  let labels ← match (decode? (percentDecode (encode (String.ofList s)))).bind
      fun text => DomainName.labels? text.toList with
    | some labels => pure labels
    | none => throw .invalidName
  let name := ['.'].intercalate labels
  if name.isEmpty then throw .emptyHost
  if endsInNumber name && !isAddress4 name then throw .invalidAddress4
  return name

/-- A host in brackets or outside. -/
def host (s : List Char) : Except UrlFault (List Char) :=
  match s with
  | '[' :: rest =>
    if rest.getLast? = some ']' && isAddress6 rest.dropLast then .ok s else .error .invalidAddress6
  | s => hostName s

/-- The host of a scheme that the parser knows nothing about. -/
def foreignHost (s : List Char) : Except UrlFault (List Char) :=
  match s with
  | '[' :: rest =>
    if rest.getLast? = some ']' && isAddress6 rest.dropLast then .ok s else .error .invalidAddress6
  | s =>
    if s.any fun c => "\x00\t\n\r #/:<>?@[\\]^|".toList.contains c then .error .invalidCharacter
    else .ok s

end PrecheckLoad.Url
