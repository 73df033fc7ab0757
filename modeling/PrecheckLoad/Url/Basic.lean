import PrecheckLoad.Text.Basic
import PrecheckLoad.Url.Host

/-!
# Base addresses

Which texts are addresses of a service. Controls and blanks around the text and tabs and line
breaks inside it do not count. A scheme is followed by a colon; the schemes of the web take any
number of slashes of either kind before the authority, others exactly two or have no host. User
data ends at the last `@` of the authority. A service is reached by `http` or `https`.
-/
namespace PrecheckLoad.Url

open Text

/-- What is known of an address after reading it. -/
structure Address where
  scheme : String
  host : Option (List Char)
deriving DecidableEq, Repr

/-- Removes what does not count. -/
def clean (s : List Char) : List Char :=
  (stripChars (fun c => c.toNat ≤ 32) s).filter fun c => c ≠ '\t' ∧ c ≠ '\n' ∧ c ≠ '\r'

def isSchemeChar (c : Char) : Bool :=
  isLetter c || isDigit c || c = '+' || c = '-' || c = '.'

/-- The scheme and what follows its colon. -/
def splitScheme? (s : List Char) : Option (String × List Char) :=
  match s with
  | [] => none
  | c :: _ =>
    if isLetter c then
      let scheme := s.takeWhile isSchemeChar
      match s.dropWhile isSchemeChar with
      | ':' :: rest => some (String.ofList (scheme.map lowerChar), rest)
      | _ => none
    else none

/-- How a scheme reads what follows it. -/
inductive SchemeKind
  | web
  | file
  | other
deriving DecidableEq, Repr

def SchemeKind.of (scheme : String) : SchemeKind :=
  if ["http", "https", "ws", "wss", "ftp"].contains scheme then .web
  else if scheme = "file" then .file
  else .other

def SchemeKind.isSlash (k : SchemeKind) (c : Char) : Bool :=
  c = '/' || (c = '\\' && k != .other)

/-- What ends an authority. -/
def SchemeKind.endsAuthority (k : SchemeKind) (c : Char) : Bool :=
  k.isSlash c || c = '?' || c = '#'

/-- User data in front of the last `@`, if there is one, and what follows it. -/
def splitUser (authority : List Char) : Option (List Char) × List Char :=
  let backwards := authority.reverse
  match backwards.dropWhile (· ≠ '@') with
  | [] => (none, authority)
  | _ :: user => (some user.reverse, (backwards.takeWhile (· ≠ '@')).reverse)

/-- Whether user data asks for a host behind it, given what follows the authority. -/
def asksForHost (user : Option (List Char)) (after : List Char) : Bool :=
  match user with
  | none => false
  | some [] => !after.isEmpty
  | some cs => cs != [':']

/-- The host text and what follows it; a colon inside brackets does not end it. -/
def spanHost (inBrackets : Bool) : List Char → List Char × List Char
  | [] => ([], [])
  | c :: rest =>
    if c = ':' && !inBrackets then ([], c :: rest)
    else
      let (h, r) := spanHost (if c = '[' then true else if c = ']' then false else inBrackets) rest
      (c :: h, r)

/-- A port may be empty; a backslash ends it. -/
def validPort (s : List Char) : Bool :=
  let ds := s.takeWhile (· ≠ '\\')
  ds.all isDigit && natOfDigits ds ≤ 65535

/-- The host of an authority, which stands in front of a path. -/
def readAuthority (k : SchemeKind) (s : List Char) : Except UrlFault (List Char) := do
  let (user, rest) := splitUser (s.takeWhile fun c => !k.endsAuthority c)
  let after := s.dropWhile fun c => !k.endsAuthority c
  let (hostText, port) := spanHost false rest
  if hostText.isEmpty && (k = .web || !port.isEmpty || asksForHost user after) then
    throw .emptyHost
  let name ← if k = .other then foreignHost hostText else host hostText
  if validPort (port.drop 1) then return name else throw .invalidPort

/-- A drive letter stands for a path, not for a host. -/
def isDrive (s : List Char) : Bool :=
  match s with
  | [c, d] => isLetter c && (d = ':' || d = '|')
  | _ => false

def readFileHost (s : List Char) : Except UrlFault (Option (List Char)) :=
  match s with
  | a :: b :: rest =>
    if SchemeKind.file.isSlash a && SchemeKind.file.isSlash b then
      let name := rest.takeWhile fun c => !SchemeKind.file.endsAuthority c
      if name.isEmpty || isDrive name then .ok none else some <$> host name
    else .ok none
  | _ => .ok none

/-- Reads an address. -/
def Address.ofText (text : String) : Except UrlFault Address := do
  let (scheme, rest) ← match splitScheme? (clean text.toList) with
    | some p => pure p
    | none => throw .relative
  match SchemeKind.of scheme with
  | .web =>
    let name ← readAuthority .web (rest.dropWhile SchemeKind.web.isSlash)
    return ⟨scheme, some name⟩
  | .file => return ⟨scheme, ← readFileHost rest⟩
  | .other =>
    match rest with
    | '/' :: '/' :: rest => return ⟨scheme, some (← readAuthority .other rest)⟩
    | _ => return ⟨scheme, none⟩

/-- Whether a service can be reached at an address. -/
def validate (text : String) : Except UrlFault Unit := do
  let a ← Address.ofText text
  if a.scheme ≠ "http" ∧ a.scheme ≠ "https" then throw (.unsupportedScheme a.scheme)
  if a.host.isNone then throw .missingHost

end PrecheckLoad.Url
