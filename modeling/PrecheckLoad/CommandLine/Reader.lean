import PrecheckLoad.Preset
import PrecheckLoad.Url.Host

/-!
# Reading arguments

What can be given on the command line, and what a value may be. Options come once, except for
profiles.

Arguments are read from left to right. An option takes its value from the same argument, behind `=`
or directly behind its letter, or from the next argument unless that one starts with a dash. A
value read from the next argument is looked at only when the reading comes to another option that
is known, or to the end; until then an unknown argument is reported first.
-/
namespace PrecheckLoad.CommandLine

/-- What can be given. -/
inductive Item
  | config
  | preset
  | baseUrl
  | seed
  | profile
  | metricsAddress
  | json
  | listPresets
  | help
  | version
deriving DecidableEq, Repr

namespace Item

def all : List Item :=
  [.config, .preset, .baseUrl, .seed, .profile, .metricsAddress, .json, .listPresets, .help,
    .version]

def name : Item → String
  | .config => "config"
  | .preset => "preset"
  | .baseUrl => "base-url"
  | .seed => "seed"
  | .profile => "profile"
  | .metricsAddress => "prometheus"
  | .json => "json"
  | .listPresets => "list-presets"
  | .help => "help"
  | .version => "version"

def letter? : Item → Option Char
  | .config => some 'c'
  | .preset => some 'p'
  | .baseUrl => some 'b'
  | .seed => some 's'
  | .help => some 'h'
  | .version => some 'V'
  | _ => none

def takesValue : Item → Bool
  | .json => false
  | .listPresets => false
  | .help => false
  | .version => false
  | _ => true

def ofName? (name : String) : Option Item :=
  all.find? fun i => i.name = name

def ofLetter? (c : Char) : Option Item :=
  all.find? fun i => i.letter? = some c

end Item

/-- Why arguments are refused, or what they ask for instead of a run. -/
inductive ArgumentFault
  | valueValidation
  | invalidValue
  | conflict
  | unknownArgument
  | tooManyValues
  | displayHelp
  | displayVersion
deriving DecidableEq, Repr

def ArgumentFault.message : ArgumentFault → String
  | .valueValidation => "a value does not fit its option"
  | .invalidValue => "a value is missing"
  | .conflict => "arguments exclude each other"
  | .unknownArgument => "an argument is unknown"
  | .tooManyValues => "a value is given to an option that takes none"
  | .displayHelp => "help is asked for"
  | .displayVersion => "the version is asked for"

structure Options where
  config : Option String := none
  preset : Option Preset := none
  baseUrl : Option String := none
  seed : Option UInt64 := none
  profiles : List ProfileKind := []
  metricsAddress : Option String := none
  json : Bool := false
  listPresets : Bool := false

def isPort (s : List Char) : Bool :=
  !s.isEmpty && s.all Text.isDigit && Text.natOfDigits s ≤ 65535

/-- A zone, if there is one, is a number of 32 bits. -/
def isZone (s : List Char) : Bool :=
  match s with
  | [] => true
  | '%' :: ds => !ds.isEmpty && ds.all Text.isDigit && Text.natOfDigits ds < Nat.pow 2 32
  | _ => false

/-- An address with a port: four bytes, or a bracketed address. -/
def isSocketAddress (s : String) : Bool :=
  match s.toList with
  | '[' :: rest =>
    let inside := rest.takeWhile (· ≠ ']')
    match rest.dropWhile (· ≠ ']') with
    | ']' :: ':' :: port =>
      Url.isAddress6 (inside.takeWhile (· ≠ '%')) && isZone (inside.dropWhile (· ≠ '%')) &&
        isPort port
    | _ => false
  | cs =>
    match cs.dropWhile (· ≠ ':') with
    | ':' :: port => Url.isTailAddress4 (cs.takeWhile (· ≠ ':')) && isPort port
    | _ => false

/-- Stores a value that has been given once. -/
def once {α : Type} (old : Option α) (new : Except ArgumentFault α) :
    Except ArgumentFault (Option α) :=
  match old with
  | some _ => .error .conflict
  | none => some <$> new

def valid {α : Type} (x : Option α) : Except ArgumentFault α :=
  match x with
  | some x => .ok x
  | none => .error .valueValidation

namespace Options

/-- An option with its value. -/
def setValue (o : Options) (item : Item) (v : String) : Except ArgumentFault Options :=
  match item with
  | .config => do
    let config ← once o.config (if v.isEmpty then .error .invalidValue else .ok v)
    return { o with config }
  | .preset => do
    let preset ← once o.preset (valid (Preset.ofText v).toOption)
    return { o with preset }
  | .baseUrl => do
    let baseUrl ← once o.baseUrl (.ok v)
    return { o with baseUrl }
  | .seed => do
    let seed ← once o.seed (valid ((Decimal.readNat? (Nat.pow 2 64) v).map UInt64.ofNat))
    return { o with seed }
  | .profile => do
    let kind ← valid (ProfileKind.ofText v).toOption
    return { o with profiles := o.profiles ++ [kind] }
  | .metricsAddress => do
    let address := if isSocketAddress v then some v else none
    let metricsAddress ← once o.metricsAddress (valid address)
    return { o with metricsAddress }
  | _ => .error .tooManyValues

/-- An option without a value. -/
def setFlag (o : Options) (item : Item) : Except ArgumentFault Options :=
  match item with
  | .json => if o.json then .error .conflict else .ok { o with json := true }
  | .listPresets => if o.listPresets then .error .conflict else .ok { o with listPresets := true }
  | .help => .error .displayHelp
  | .version => .error .displayVersion
  | _ => .error .invalidValue

end Options

/-- An option whose value is still expected, or has been taken but not looked at. -/
inductive Open
  | nothing
  | expecting (item : Item)
  | holding (item : Item) (value : String)

structure Reading where
  options : Options := {}
  pending : Open := .nothing

/-- Looks at what is open. -/
def Reading.settle (r : Reading) : Except ArgumentFault Options :=
  match r.pending with
  | .nothing => .ok r.options
  | .expecting _ => .error .invalidValue
  | .holding item v => r.options.setValue item v

/-- An option that has been recognised, with a value attached to it if there is one. -/
def Reading.take (r : Reading) (item : Item) (attached : Option String) :
    Except ArgumentFault Reading := do
  if item.takesValue then
    let options ← r.settle
    match attached with
    | some v => return { options := ← options.setValue item v }
    | none => return { options, pending := .expecting item }
  else if attached.isSome then throw .tooManyValues
  else return { options := ← (← r.settle).setFlag item }

def Reading.readLong (r : Reading) (text : List Char) : Except ArgumentFault Reading := do
  let name := String.ofList (text.takeWhile (· ≠ '='))
  let attached := match text.dropWhile (· ≠ '=') with
    | _ :: v => some (String.ofList v)
    | [] => none
  match Item.ofName? name with
  | some item => r.take item attached
  | none => throw .unknownArgument

/-- Letters behind one dash: flags, up to an option that takes the rest as its value. -/
def Reading.readShort (r : Reading) : List Char → Except ArgumentFault Reading
  | [] => .ok r
  | c :: rest =>
    match Item.ofLetter? c with
    | none => .error .unknownArgument
    | some item =>
      if item.takesValue then
        match rest with
        | [] => r.take item none
        | '=' :: v => r.take item (some (String.ofList v))
        | v => r.take item (some (String.ofList v))
      else do
        let r ← r.take item none
        r.readShort rest

/-- Behind two dashes nothing is an option any more, and nothing else is expected. -/
def Reading.readRest (r : Reading) : List String → Except ArgumentFault Options
  | [] => r.settle
  | _ :: _ => .error .unknownArgument

def Reading.read (r : Reading) : List String → Except ArgumentFault Options
  | [] => r.settle
  | arg :: rest =>
    match arg.toList with
    | ['-', '-'] => r.readRest rest
    | '-' :: '-' :: text => do (← r.readLong text).read rest
    | '-' :: c :: text => do (← r.readShort (c :: text)).read rest
    | _ =>
      match r.pending with
      | .expecting item => { r with pending := .holding item arg : Reading }.read rest
      | _ => .error .unknownArgument

/-- The options that arguments stand for, without the name of the program. -/
def parse (args : List String) : Except ArgumentFault Options := do
  let o ← ({} : Reading).read args
  if o.config.isSome && o.preset.isSome then throw .conflict
  return o

end PrecheckLoad.CommandLine
