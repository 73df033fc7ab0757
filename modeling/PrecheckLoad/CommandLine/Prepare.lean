import PrecheckLoad.CommandLine.Reader
import PrecheckLoad.Config.Reader
import PrecheckLoad.Text.Basic

/-!
# Preparing a run

A configuration is taken from a file or from a preset, and what the options name is put in its
place.

A file lies in a tree of files, where a path is walked part by part, from the root if it starts with
a slash. An empty part or a dot stays where it is, two dots lead up, and the root lies above itself.
Nothing lies behind a file, so that even a slash after its name leads nowhere.
-/
namespace PrecheckLoad.CommandLine

/-- Why a file cannot be read as text. -/
inductive FileFault
  | nulInPath
  | notFound
  | notDirectory
  | isDirectory
  | nameTooLong
  | notText
  | other (reason : String)
deriving DecidableEq, Repr

def FileFault.message : FileFault → String
  | .nulInPath => "file name contained an unexpected NUL byte"
  | .notFound => "No such file or directory (os error 2)"
  | .notDirectory => "Not a directory (os error 20)"
  | .isDirectory => "Is a directory (os error 21)"
  | .nameTooLong => "File name too long (os error 36)"
  | .notText => "stream did not contain valid UTF-8"
  | .other reason => reason

/-- What a name in a directory stands for. -/
inductive Entry
  | file (content : Text.Bytes)
  | directory (entries : List (String × Entry))

abbrev Directory := List (String × Entry)

/-- A directory and those above it, the nearest first. -/
structure Place where
  here : Directory
  above : List Directory := []

namespace Place

def root (p : Place) : Place where
  here := p.above.getLastD p.here

def up (p : Place) : Place :=
  match p.above with
  | [] => p
  | d :: above => ⟨d, above⟩

def down (p : Place) (d : Directory) : Place where
  here := d
  above := p.here :: p.above

/-- The most bytes of a name. -/
def nameLimit : Nat := 255

/-- The most bytes of a path. -/
def pathLimit : Nat := 4095

/-- What the parts of a path lead to. -/
def walk (p : Place) : List String → Except FileFault Entry
  | [] => .ok (.directory p.here)
  | part :: rest =>
    if part = "" ∨ part = "." then p.walk rest
    else if part = ".." then p.up.walk rest
    else if part.utf8ByteSize > nameLimit then .error .nameTooLong
    else match p.here.lookup part with
      | none => .error .notFound
      | some (.directory d) => (p.down d).walk rest
      | some (.file content) =>
        if rest.isEmpty then .ok (.file content) else .error .notDirectory

/-- What a path leads to. -/
def find (p : Place) (path : String) : Except FileFault Entry :=
  let parts := (Text.splitAtChar '/' path.toList).map String.ofList
  if path.toList.contains '\x00' then .error .nulInPath
  else if path.isEmpty then .error .notFound
  else if path.utf8ByteSize > pathLimit then .error .nameTooLong
  else (if path.toList.head? = some '/' then p.root else p).walk parts

def readText (p : Place) (path : String) : Except FileFault String := do
  match ← p.find path with
  | .directory _ => throw .isDirectory
  | .file content =>
    match Text.decode? content with
    | some text => return text
    | none => throw .notText

end Place

inductive PrepareFault
  | noSource
  | unreadableFile (path : String) (fault : FileFault)
  | malformedFile (path : String) (fault : ConfigFault)
  | rejected (fault : ConfigFault)

namespace PrepareFault

/-- What was being done when the fault came up, for faults within a file. -/
def context? : PrepareFault → Option String
  | .unreadableFile path _ => some ("reading " ++ path)
  | .malformedFile path _ => some ("parsing " ++ path)
  | _ => none

def reason : PrepareFault → String
  | .noSource => "one of --config or --preset is required"
  | .unreadableFile _ fault => fault.message
  | .malformedFile _ fault => fault.message
  | .rejected fault => fault.message

def message (f : PrepareFault) : String :=
  match f.context? with
  | some context => context ++ ": " ++ f.reason
  | none => f.reason

end PrepareFault

def defaultBaseUrl : String := "http://localhost:8080"

/-- The configuration that the options start from. -/
def Options.source (o : Options) (file : String → Except FileFault String) :
    Except PrepareFault Config :=
  match o.config, o.preset with
  | some path, _ => do
    let text ← (file path).mapError (.unreadableFile path)
    let c ← (Config.parse text).mapError (.malformedFile path)
    return { c with baseUrl := o.baseUrl.getD c.baseUrl }
  | none, some preset => .ok (preset.config (o.baseUrl.getD defaultBaseUrl))
  | none, none => .error .noSource

/-- Puts the seed and the profiles of the options in place. -/
def Options.override (o : Options) (c : Config) : Config :=
  let c := { c with seed := o.seed.or c.seed }
  if o.profiles.isEmpty then c
  else { c with pattern := { c.pattern with profiles := o.profiles.map ProfileKind.profile } }

/-- The validated configuration that the options stand for. -/
def Options.prepare (o : Options) (file : String → Except FileFault String) :
    Except PrepareFault Config := do
  let c := o.override (← o.source file)
  c.validate.mapError .rejected
  return c

end PrecheckLoad.CommandLine
