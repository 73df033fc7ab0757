import PrecheckLoad.CommandLine.Prepare
import PrecheckLoad.CommandLine.Reader
import PrecheckLoad.Delivery
import PrecheckLoad.Run

/-!
# The program

Prepares a run from the command line and rehearses it on virtual time. The report goes to standard
output, everything else to standard error. The exit code is that of the verdict, or tells that
there was no run.
-/
namespace PrecheckLoad.CommandLine

def usage : String :=
  Text.joinWith "\n" [
    "Runs synthetic traffic for a precheck endpoint and judges it against thresholds.",
    "",
    "  -c, --config FILE      a run configuration",
    "  -p, --preset NAME      a built-in run",
    "  -b, --base-url URL     the address of the service",
    "  -s, --seed NUMBER      the seed of every random choice",
    "      --profile NAME     a profile in place of the configured ones; may be repeated",
    "      --json             the report as JSON",
    "      --list-presets     the built-in runs",
    "  -h, --help             this text",
    "  -V, --version          the version"]

def version : String := "precheck-load 0.1.0"

/-- The exit code for arguments that cannot be read. -/
def exitUsage : UInt32 := 2

def readText (path : String) : IO (Except FileFault String) := do
  try
    let bytes ← IO.FS.readBinFile path
    match String.fromUTF8? bytes with
    | some text => return .ok text
    | none => return .error .notText
  catch e =>
    match e with
    | .noFileOrDirectory .. => return .error .notFound
    | _ => return .error (.other (toString e))

/-- Reads the file that the options name, if they name one. -/
def Options.file (o : Options) : IO (String → Except FileFault String) := do
  match o.config with
  | none => return fun _ => .error .notFound
  | some path =>
    let text ← readText path
    return fun _ => text

/-- Rehearses a run and prints its report. -/
def rehearse (t : LoadTest) (json : Bool) : IO UInt32 := do
  let seed ← match t.config.seed with
    | some seed => pure seed
    | none => UInt64.ofNat <$> IO.rand 0 (Nat.pow 2 64 - 1)
  match t.run seed (Delivery.rehearse t.config.requestTimeout) with
  | .error _ =>
    IO.eprintln "the run is too long"
    return UInt32.ofNat exitRejected
  | .ok (_, report) =>
    IO.println (if json then report.toJson.pretty else report.text)
    return UInt32.ofNat report.verdict.exitCode

def start (o : Options) : IO UInt32 := do
  if o.listPresets then
    for p in Preset.all do IO.println p.name
    return 0
  match o.prepare (← o.file) with
  | .error f =>
    IO.eprintln f.message
    return UInt32.ofNat exitRejected
  | .ok c =>
    match LoadTest.ofConfig c with
    | .error f =>
      IO.eprintln f.message
      return UInt32.ofNat exitRejected
    | .ok t => rehearse t o.json

end PrecheckLoad.CommandLine

open PrecheckLoad.CommandLine in
def main (args : List String) : IO UInt32 := do
  match parse args with
  | .ok o => start o
  | .error .displayHelp =>
    IO.println usage
    return 0
  | .error .displayVersion =>
    IO.println version
    return 0
  | .error f =>
    IO.eprintln f.message
    return exitUsage
