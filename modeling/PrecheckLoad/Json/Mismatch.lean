import PrecheckLoad.Duration.Reader
import PrecheckLoad.Json.Node
import PrecheckLoad.Text.Quoted

/-!
# What a JSON text has wrong

Either the text is at fault, or it is well formed and says something other than what was expected.
-/
namespace PrecheckLoad.Json

/-- What was found, as far as a message shows it. -/
inductive Found
  | null
  | bool (b : Bool)
  | int (n : Int)
  | float (x : Float)
  | string (s : String)
  | sequence
  | map
  | unitVariant

def Found.text : Found → String
  | .null => "null"
  | .bool b => "boolean `" ++ (if b then "true" else "false") ++ "`"
  | .int n => "integer `" ++ String.ofList (intChars n) ++ "`"
  | .float x => "floating point `" ++ Decimal.scientific x ++ "`"
  | .string s => "string " ++ Text.quoted s
  | .sequence => "sequence"
  | .map => "map"
  | .unitVariant => "unit variant"

inductive Mismatch
  | missingField (name : String)
  | duplicateField (name : String)
  | unknownVariant (name : String) (known : List String)
  | wrongType (found : Found) (expected : String)
  | wrongValue (found : Found) (expected : String)
  | wrongLength (length : Nat) (expected : String)
  | wrongDuration (cause : Duration.PhraseError)

/-- The alternatives of a choice: two are joined by a word, more make a list. -/
def oneOf (names : List String) : String :=
  let ticked := names.map fun n => "`" ++ n ++ "`"
  match ticked with
  | [] => "there are no variants"
  | [a] => "expected " ++ a
  | [a, b] => "expected " ++ a ++ " or " ++ b
  | many => "expected one of " ++ Text.joinWith ", " many

def Mismatch.message : Mismatch → String
  | .missingField name => "missing field `" ++ name ++ "`"
  | .duplicateField name => "duplicate field `" ++ name ++ "`"
  | .unknownVariant name known => "unknown variant `" ++ name ++ "`, " ++ oneOf known
  | .wrongType found expected => "invalid type: " ++ found.text ++ ", expected " ++ expected
  | .wrongValue found expected => "invalid value: " ++ found.text ++ ", expected " ++ expected
  | .wrongLength n expected => "invalid length " ++ toString n ++ ", expected " ++ expected
  | .wrongDuration cause => cause.message

inductive Fault
  | text (f : TextFault)
  | mismatch (m : Mismatch)
  /-- A duration in the text is out of range. -/
  | overflow

def malformed : Fault := .text .malformed

def cut : Fault := .text .cut

end PrecheckLoad.Json
