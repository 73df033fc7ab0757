import PrecheckLoad.Json.Decoder
import PrecheckLoad.Text.Basic

/-!
# Requests and outcomes

A request is built for exactly one iteration. Header names compare without case; the first match
counts. An outcome is a response, or a failure to get one, each with the time it took.
-/
namespace PrecheckLoad

abbrev Headers := List (String × String)

def Headers.find? (hs : Headers) (name : String) : Option String :=
  (List.find? (fun h => Text.sameName h.1 name) hs).map (·.2)

/-- Sets a header in place, or adds it at the end. -/
def Headers.set (hs : Headers) (name value : String) : Headers :=
  match hs with
  | [] => [(name, value)]
  | (k, v) :: rest =>
    if Text.sameName k name then (k, value) :: rest else (k, v) :: Headers.set rest name value

structure Request where
  method : String := "POST"
  url : String
  body : Text.Bytes
  headers : Headers
deriving DecidableEq

namespace Request

def header (r : Request) (name : String) : Option String :=
  r.headers.find? name

/-- The body as JSON, objects sorted by key. -/
def json? (r : Request) : Option Json := do
  let text ← Text.decode? r.body
  match Json.decodeText Json.Decode.any text with
  | .ok v => some v.canonical
  | .error _ => none

end Request

inductive FailureKind
  | timeout
  | connect
  | body
  | request
deriving DecidableEq, Repr

def FailureKind.name : FailureKind → String
  | .timeout => "timeout"
  | .connect => "connect"
  | .body => "body"
  | .request => "request"

structure Response where
  status : UInt16
  body : Text.Bytes
deriving DecidableEq

def Response.text (r : Response) : String :=
  Text.decodeLossy r.body

inductive Outcome
  | response (r : Response)
  | failure (kind : FailureKind)
deriving DecidableEq

def Outcome.status? : Outcome → Option UInt16
  | .response r => some r.status
  | .failure _ => none

def Outcome.response? : Outcome → Option Response
  | .response r => some r
  | .failure _ => none

end PrecheckLoad
