import PrecheckLoad.Duration.Basic
import PrecheckLoad.Json.Record
import PrecheckLoad.Pacing
import PrecheckLoad.Pattern.Request
import PrecheckLoad.Preset

/-!
# A precheck service

A stand-in for the service under test. It keeps a stock and the users who bought; each user buys at
most once and the stock is never oversold. An identity claimed in a header counts only if the
service is told to trust it. Requests are dealt with one after the other on a clock of nanoseconds.
-/
namespace PrecheckLoad

structure ServiceConfig where
  /-- Units for sale. -/
  stock : Nat := 1000
  maxRate : Option Rate := none
  /-- Time spent on each request before it is looked at, in full milliseconds. -/
  delay : Duration := .zero
  trustHeader : Bool := false

structure Inventory where
  stock : Nat
  buyers : List String := []
deriving DecidableEq, Repr

structure Service where
  config : ServiceConfig
  inventory : Inventory
  limiter : Option Limiter
  now : Nat := 0

/-- A header as it came over the wire. -/
abbrev RawHeader := String × Text.Bytes

structure ServiceRequest where
  method : String := "POST"
  path : String := Config.precheckPath
  headers : List RawHeader := []
  body : Text.Bytes := []

structure Reply where
  status : Nat
  body : String
deriving DecidableEq, Repr

namespace Reply

def notFound : Reply := ⟨404, ""⟩

def methodNotAllowed : Reply := ⟨405, ""⟩

def tooLarge : Reply := ⟨413, "Failed to buffer the request body: length limit exceeded"⟩

end Reply

/-- What a buyer can be told. -/
inductive Answer
  | accepted
  | alreadyPurchased
  | soldOut
  | forcedFailure
  | rateLimited
  | incomplete
  | invalidBody
deriving DecidableEq, Repr

namespace Answer

def status : Answer → Nat
  | .accepted => 200
  | .alreadyPurchased => 409
  | .soldOut => 409
  | .forcedFailure => 500
  | .rateLimited => 429
  | .incomplete => 400
  | .invalidBody => 400

def code : Answer → String
  | .accepted => "OK"
  | .alreadyPurchased => Preset.alreadyPurchasedMark
  | .soldOut => Preset.soldOutMark
  | .forcedFailure => "ERROR"
  | .rateLimited => "RATE_LIMITED"
  | .incomplete => "BAD_REQUEST"
  | .invalidBody => "BAD_REQUEST"

def text : Answer → String
  | .accepted => "precheck passed"
  | .alreadyPurchased => "user already purchased"
  | .soldOut => "sold out"
  | .forcedFailure => "forced failure"
  | .rateLimited => "slow down"
  | .incomplete => "user_id and product_id are required"
  | .invalidBody => "invalid body"

def reply (a : Answer) : Reply where
  status := a.status
  body := (Json.object [("message", .string a.text), ("status", .string a.code)]).compact

end Answer

/-- What a body says; null is as good as nothing. -/
structure Purchase where
  user : Option String := none
  product : Option Json := none

def Purchase.record : Json.Record Purchase where
  title := "a purchase"
  start := {}
  fields := [
    .of .inArrays "user_id" (Json.Decode.nullable Json.Decode.string)
      (fun x p => { p with user := x }),
    { Json.Field.of .inArrays "product_id" (Json.Decode.nullable Json.Decode.any)
        (fun x p => { p with product := x }) with also := some "product" }]

/-- Bytes that are no text are harmless where a reader skips them and a fault where it does not,
just as a trailing surrogate is that has no partner; so that is what they are replaced by, behind a
character that nothing can escape and that is no partner. -/
def bodyText (body : Text.Bytes) : String :=
  match Text.decode? body with
  | some text => text
  | none => Text.decodeMarked "\uFFFD\\udc00" body

def Purchase.read (body : Text.Bytes) : Option Purchase :=
  (Json.decodeText record.read (bodyText body)).toOption

/-- A value that can be read as text: visible ASCII, blanks and tabs. -/
def readable? (v : Text.Bytes) : Option String :=
  if v.all fun b => (0x20 ≤ b && b < 0x7F) || b = 0x09 then
    some (String.ofList (v.map fun b => Char.ofNat b.toNat))
  else none

/-- Only the first of several claims counts. -/
def claimed? (hs : List RawHeader) : Option String :=
  (hs.find? fun h => Text.sameName h.1 claimHeader).bind fun h => readable? h.2

namespace Service

def ofConfig (c : ServiceConfig) : Service where
  config := c
  inventory := ⟨c.stock, []⟩
  limiter := c.maxRate.map fun r => .perSecond r.perSecond r.perSecond

def advance (s : Service) (ns : Nat) : Service :=
  { s with now := s.now + ns }

/-- The sale itself. -/
def sellFrom (i : Inventory) (user : String) : Answer × Inventory :=
  if user = failureSentinel then (.forcedFailure, i)
  else if i.buyers.contains user then (.alreadyPurchased, i)
  else if i.stock = 0 then (.soldOut, i)
  else (.accepted, ⟨i.stock - 1, user :: i.buyers⟩)

def sell (s : Service) (user : String) : Answer × Service :=
  let (a, i) := sellFrom s.inventory user
  (a, { s with inventory := i })

/-- Passes the limiter, if there is one. -/
def passLimiter (s : Service) : Option Service :=
  match s.limiter with
  | none => some s
  | some l =>
    match l.check s.now with
    | .ok l => some { s with limiter := some l }
    | .error _ => none

/-- Deals with a request to the precheck path, after the delay. -/
def precheck (s : Service) (r : ServiceRequest) : Answer × Service :=
  match Purchase.read r.body with
  | none => (.invalidBody, s)
  | some p =>
    let claimed := if s.config.trustHeader then claimed? r.headers else none
    match claimed.or p.user, p.product with
    | some user, some _ =>
      match s.passLimiter with
      | some s => s.sell user
      | none => (.rateLimited, s)
    | _, _ => (.incomplete, s)

/-- The scheme of a target may start with any of these, and may be empty. -/
def isSchemeChar (c : Char) : Bool :=
  Url.isSchemeChar c || c = '~'

/-- The path of a target: no scheme and host in front, no query behind. -/
def pathOf (target : String) : String :=
  let cs := target.toList.takeWhile fun c => c ≠ '?' ∧ c ≠ '#'
  let cs := match cs.dropWhile isSchemeChar with
    | ':' :: '/' :: '/' :: rest => rest.dropWhile (· ≠ '/')
    | _ => cs
  String.ofList cs

/-- Longer bodies are not read. -/
def bodyLimit : Nat := 2097152

/-- Answers a request; one that is turned away costs nothing and changes nothing. -/
def handle (s : Service) (r : ServiceRequest) : Reply × Service :=
  if pathOf r.path ≠ Config.precheckPath then (.notFound, s)
  else if r.method ≠ "POST" then (.methodNotAllowed, s)
  else if r.body.length > bodyLimit then (.tooLarge, s)
  else
    let wait := Duration.ceilMillis s.config.delay.nanos * 1000000
    let (a, s) := (s.advance wait).precheck r
    (a.reply, s)

end Service
end PrecheckLoad
