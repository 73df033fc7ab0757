import PrecheckLoad.Fleet.User
import PrecheckLoad.Service

/-!
# Delivering requests

What becomes of a request between the generator and a service. A request with an address or a
header that may not be sent fails at once; one that nobody listens for fails to connect. A request
whose reply would come later than the time allowed is given up, and the service drops it.
-/
namespace PrecheckLoad.Delivery

def isTokenChar (c : Char) : Bool :=
  Text.isLetter c || Text.isDigit c || "!#$%&'*+-.^_`|~".toList.contains c

/-- The most bytes of the name of a header. -/
def headerNameLimit : Nat := 65535

def validHeaderName (name : String) : Bool :=
  !name.isEmpty && name.utf8ByteSize ≤ headerNameLimit && name.toList.all isTokenChar

/-- Anything but controls, of which the tab is allowed. -/
def validHeaderValue (value : String) : Bool :=
  value.toList.all fun c => c = '\t' || (c.toNat ≥ 32 && c.toNat ≠ 127)

def validHeaders (hs : Headers) : Bool :=
  hs.all fun h => validHeaderName h.1 && validHeaderValue h.2

/-- Quotes and braces may stand in a name, but not in the host of a target. -/
def validHost (host : List Char) : Bool :=
  host.all fun c => !"\"`\x7b\x7d".toList.contains c

/-- The most bytes of an address. -/
def urlLimit : Nat := 65534

def validUrl (url : String) : Bool :=
  url.utf8ByteSize ≤ urlLimit && (Url.validate url).isOk &&
    (Url.Address.ofText url).toOption.any fun a => a.host.all validHost

def sendable (r : Request) : Bool :=
  validUrl r.url && validHeaders r.headers

/-- The request as the service sees it. -/
def received (r : Request) : ServiceRequest where
  method := r.method
  path := Service.pathOf r.url
  headers := r.headers.map fun h => (h.1, Text.encode h.2)
  body := r.body

/-- Sends a request to a service, if there is one behind the address. -/
def send (timeout : Duration) (listener : Option Service) (r : Request) :
    Outcome × Option Service :=
  if !sendable r then (.failure .request, listener)
  else match listener with
    | none => (.failure .connect, none)
    | some s =>
      let (reply, s') := s.handle (received r)
      if s'.now - s.now > timeout.nanos then (.failure .timeout, some (s.advance timeout.nanos))
      else (.response ⟨UInt16.ofNat reply.status, Text.encode reply.body⟩, some s')

/-- A request of a rehearsal: it is answered by a service of its own, after a time that a service
may well take. -/
def rehearse (timeout : Duration) (r : Request) : Exchange where
  travel := 20
  outcome := (send timeout (some (Service.ofConfig {})) r).1
  latency := .ofMillis 20
  travel_pos := by decide

end PrecheckLoad.Delivery
