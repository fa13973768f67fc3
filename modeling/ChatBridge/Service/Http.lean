import ChatBridge.Agent.Program
import ChatBridge.Text.Basic
import ChatBridge.Text.Utf8
import ChatBridge.Url.Basic
import ChatBridge.Wire.Record

/-!
# Service calls through the gateway

A gateway gives every method of every canister an address, and a call is posted there as JSON.
Success answers with the value; any other status is a rejection, whose code and message the body may
give.
-/

namespace ChatBridge

structure Gateway where
  base : String
  principal : Option String
deriving DecidableEq, Repr, Inhabited

namespace Gateway

/-- Slashes at the end of the base do not count. -/
def ofBase (base : String) : Gateway :=
  ⟨String.ofList (Text.dropEndWhile (· = '/') base.toList), none⟩

def withPrincipal (g : Gateway) (principal : String) : Gateway :=
  { g with principal := some principal }

def endpoint (g : Gateway) (canister method : String) : String :=
  g.base ++ "/canister/" ++ canister ++ "/" ++ method

end Gateway

structure HttpRequest where
  url : Url
  authorization : Option String
  body : String
deriving DecidableEq, Repr, Inhabited

structure HttpResponse where
  status : Nat
  body : List UInt8
deriving DecidableEq, Repr, Inhabited

inductive TransportFault where
  | unwritable
  | unsupported (url : Url)
  | unreachable (url : Url)
deriving DecidableEq, Repr, Inhabited

def TransportFault.message : TransportFault → String
  | .unwritable => "builder error"
  | .unsupported url => "builder error for url (" ++ url.render ++ ")"
  | .unreachable url => "error sending request for url (" ++ url.render ++ ")"

/-! ## Requests -/

def isHeaderValue (s : String) : Bool :=
  s.toList.all fun c => c = '\t' || (0x20 ≤ c.toNat && c.toNat ≠ 0x7f)

/-- Hosts may hold characters that request addresses may not, and these are of limited size. -/
def Url.isWritable (url : Url) : Bool :=
  url.host.all (fun host => !host.toList.any ("\"`\x7b\x7d".toList.contains ·))
    && url.render.utf8ByteSize ≤ 65534

namespace Gateway

def request (g : Gateway) (c : ServiceCall) : Except TransportFault HttpRequest :=
  match (Url.ofText? (g.endpoint c.canister c.method)).map Url.withoutUser with
  | none => .error .unwritable
  | some url =>
    if url.host.isNone then .error (.unsupported url)
    else if !(g.principal.all isHeaderValue) then .error .unwritable
    else if (url.scheme = "http" || url.scheme = "https") && url.isWritable then
      .ok ⟨url, g.principal.map ("Bearer " ++ ·), c.args.compact⟩
    else .error (.unsupported url)

end Gateway

/-! ## Responses -/

structure RejectionBody where
  code : Option String
  message : Option String
deriving DecidableEq, Repr, Inhabited

def RejectionBody.record : Record RejectionBody where
  name := "RejectionBody"
  Parts := Option String × Option String × Unit
  fields := .cons (.optional "code") <| .cons (.optional "message") .nil
  make := fun (code, message, _) => ⟨code, message⟩
  parts b := (b.code, b.message, ())

namespace HttpResponse

/-- The status stands for a missing code, the whole body for a missing message. -/
def rejection (r : HttpResponse) (c : ServiceCall) : ServiceFailure :=
  let status := toString r.status
  let text := Text.ofBytes r.body
  match RejectionBody.record.codec.ofText text with
  | .ok b => .rejected c.canister c.method (b.code.getD status) (b.message.getD text)
  | .error _ => .rejected c.canister c.method status text

def value? (r : HttpResponse) : Option Json :=
  (String.fromUTF8? ⟨r.body.toArray⟩).bind fun text => (Json.parse? text).map Json.ordered

def isSuccess (r : HttpResponse) : Bool := 200 ≤ r.status && r.status < 300

def read (r : HttpResponse) (c : ServiceCall) : Except ServiceFailure Json :=
  if r.isSuccess then
    match r.value? with
    | some value => .ok value
    | none => .error (.undecodable c.method "error decoding response body")
  else .error (r.rejection c)

end HttpResponse

/-- Makes a call over a network, which may leave a request without a response. -/
def Gateway.call {m : Type → Type} [Monad m] (network : HttpRequest → m (Option HttpResponse))
    (g : Gateway) (c : ServiceCall) : m (Except ServiceFailure Json) := do
  match g.request c with
  | .error e => return .error (.transport c.method e.message)
  | .ok r =>
    match ← network r with
    | some response => return response.read c
    | none => return .error (.transport c.method (TransportFault.unreachable r.url).message)

end ChatBridge
