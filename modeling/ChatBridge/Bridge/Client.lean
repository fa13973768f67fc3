import ChatBridge.Backlog
import ChatBridge.Bridge.Error
import ChatBridge.Capability
import ChatBridge.Envelope.Basic

/-!
# The client

A client sends requests to a worker and hands each answer to the call that waits for it. The first
call sets up the agent; all others wait until that has succeeded. A call ends with the answer that
carries its id, with a timeout, or when no answer can come any more.

`Client.step?` says which actions are possible and what they do. Each is as small as the parts of a
call can be interrupted: a call that has run out of time takes its entry off the table in a step of
its own, and its answer may arrive before that.
-/

namespace ChatBridge

inductive Readiness where
  | pending
  | ready
  | failed
deriving DecidableEq, Repr, Inhabited

inductive Errand where
  | setUp (config : AgentConfig)
  | awaitReady
  | request (kind : String) (payload : Json)
deriving Repr

def Errand.message? : Errand → Option (String × Json)
  | .setUp config => some (initKind, (Wire.codec : Codec AgentConfig).toValue config)
  | .awaitReady => none
  | .request kind payload => some (kind, payload)

inductive Slot where
  | empty
  | answer (r : Except Fault Json)
  /-- No answer will come. -/
  | dropped
deriving Repr

abbrev CallResult := Except BridgeError Json

def Slot.result? : Slot → Option CallResult
  | .empty => none
  | .answer (.ok v) => some (.ok v)
  | .answer (.error f) => some (.error (.worker f))
  | .dropped => some (.error .disconnected)

inductive CallPhase where
  | waiting
  /-- In the table, but not sent. -/
  | registered
  | sent
  | expired
  /-- The time is over, and the entry was not in the table any more. -/
  | late
  | finished (r : CallResult)
  | cancelled
deriving Repr

structure Call where
  errand : Errand
  id : Option String
  phase : CallPhase
  slot : Slot
deriving Repr

def Call.result? (call : Call) : Option CallResult :=
  match call.phase with
  | .finished r => some r
  | _ => none

structure Client where
  timeout : Nat
  readiness : Readiness
  calls : List Call
  /-- The table of calls that wait for an answer: the id of each and its number. -/
  pending : List (String × Nat)
  /-- Ids of requests that timed out, the oldest first. -/
  unresolved : List String
  inbox : List Envelope
  inboxOpen : Bool
  /-- Whether envelopes are still taken from the inbox. -/
  listening : Bool
  outbox : List Envelope
  outboxOpen : Bool
  subscribers : List (String × Backlog Event)
deriving Repr

namespace Client

def connect (config : AgentConfig) (timeout : Nat) : Client where
  timeout := timeout
  readiness := .pending
  calls := [⟨.setUp config, none, .waiting, .empty⟩]
  pending := []
  unresolved := []
  inbox := []
  inboxOpen := true
  listening := true
  outbox := []
  outboxOpen := true
  subscribers := []

inductive Action where
  | call (e : Errand)
  /-- A call ends its waiting without a request: it was for nothing else, or it is in vain. -/
  | dismiss (call : Nat)
  /-- A call enters the table under an id that no call has had. -/
  | register (call : Nat) (id : String)
  | send (call : Nat)
  | take (call : Nat)
  | expire (call : Nat)
  | withdraw (call : Nat)
  /-- A call whose entry was gone takes what it finds in its slot. -/
  | takeLate (call : Nat)
  | cancel (call : Nat)
  | handle
  /-- The inbox is empty for good. -/
  | endListening
  | deliver (e : Envelope)
  | closeInbox
  | closeOutbox
  | subscribe (name : String)
  | unsubscribe (name : String)

def Action.caller? : Action → Option Nat
  | .dismiss n => some n
  | .register n _ => some n
  | .send n => some n
  | .take n => some n
  | .expire n => some n
  | .withdraw n => some n
  | .takeLate n => some n
  | .cancel n => some n
  | _ => none

variable (c : Client)

/-! ## Calls -/

def setCall (n : Nat) (call : Call) : Client := { c with calls := c.calls.set n call }

/-- A call is over. The first one decides whether the client is ready. -/
def finish (n : Nat) (call : Call) (r : CallResult) : Client :=
  let c := c.setCall n { call with phase := .finished r }
  match call.errand, r with
  | .setUp _, .ok _ => { c with readiness := .ready }
  | .setUp _, .error _ => { c with readiness := .failed }
  | _, _ => c

def entry? (id : String) : Option Nat := c.pending.lookup id

def strike (id : String) : Client := { c with pending := c.pending.filter (·.1 ≠ id) }

def strikeOf (call : Call) : Client :=
  match call.id with
  | some id => c.strike id
  | none => c

def dismiss? (n : Nat) (call : Call) : Option Client :=
  match call.phase, call.errand, c.readiness with
  | .waiting, .awaitReady, .ready => some (c.finish n call (.ok .null))
  | .waiting, .awaitReady, .failed => some (c.finish n call (.error .notReady))
  | .waiting, .request _ _, .failed => some (c.finish n call (.error .notReady))
  | _, _, _ => none

def mayRegister (call : Call) : Bool :=
  match call.phase, call.errand with
  | .waiting, .setUp _ => true
  | .waiting, .request _ _ => c.readiness = .ready
  | _, _ => false

def register? (n : Nat) (call : Call) (id : String) : Option Client :=
  if c.mayRegister call && !c.calls.any (·.id == some id) then
    some ({ c with pending := c.pending ++ [(id, n)] }.setCall n
      { call with id := some id, phase := .registered })
  else none

def send? (n : Nat) (call : Call) : Option Client :=
  match call.phase, call.id, call.errand.message? with
  | .registered, some id, some (kind, payload) =>
    if c.outboxOpen then
      some ({ c with outbox := c.outbox ++ [Envelope.request id kind payload] }.setCall n
        { call with phase := .sent })
    else some ((c.strike id).finish n call (.error .disconnected))
  | _, _, _ => none

def take? (n : Nat) (call : Call) : Option Client :=
  match call.phase with
  | .sent => call.slot.result?.map fun r => (c.strikeOf call).finish n call r
  | _ => none

def expire? (n : Nat) (call : Call) : Option Client :=
  match call.phase with
  | .sent => some (c.setCall n { call with phase := .expired })
  | _ => none

/-- Remembers a request that timed out; the oldest makes room. -/
def remember (id : String) : Client :=
  let kept := if Limits.unresolved ≤ c.unresolved.length then c.unresolved.tail else c.unresolved
  { c with unresolved := kept ++ [id] }

def withdraw? (n : Nat) (call : Call) : Option Client :=
  match call.phase, call.id, call.errand.message? with
  | .expired, some id, some (kind, _) =>
    if (c.entry? id).isSome then
      some (((c.strike id).remember id).finish n call (.error (.timeout kind id c.timeout)))
    else some (c.setCall n { call with phase := .late })
  | _, _, _ => none

def takeLate? (n : Nat) (call : Call) : Option Client :=
  match call.phase with
  | .late => some (c.finish n call (call.slot.result?.getD (.error .disconnected)))
  | _ => none

/-- Setting up goes on whoever loses patience. -/
def cancel? (n : Nat) (call : Call) : Option Client :=
  match call.phase, call.errand with
  | .finished _, _ => none
  | .cancelled, _ => none
  | _, .setUp _ => none
  | _, _ => some ((c.strikeOf call).setCall n { call with phase := .cancelled })

/-! ## Envelopes -/

/-- Hands an answer to the call that waits for it. An answer nobody waits for only settles a request
that timed out. -/
def complete (id : String) (r : Except Fault Json) : Client :=
  match c.entry? id with
  | some n =>
    { c.strike id with calls := c.calls.modify n fun call => { call with slot := .answer r } }
  | none => { c with unresolved := c.unresolved.erase id }

def receive : Envelope → Client
  | .response id value => c.complete id (.ok value)
  | .error id f => c.complete id (.error f)
  | .event e => { c with subscribers := c.subscribers.map fun (name, b) => (name, b.push e) }
  | .request _ _ _ => c

def handle? : Option Client :=
  match c.listening, c.inbox with
  | true, e :: rest => some ({ c with inbox := rest }.receive e)
  | _, _ => none

def endListening? : Option Client :=
  if c.listening && c.inbox.isEmpty && !c.inboxOpen then
    let waiting := c.pending.map (·.2)
    some { c with
      listening := false
      pending := []
      calls := c.calls.mapIdx fun n call =>
        if waiting.contains n then { call with slot := .dropped } else call }
  else none

/-! ## Steps -/

def withCall (n : Nat) (f : Call → Option Client) : Option Client := (c.calls[n]?).bind f

def step? : Action → Option Client
  | .call e =>
    match e with
    | .setUp _ => none
    | _ => some { c with calls := c.calls ++ [⟨e, none, .waiting, .empty⟩] }
  | .dismiss n => c.withCall n (c.dismiss? n)
  | .register n id => c.withCall n (c.register? n · id)
  | .send n => c.withCall n (c.send? n)
  | .take n => c.withCall n (c.take? n)
  | .expire n => c.withCall n (c.expire? n)
  | .withdraw n => c.withCall n (c.withdraw? n)
  | .takeLate n => c.withCall n (c.takeLate? n)
  | .cancel n => c.withCall n (c.cancel? n)
  | .handle => c.handle?
  | .endListening => c.endListening?
  | .deliver e => if c.inboxOpen then some { c with inbox := c.inbox ++ [e] } else none
  | .closeInbox => some { c with inboxOpen := false }
  | .closeOutbox => some { c with outboxOpen := false }
  | .subscribe name =>
    some { c with subscribers := c.subscribers ++ [(name, .empty Limits.unreadEvents)] }
  | .unsubscribe name => some { c with subscribers := c.subscribers.filter (·.1 ≠ name) }

def result? (n : Nat) : Option CallResult := (c.calls[n]?).bind Call.result?

end Client

/-! ## Typed requests -/

namespace RequestType

variable (t : RequestType)

def errand (r : t.Request) : Errand := .request t.kind (t.requestCodec.toValue r)

def readResult (r : CallResult) : Except BridgeError t.Response :=
  r.bind fun v => (t.responseCodec.ofValue v).mapError (.undecodable t.kind)

end RequestType
end ChatBridge
