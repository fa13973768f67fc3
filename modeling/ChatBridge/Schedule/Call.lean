import ChatBridge.Schedule.Stack

/-!
# Calls of a stack

Starting calls and waiting for them. A service call that the schedule leaves open is answered from
outside as soon as nothing else can be done; the time that takes passes for everything.
-/

namespace ChatBridge.StackRun

variable (r : StackRun)

def call (e : Errand) : StackRun := r.act (.client (.call e))

def callCount : Nat := r.client.client.calls.length

def result? (n : Nat) : Option CallResult := r.client.client.result? n

def hasEnded (n : Nat) : Bool := (r.result? n).isSome

def answerOpen (task : Nat) (reply : ServiceReply) : StackRun :=
  let r := Timed.runFor reply.delay r
  { r with worker := r.worker.answer task reply.ending }

section
variable {m : Type → Type} [Monad m]

/-- Waits for the end of a call; what is left open is answered by `serve`. -/
def awaitLoop (serve : ServiceCall → m ServiceReply) (n : Nat) : Nat → StackRun → m StackRun
  | 0, r => pure r
  | fuel + 1, r => do
    let r := Timed.settleUntil (·.hasEnded n) Timed.patience r
    if r.hasEnded n then return r
    match r.worker.openCall?, Timed.alarm? r with
    | some (task, c), _ => do
      let reply ← serve c
      awaitLoop serve n fuel (r.answerOpen task reply)
    | none, some due => awaitLoop serve n fuel (Timed.wake due r)
    | none, none => return r

def ask (serve : ServiceCall → m ServiceReply) (e : Errand) : StateT StackRun m CallResult := do
  let n := (← get).callCount
  modify (·.call e)
  set (← (awaitLoop serve n Timed.patience (← get) : m StackRun))
  return ((← get).result? n).getD (.error .disconnected)

def request (serve : ServiceCall → m ServiceReply) (c : Capability) (request : c.Request) :
    StateT StackRun m (Except BridgeError c.Response) := do
  let t := RequestType.ofCapability c
  return t.readResult (← ask serve (t.errand request))

end
end ChatBridge.StackRun
