import ChatBridge.Agent.Basic
import ChatBridge.Agent.Operations
import ChatBridge.Backlog
import ChatBridge.Envelope.Basic

/-!
# The worker

The worker takes envelopes from its inbox one after the other. It sets up the agent itself; every
other request that it knows becomes a task, and tasks take their steps in any order. Each ends with
one answer in the outbox. The events of the agent reach the outbox through a backlog.

`Worker.step?` says which actions are possible and what they do. What the worker cannot decide, such
as the answer of a service, comes with the action.
-/

namespace ChatBridge

inductive CallEnd where
  | answered (r : Except ServiceFailure Json)
  /-- The call goes down and takes the task with it. -/
  | crashed

inductive Phase where
  | running
  | queued
  | calling
deriving DecidableEq, Repr

structure Task where
  number : Nat
  correlationId : String
  kind : String
  program : Program Json
  phase : Phase

structure Worker where
  inbox : List Envelope
  outbox : List Envelope
  /-- Nobody takes what is put into the outbox any more. -/
  abandoned : Bool
  serving : Bool
  /-- A request to set up the agent that waits for the identity. -/
  settingUp : Option (String × AgentConfig)
  agent : Option Agent
  tasks : List Task
  nextTask : Nat
  /-- Events on the way to the outbox; `none` while nothing forwards them. -/
  events : Option (Backlog Event)
  calls : List ServiceCall
  /-- `none` where the user cache is kept in memory. -/
  disk : Option DataDir
  now : UInt64

namespace Worker

def start (disk : Option DataDir) (now : UInt64) : Worker where
  inbox := []
  outbox := []
  abandoned := false
  serving := true
  settingUp := none
  agent := none
  tasks := []
  nextTask := 0
  events := none
  calls := []
  disk := disk
  now := now

inductive Action where
  | receive
  | provide (p : Provided)
  | run (task : Nat)
  | endCall (task : Nat) (e : CallEnd)
  | forward
  /-- No more envelopes are taken; an agent that is being set up comes first. -/
  | stop
  | abandon
  | halt

variable (w : Worker)

def post (e : Envelope) : Worker := if w.abandoned then w else { w with outbox := w.outbox ++ [e] }

/-! ## Requests -/

def openCache : UserCache :=
  match w.disk with
  | some d => .openIn d w.now
  | none => .inMemory

def setUp (id : String) (config : AgentConfig) (identity : Identity) : Worker :=
  { w with
    agent := some (.start config identity w.openCache)
    events := some (.empty Limits.unreadEvents) }.post (.response id .null)

/-- Nobody signed in leaves the request without an answer. -/
def endSetUp (id : String) (config : AgentConfig) (p : Provided) : Worker :=
  let w := { w with settingUp := none }
  match resolveIdentity p with
  | .ok (some identity) => w.setUp id config identity
  | .ok none => w
  | .error e => w.post (.error id (.internal e.message))

def handleSetUp (id : String) (payload : Json) : Worker :=
  match (Wire.codec : Codec AgentConfig).ofValue payload with
  | .error r => w.post (.error id (.invalidPayload initKind r.message))
  | .ok config =>
    if w.agent.isSome then w.post (.response id .null)
    else { w with settingUp := some (id, config) }

def spawn (config : AgentConfig) (id : String) (c : Capability) (payload : Json) : Worker :=
  { w with
    tasks := w.tasks ++ [⟨w.nextTask, id, c.kind, Operation.handle config c payload, .running⟩]
    nextTask := w.nextTask + 1 }

/-- Requests of an unknown kind are passed over, with an agent and without. -/
def handle : Envelope → Worker
  | .request id kind payload =>
    if kind = initKind then w.handleSetUp id payload
    else
      match Capability.ofKind? kind, w.agent with
      | none, _ => w
      | some _, none => w.post (.error id .agentNotInitialized)
      | some c, some a => w.spawn a.config id c payload
  | _ => w

/-! ## Tasks -/

def task? (number : Nat) : Option Task := w.tasks.find? (·.number == number)

def setTask (t : Task) : Worker :=
  { w with tasks := w.tasks.map fun u => if u.number = t.number then t else u }

def proceed (t : Task) (p : Program Json) : Worker :=
  w.setTask { t with program := p, phase := .running }

def finish (t : Task) (answer : Envelope) : Worker :=
  { w with tasks := w.tasks.filter (·.number ≠ t.number) }.post answer

def emit (e : Event) : Worker := { w with events := w.events.map (·.push e) }

def saveUsers (users : UserLookup) (a : Agent) : Worker :=
  match w.disk with
  | some d => { w with disk := some ((UserCache.mk users a.cache.onDisk).save w.now d).1 }
  | none => w

def run? (a : Agent) (t : Task) : Option Worker :=
  let withAgent (a : Agent) : Worker := { w with agent := some a }
  match t.program, t.phase with
  | .done v, _ => some (w.finish t (.response t.correlationId v))
  | .fail f, _ => some (w.finish t (.error t.correlationId f))
  | .userCanister next, _ => some (w.proceed t (next a.userCanister))
  | .setUserCanister canister next, _ =>
    some ((withAgent { a with userCanister := some canister }).proceed t next)
  | .enter g _, .running =>
    some ((withAgent (a.enter g t.number)).setTask { t with phase := .queued })
  | .enter g next, _ => if a.isInside g t.number then some (w.proceed t next) else none
  | .leave g next, _ => some ((withAgent (a.leave g t.number)).proceed t next)
  | .call c _, .running =>
    some ({ w with calls := w.calls ++ [c] }.setTask { t with phase := .calling })
  | .call _ _, _ => none
  | .users next, _ => some (w.proceed t (next a.cache.users))
  | .upsert users next, _ =>
    let (cache, count) := a.cache.upsert users
    some ((withAgent { a with cache := cache }).proceed t (next count))
  | .save users next, _ => some ((w.saveUsers users a).proceed t next)
  | .emit e next, _ => some ((w.emit e).proceed t next)

/-- A crash is answered as an internal fault, and the task leaves its gates. -/
def endCall? (a : Agent) (t : Task) (e : CallEnd) : Option Worker :=
  match t.program, t.phase, e with
  | .call _ next, .calling, .answered r => some (w.proceed t (next r))
  | .call _ _, .calling, .crashed =>
    some ({ w with agent := some (a.abandon t.number) }.finish t
      (.error t.correlationId (.internal (t.kind ++ " handler panicked"))))
  | _, _, _ => none

/-! ## Steps -/

def receive? : Option Worker :=
  match w.serving, w.settingUp, w.inbox with
  | true, none, e :: rest => some ({ w with inbox := rest }.handle e)
  | _, _, _ => none

/-- What was missed is not told to anybody. An abandoned outbox ends the forwarding. -/
def forward? : Option Worker :=
  match w.events.bind Backlog.next? with
  | none => none
  | some (.missed _, rest) => some { w with events := some rest }
  | some (.item e, rest) =>
    if w.abandoned then some { w with events := none }
    else some ({ w with events := some rest }.post (.event e))

def step? : Action → Option Worker
  | .receive => w.receive?
  | .provide p => w.settingUp.map fun (id, config) => w.endSetUp id config p
  | .run n =>
    match w.agent, w.task? n with
    | some a, some t => w.run? a t
    | _, _ => none
  | .endCall n e =>
    match w.agent, w.task? n with
    | some a, some t => w.endCall? a t e
    | _, _ => none
  | .forward => w.forward?
  | .stop => if w.serving && w.settingUp.isNone then some { w with serving := false } else none
  | .abandon => some { w with abandoned := true }
  | .halt =>
    some { w with serving := false, settingUp := none, tasks := [], events := none }

def isOver : Bool :=
  !w.serving && w.tasks.isEmpty && (w.events.all (·.isEmpty))

end Worker
end ChatBridge
