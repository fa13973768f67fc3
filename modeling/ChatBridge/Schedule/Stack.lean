import ChatBridge.Schedule.Client
import ChatBridge.Schedule.Worker
import ChatBridge.Stack

/-!
# The schedule of client and worker together

Calls go first, then requests are carried and served, then answers are carried and handed out. The
user cache is saved when nothing else can be done.
-/

namespace ChatBridge

structure StackRun where
  client : ClientRun
  worker : WorkerRun

namespace StackRun

variable (r : StackRun)

def stack : Stack := ⟨r.client.client, r.worker.worker⟩

def withStack (s : Stack) : StackRun :=
  ⟨{ r.client with client := s.client }, { r.worker with worker := s.worker }⟩

def act? (a : Stack.Action) : Option StackRun := (r.stack.step? a).map r.withStack

def act (a : Stack.Action) : StackRun := (r.act? a).getD r

def withClient (c : Option ClientRun) : Option StackRun := c.map fun c => { r with client := c }

def withWorker (w : Option WorkerRun) : Option StackRun := w.map fun w => { r with worker := w }

def closeRequests? : Option StackRun :=
  if r.client.client.outboxOpen then r.act? .closeRequests else none

def closeReplies? : Option StackRun :=
  if r.client.client.inboxOpen then r.act? .closeReplies else none

def next? : Option StackRun :=
  r.closeRequests? <|> r.withClient r.client.advanceAny? <|> r.act? .carryRequest
    <|> r.withWorker r.worker.act <|> r.act? .carryReply <|> r.withClient r.client.handle?
    <|> r.withWorker r.worker.save? <|> r.closeReplies?

def alarm? : Option Nat :=
  match r.client.alarm?, r.worker.alarm? with
  | some a, some b => some (min a b)
  | some a, none => some a
  | none, b => b

/-- Of two alarms at the same moment the worker's goes off first. -/
def ring : StackRun :=
  match r.client.alarm?, r.worker.alarm? with
  | some a, some b =>
    if a < b then { r with client := r.client.ring } else { r with worker := r.worker.ring }
  | some _, none => { r with client := r.client.ring }
  | none, _ => { r with worker := r.worker.ring }

end StackRun

instance : Timed StackRun where
  now r := r.client.now
  setNow t r := ⟨{ r.client with now := t }, { r.worker with now := t }⟩
  next? := StackRun.next?
  alarm? := StackRun.alarm?
  ring := StackRun.ring

end ChatBridge
