import ChatBridge.Stack

/-!
# The runtime

A runtime keeps a worker in a thread of its own and hands out a client to it. It can be shut down
once: it tells the worker to stop and waits until the thread is over. Giving the runtime up does the
same.

The worker stops only when it is told to, unless its thread breaks down. It lets go of the channel
that brings its requests before it lets go of the one that takes its answers.
-/

namespace ChatBridge

inductive RuntimeStage where
  | running
  | stopping
  | over
deriving DecidableEq, Repr

structure Runtime where
  stack : Stack
  stage : RuntimeStage

namespace Runtime

def start (config : AgentConfig) (timeout : Nat) (d : DataDir) (now : UInt64) :
    Except DiskError Runtime :=
  d.makeDirectory.map fun d => ⟨⟨.connect config timeout, .start (some d) now⟩, .running⟩

inductive Action where
  | stack (a : Stack.Action)
  | shutDown
  | join

variable (r : Runtime)

/-- The client takes from its inbox as long as anything may be put into it, so the outbox of the
worker is never abandoned. -/
def permits : Stack.Action → Bool
  | .worker .stop => r.stage ≠ .running
  | .worker .abandon => false
  | .closeReplies => !r.stack.client.outboxOpen
  | _ => true

def threadOver : Bool := r.stack.worker.isOver && !r.stack.client.outboxOpen

def shutDown? : Option Runtime :=
  match r.stage with
  | .running => some { r with stage := .stopping }
  | .stopping => none
  | .over => some r

def join? : Option Runtime :=
  if r.stage = .stopping ∧ r.threadOver then some { r with stage := .over } else none

def step? : Action → Option Runtime
  | .stack a => if r.permits a then (r.stack.step? a).map fun s => { r with stack := s } else none
  | .shutDown => r.shutDown?
  | .join => r.join?

end Runtime
end ChatBridge
