import ChatBridge.Agent.Program
import ChatBridge.Config
import ChatBridge.Identity
import ChatBridge.UserCache.Basic

/-!
# Agents

What all requests of a signed-in user share: the canister of the user once it is known, the user
cache, and the two gates. A gate is the queue of the tasks at it; the first is the one inside.
-/

namespace ChatBridge

structure Agent where
  config : AgentConfig
  identity : Identity
  userCanister : Option String
  cache : UserCache
  resolving : List Nat
  saving : List Nat
deriving DecidableEq

namespace Agent

def start (config : AgentConfig) (identity : Identity) (cache : UserCache) : Agent :=
  ⟨config, identity, config.userCanister, cache, [], []⟩

def queue (a : Agent) : Gate → List Nat
  | .resolving => a.resolving
  | .saving => a.saving

def setQueue (a : Agent) (g : Gate) (tasks : List Nat) : Agent :=
  match g with
  | .resolving => { a with resolving := tasks }
  | .saving => { a with saving := tasks }

def enter (a : Agent) (g : Gate) (task : Nat) : Agent := a.setQueue g (a.queue g ++ [task])

def leave (a : Agent) (g : Gate) (task : Nat) : Agent := a.setQueue g ((a.queue g).erase task)

def isInside (a : Agent) (g : Gate) (task : Nat) : Bool := (a.queue g).head? == some task

/-- A task that ends in the middle of its program is taken out of the gates. -/
def abandon (a : Agent) (task : Nat) : Agent := (a.leave .resolving task).leave .saving task

end Agent
end ChatBridge
