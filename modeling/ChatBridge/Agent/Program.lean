import ChatBridge.Envelope.Event
import ChatBridge.Envelope.Fault

/-!
# Programs

What an agent does to serve a request, cut into its atomic steps. Each constructor is one step: it
looks at or changes what all requests share, waits at a gate, calls a service, or reports an event.
Between two steps of one program others may take theirs.
-/

namespace ChatBridge

structure ServiceCall where
  canister : String
  method : String
  args : Json
deriving Repr, Inhabited

/-- Where requests wait for each other: one looks up the current user at a time, and one saves the
user cache at a time. -/
inductive Gate where
  | resolving
  | saving
deriving DecidableEq, Repr, Inhabited

inductive Program (α : Type) where
  | done (a : α)
  | fail (f : Fault)
  | userCanister (next : Option String → Program α)
  | setUserCanister (canister : String) (next : Program α)
  | enter (g : Gate) (next : Program α)
  | leave (g : Gate) (next : Program α)
  | call (c : ServiceCall) (next : Except ServiceFailure Json → Program α)
  | users (next : UserLookup → Program α)
  | upsert (users : List UserSummary) (next : Nat → Program α)
  /-- Saves these users in the place of the cache file; failure goes unnoticed. -/
  | save (users : UserLookup) (next : Program α)
  | emit (e : Event) (next : Program α)

namespace Program

variable {α β : Type}

def bind : Program α → (α → Program β) → Program β
  | .done a, f => f a
  | .fail e, _ => .fail e
  | .userCanister next, f => .userCanister fun c => (next c).bind f
  | .setUserCanister canister next, f => .setUserCanister canister (next.bind f)
  | .enter g next, f => .enter g (next.bind f)
  | .leave g next, f => .leave g (next.bind f)
  | .call c next, f => .call c fun r => (next r).bind f
  | .users next, f => .users fun us => (next us).bind f
  | .upsert us next, f => .upsert us fun n => (next n).bind f
  | .save us next, f => .save us (next.bind f)
  | .emit e next, f => .emit e (next.bind f)

instance : Monad Program where
  pure := .done
  bind := .bind

end Program
end ChatBridge
