import ChatBridge.Capability

/-!
# Commands

What can be asked for on the command line, and the dialogue with the worker that each command is: a
few requests, and at the end the value that is printed.
-/

namespace ChatBridge

inductive Command where
  | initialState
  | updates
  | users (ids : List UserId) (allowStale : Bool)
  | cachedUsers
  | checkUsername (username : String)
  /-- The bio of a user, the own one by default. -/
  | bio (user : Option UserId)
  | pin (chat : ChatId)
  | unpin (chat : ChatId)
  | storage
  | online
  | watch
deriving DecidableEq, Repr, Inhabited

inductive Dialogue where
  | ask (c : Capability) (request : c.Request) (next : c.Response → Dialogue)
  | print (value : Json)
  | watch

namespace Dialogue

def single (c : Capability) (request : c.Request) : Dialogue :=
  .ask c request fun response => .print (c.responseCodec.write response)

inductive Ending where
  | value (j : Json)
  | watching
deriving Repr, Inhabited

/-- Holds a dialogue with whoever answers its requests. The first that fails ends it. -/
def hold {m : Type → Type} [Monad m] {ε : Type}
    (answer : (c : Capability) → c.Request → m (Except ε c.Response)) :
    Dialogue → m (Except ε Ending)
  | .print value => pure (.ok (.value value))
  | .watch => pure (.ok .watching)
  | .ask c request next => do
    match ← answer c request with
    | .ok response => hold answer (next response)
    | .error e => return .error e

end Dialogue

/-- The share is a double even where it is whole. -/
def StorageStatus.report (s : StorageStatus) : Json :=
  .obj [("byteLimit", .num (.natural s.byteLimit)), ("bytesUsed", .num (.natural s.bytesUsed)),
    ("percentUsed", .num (.double s.percentUsed))]

namespace Command

def dialogue : Command → Dialogue
  | .initialState => .single .getInitialState ()
  | .updates => .ask .getInitialState () fun initial => .single .getUpdates initial.state
  | .users ids allowStale => .single .getUsers ⟨ids, allowStale⟩
  | .cachedUsers => .single .getAllCachedUsers ()
  | .checkUsername username => .single .checkUsername username
  | .bio user => .single .getBio user
  | .pin chat => .single .pinChat chat
  | .unpin chat => .single .unpinChat chat
  | .storage => .ask .getUserStorageLimits () fun status => .print status.report
  | .online => .ask .markAsOnline () fun _ => .print (.obj [("online", .bool true)])
  | .watch => .watch

end Command

def Json.printed (pretty : Bool) (j : Json) : String :=
  (if pretty then j.pretty else j.compact) ++ "\n"

end ChatBridge
