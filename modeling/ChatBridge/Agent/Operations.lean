import ChatBridge.Agent.Program
import ChatBridge.Capability
import ChatBridge.Identity

/-!
# What an agent does

One program for each capability. The user index and the online service have fixed canisters; the
canister of the current user is looked up when it is first needed, and whoever else needs it
meanwhile waits for that look-up.
-/

namespace ChatBridge

namespace Operation

def args (members : List (String × Json)) : Json := (Json.obj members).ordered

def ask (α : Type) [w : Wire α] (canister method : String) (args : Json) :
    Program (Except Fault α) :=
  .call ⟨canister, method, args⟩ fun
    | .error e => .done (.error e.toFault)
    | .ok j =>
      match w.codec.ofValue j with
      | .ok a => .done (.ok a)
      | .error r => .done (.error (.undecodable method r.message))

def orFail {α : Type} : Except Fault α → Program α
  | .ok a => .done a
  | .error f => .fail f

def request (α : Type) [Wire α] (canister method : String) (args : Json) : Program α := do
  orFail (← ask α canister method args)

/-! ## The current user -/

variable (config : AgentConfig)

def askCurrentUser : Program (Except Fault CurrentUser) :=
  ask CurrentUser config.userIndexCanister "current_user" (args [])

def lookUpUserCanister : Program String := do
  match ← askCurrentUser config with
  | .ok (.created user) =>
    .setUserCanister user.canisterId <| .leave .resolving <| .done user.canisterId
  | .ok .unknown => .leave .resolving <| .fail (ServiceFailure.missingCanister "user").toFault
  | .error f => .leave .resolving <| .fail f

/-- The canister of the current user. Whoever gets through the gate looks again, since the one
before may have found it. -/
def userCanister : Program String :=
  .userCanister fun
    | some canister => .done canister
    | none =>
      .enter .resolving <| .userCanister fun
        | some canister => .leave .resolving <| .done canister
        | none => lookUpUserCanister config

def getCurrentUser : Program CurrentUser := do
  let user ← orFail (← askCurrentUser config)
  match user with
  | .created u => .setUserCanister u.canisterId <| .done user
  | .unknown => .done user

def ofUser (α : Type) [Wire α] (method : String) (members : List (String × Json)) : Program α := do
  request α (← userCanister config) method (args members)

/-! ## Chats -/

def getInitialState : Program Merged := do
  let i ← ofUser config InitialState "initial_state" [("disableCache", .bool false)]
  return i.toMerged

/-- The read positions in a delta that are not those of the snapshot. -/
def readChanges (s : Snapshot) (d : Delta) : List Event :=
  d.chatsUpdated.filterMap fun u =>
    let c := u.summary
    let changed := match s.chat? c.chatId with
      | some known => known.readByMeUpTo ≠ c.readByMeUpTo || known.threadsRead ≠ c.threadsRead
      | none => c.readByMeUpTo.isSome || !c.threadsRead.isEmpty
    if changed then some (.readElsewhere c.chatId c.readByMeUpTo c.threadsRead) else none

def emitAll : List Event → Program Unit
  | [] => .done ()
  | e :: es => .emit e (emitAll es)

def getUpdates (s : Snapshot) : Program Merged := do
  let d ← ofUser config Delta "updates" [("updatesSince", Wire.write s.cursor)]
  emitAll (readChanges s d)
  return s.merge d

/-! ## Users -/

/-- Takes users into the cache and, if that changes it, saves it. What is saved is read behind the
gate, so that the last file holds all that was taken in. -/
def cacheUsers (users : List UserSummary) : Program Unit :=
  .upsert users fun
    | 0 => .done ()
    | _ + 1 => .enter .saving <| .users fun all => .save all <| .leave .saving <| .done ()

def fetchUsers (known : List UserSummary) (missing : List UserId) : Program UsersAnswer := do
  if missing.isEmpty then return ⟨none, known⟩
  let fetched ← request UsersAnswer config.userIndexCanister "users"
    (args [("userIds", Wire.write missing)])
  cacheUsers fetched.users
  if !fetched.users.isEmpty then emitAll [.usersLoaded fetched.users]
  return ⟨fetched.serverTimestamp, known ++ fetched.users⟩

/-- Where stale answers will do, only the users that are not cached are fetched. -/
def getUsers (q : UsersQuery) : Program UsersAnswer :=
  if q.allowStale then
    .users fun all =>
      fetchUsers config (q.userIds.filterMap all.get?) (q.userIds.filter (!all.contains ·))
  else fetchUsers config [] q.userIds

def getStorage : Program StorageStatus := do
  let s ← request StorageStatus config.userIndexCanister "user_storage" (args [])
  .emit (.storageUpdated s) <| .done s

def markAsOnline : Program Unit := do
  let _ ← request Json config.onlineCanister "mark_as_online" (args [])
  return ()

/-- The id of a user is also the canister that holds their bio. -/
def getBio : Option UserId → Program String
  | some id => request String id "bio" (args [])
  | none => ofUser config String "bio" []

def markMessagesRead (m : ReadMark) : Program MarkReadOutcome :=
  ofUser config MarkReadOutcome "mark_read"
    [("chatId", .str m.chatId), ("readUpTo", Wire.write m.readUpTo),
      ("threads", Wire.write m.threads)]

def aboutChat (α : Type) [Wire α] (method : String) (id : ChatId) : Program α :=
  ofUser config α method [("chatId", .str id)]

def aboutUser (α : Type) [Wire α] (method : String) (id : UserId) : Program α :=
  ofUser config α method [("userId", .str id)]

/-! ## All of them -/

def serve : (c : Capability) → c.Request → Program c.Response
  | .getCurrentUser, _ => getCurrentUser config
  | .getInitialState, _ => getInitialState config
  | .getUpdates, s => getUpdates config s
  | .getUsers, q => getUsers config q
  | .getAllCachedUsers, _ => .users .done
  | .checkUsername, name =>
    request CheckUsernameOutcome config.userIndexCanister "check_username"
      (args [("username", .str name)])
  | .setUsername, name =>
    request SetUsernameOutcome config.userIndexCanister "set_username"
      (args [("username", .str name)])
  | .getUserStorageLimits, _ => getStorage config
  | .markAsOnline, _ => markAsOnline config
  | .markMessagesRead, m => markMessagesRead config m
  | .pinChat, id => aboutChat config PinChatOutcome "pin_chat" id
  | .unpinChat, id => aboutChat config ChatOutcome "unpin_chat" id
  | .archiveChat, id => aboutChat config ChatOutcome "archive_chat" id
  | .unarchiveChat, id => aboutChat config ChatOutcome "unarchive_chat" id
  | .toggleMuteNotifications, m =>
    aboutChat config ChatOutcome (if m.muted then "mute_notifications" else "unmute_notifications")
      m.chatId
  | .blockUser, id => aboutUser config BlockOutcome "block_user" id
  | .unblockUser, id => aboutUser config BlockOutcome "unblock_user" id
  | .setBio, bio => ofUser config SetBioOutcome "set_bio" [("text", .str bio)]
  | .getBio, id => getBio config id
  | .leaveGroup, id => aboutChat config LeaveGroupOutcome "leave_group" id

def handle (c : Capability) (payload : Json) : Program Json :=
  match c.requestCodec.ofValue payload with
  | .error r => .fail (.invalidPayload c.kind r.message)
  | .ok req => do return c.responseCodec.toValue (← serve config c req)

end Operation
end ChatBridge
