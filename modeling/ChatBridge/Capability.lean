import ChatBridge.Config
import ChatBridge.Snapshot.Wire
import ChatBridge.User.Wire

/-!
# Capabilities

What a client can ask of the worker. Each capability has a kind, under which it travels, a type of
requests and a type of responses. Setting up the agent is a request too, but the worker answers it
itself; it is none of the capabilities.
-/

namespace ChatBridge

inductive Capability where
  | getCurrentUser | getInitialState | getUpdates | getUsers | getAllCachedUsers
  | checkUsername | setUsername | getUserStorageLimits | markAsOnline | markMessagesRead
  | pinChat | unpinChat | archiveChat | unarchiveChat | toggleMuteNotifications
  | blockUser | unblockUser | setBio | getBio | leaveGroup
deriving DecidableEq, Repr, Inhabited

structure UsersQuery where
  userIds : List UserId
  allowStale : Bool
deriving DecidableEq, Repr, Inhabited

structure ReadMark where
  chatId : ChatId
  readUpTo : Option MessageIndex
  threads : List ThreadRead
deriving DecidableEq, Repr, Inhabited

structure MuteChange where
  chatId : ChatId
  muted : Bool
deriving DecidableEq, Repr, Inhabited

def UsersQuery.record : Record UsersQuery where
  name := "GetUsers"
  Parts := List UserId × Bool × Unit
  fields := .cons (.required "userIds") <| .cons (.defaulted "allowStale" false) .nil
  make := fun (userIds, allowStale, _) => ⟨userIds, allowStale⟩
  parts q := (q.userIds, q.allowStale, ())

def ReadMark.record : Record ReadMark where
  name := "MarkMessagesRead"
  Parts := ChatId × Option MessageIndex × List ThreadRead × Unit
  fields :=
    .cons (.required "chatId") <| .cons (.optional "readUpTo") <| .cons (.defaulted "threads" []) .nil
  make := fun (chatId, readUpTo, threads, _) => ⟨chatId, readUpTo, threads⟩
  parts m := (m.chatId, m.readUpTo, m.threads, ())

def MuteChange.record : Record MuteChange where
  name := "ToggleMuteNotifications"
  Parts := ChatId × Bool × Unit
  fields := .cons (.required "chatId") <| .cons (.required "muted") .nil
  make := fun (chatId, muted, _) => ⟨chatId, muted⟩
  parts m := (m.chatId, m.muted, ())

def initKind : String := "init"

namespace Capability

def kind : Capability → String
  | .getCurrentUser => "getCurrentUser"
  | .getInitialState => "getInitialState"
  | .getUpdates => "getUpdates"
  | .getUsers => "getUsers"
  | .getAllCachedUsers => "getAllCachedUsers"
  | .checkUsername => "checkUsername"
  | .setUsername => "setUsername"
  | .getUserStorageLimits => "getUserStorageLimits"
  | .markAsOnline => "markAsOnline"
  | .markMessagesRead => "markMessagesRead"
  | .pinChat => "pinChat"
  | .unpinChat => "unpinChat"
  | .archiveChat => "archiveChat"
  | .unarchiveChat => "unarchiveChat"
  | .toggleMuteNotifications => "toggleMuteNotifications"
  | .blockUser => "blockUserFromDirectChat"
  | .unblockUser => "unblockUserFromDirectChat"
  | .setBio => "setBio"
  | .getBio => "getBio"
  | .leaveGroup => "leaveGroup"

def all : List Capability :=
  [.getCurrentUser, .getInitialState, .getUpdates, .getUsers, .getAllCachedUsers, .checkUsername,
    .setUsername, .getUserStorageLimits, .markAsOnline, .markMessagesRead, .pinChat, .unpinChat,
    .archiveChat, .unarchiveChat, .toggleMuteNotifications, .blockUser, .unblockUser, .setBio,
    .getBio, .leaveGroup]

def ofKind? (kind : String) : Option Capability := all.find? (·.kind == kind)

@[reducible] def Request : Capability → Type
  | .getCurrentUser => Unit
  | .getInitialState => Unit
  | .getUpdates => Snapshot
  | .getUsers => UsersQuery
  | .getAllCachedUsers => Unit
  | .checkUsername => String
  | .setUsername => String
  | .getUserStorageLimits => Unit
  | .markAsOnline => Unit
  | .markMessagesRead => ReadMark
  | .pinChat => ChatId
  | .unpinChat => ChatId
  | .archiveChat => ChatId
  | .unarchiveChat => ChatId
  | .toggleMuteNotifications => MuteChange
  | .blockUser => UserId
  | .unblockUser => UserId
  | .setBio => String
  | .getBio => Option UserId
  | .leaveGroup => ChatId

@[reducible] def Response : Capability → Type
  | .getCurrentUser => CurrentUser
  | .getInitialState => Merged
  | .getUpdates => Merged
  | .getUsers => UsersAnswer
  | .getAllCachedUsers => UserLookup
  | .checkUsername => CheckUsernameOutcome
  | .setUsername => SetUsernameOutcome
  | .getUserStorageLimits => StorageStatus
  | .markAsOnline => Unit
  | .markMessagesRead => MarkReadOutcome
  | .pinChat => PinChatOutcome
  | .unpinChat => ChatOutcome
  | .archiveChat => ChatOutcome
  | .unarchiveChat => ChatOutcome
  | .toggleMuteNotifications => ChatOutcome
  | .blockUser => BlockOutcome
  | .unblockUser => BlockOutcome
  | .setBio => SetBioOutcome
  | .getBio => String
  | .leaveGroup => LeaveGroupOutcome

def requestCodec : (c : Capability) → Codec c.Request
  | .getCurrentUser => .bare "GetCurrentUser"
  | .getInitialState => .bare "GetInitialState"
  | .getUpdates => .single "GetUpdates" (.required "currentState")
  | .getUsers => UsersQuery.record.codec
  | .getAllCachedUsers => .bare "GetAllCachedUsers"
  | .checkUsername => .single "CheckUsername" (.required "username")
  | .setUsername => .single "SetUsername" (.required "username")
  | .getUserStorageLimits => .bare "GetUserStorageLimits"
  | .markAsOnline => .bare "MarkAsOnline"
  | .markMessagesRead => ReadMark.record.codec
  | .pinChat => .single "PinChat" (.required "chatId")
  | .unpinChat => .single "UnpinChat" (.required "chatId")
  | .archiveChat => .single "ArchiveChat" (.required "chatId")
  | .unarchiveChat => .single "UnarchiveChat" (.required "chatId")
  | .toggleMuteNotifications => MuteChange.record.codec
  | .blockUser => .single "BlockUser" (.required "userId")
  | .unblockUser => .single "UnblockUser" (.required "userId")
  | .setBio => .single "SetBio" (.required "bio")
  | .getBio => .single "GetBio" (.defaulted "userId" none)
  | .leaveGroup => .single "LeaveGroup" (.required "chatId")

def responseCodec : (c : Capability) → Codec c.Response
  | .getCurrentUser => Wire.codec
  | .getInitialState => Wire.codec
  | .getUpdates => Wire.codec
  | .getUsers => Wire.codec
  | .getAllCachedUsers => Wire.codec
  | .checkUsername => Wire.codec
  | .setUsername => Wire.codec
  | .getUserStorageLimits => Wire.codec
  | .markAsOnline => Wire.codec
  | .markMessagesRead => Wire.codec
  | .pinChat => Wire.codec
  | .unpinChat => Wire.codec
  | .archiveChat => Wire.codec
  | .unarchiveChat => Wire.codec
  | .toggleMuteNotifications => Wire.codec
  | .blockUser => Wire.codec
  | .unblockUser => Wire.codec
  | .setBio => Wire.codec
  | .getBio => Wire.codec
  | .leaveGroup => Wire.codec

end Capability

/-- A kind of request with the types of what is sent and of what comes back. -/
structure RequestType where
  kind : String
  Request : Type
  Response : Type
  requestCodec : Codec Request
  responseCodec : Codec Response

namespace RequestType

def setUp : RequestType := ⟨initKind, AgentConfig, Unit, Wire.codec, Wire.codec⟩

def ofCapability (c : Capability) : RequestType :=
  ⟨c.kind, c.Request, c.Response, c.requestCodec, c.responseCodec⟩

def ofKind? (kind : String) : Option RequestType :=
  if kind = initKind then some setUp else (Capability.ofKind? kind).map ofCapability

end RequestType
end ChatBridge
