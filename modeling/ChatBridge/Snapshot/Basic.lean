import ChatBridge.Chat.Basic
import ChatBridge.Ordered.KeyMap

/-!
# Snapshots and deltas

A snapshot is the client's view of all its chats at one moment. It begins with the full list the
service sends first and moves on by deltas, each of which reports what has changed since a cursor.
-/

namespace ChatBridge

inductive AvatarUpdate where
  | removed
  | set (blobId : UInt64)
deriving DecidableEq, Repr, Inhabited

structure Transaction where
  index : UInt64
  timestamp : UInt64
  token : String
  amount : UInt64
deriving DecidableEq, Repr, Inhabited

structure UpdatedChat where
  summary : ChatSummary
  affectedEvents : List EventIndex
deriving DecidableEq, Repr, Inhabited

structure Delta where
  timestamp : UInt64
  chatsAdded : List ChatSummary
  chatsUpdated : List UpdatedChat
  chatsRemoved : KeySet ChatId
  blockedUsers : Option (KeySet UserId)
  pinnedChats : Option (List ChatId)
  avatarUpdate : Option AvatarUpdate
  cyclesBalance : Option UInt64
  transactions : List Transaction
deriving DecidableEq, Inhabited

/-- Whether there is anything in the delta but its timestamp. -/
def Delta.hasChanges (d : Delta) : Bool :=
  d.blockedUsers.isSome || d.pinnedChats.isSome || !d.chatsUpdated.isEmpty
    || !d.chatsAdded.isEmpty || !d.chatsRemoved.isEmpty || d.avatarUpdate.isSome
    || d.cyclesBalance.isSome || !d.transactions.isEmpty

structure InitialState where
  timestamp : UInt64
  chats : List ChatSummary
  blockedUsers : KeySet UserId
  pinnedChats : List ChatId
  cyclesBalance : Option UInt64
deriving DecidableEq, Inhabited

structure Snapshot where
  chats : List ChatSummary
  blockedUsers : KeySet UserId
  pinnedChats : List ChatId
  timestamp : UInt64
  avatarUpdate : Option AvatarUpdate
  affectedEvents : KeyMap ChatId (KeySet EventIndex)
deriving DecidableEq, Inhabited

structure GroupCursor where
  chatId : ChatId
  updatesSince : UInt64
deriving DecidableEq, Repr, Inhabited

structure Cursor where
  timestamp : UInt64
  groupChats : List GroupCursor
deriving DecidableEq, Repr, Inhabited

namespace Snapshot

def chat? (s : Snapshot) (id : ChatId) : Option ChatSummary := s.chats.find? (·.chatId == id)

def cursor (s : Snapshot) : Cursor :=
  ⟨s.timestamp, (s.chats.filter (·.isGroup)).map fun c => ⟨c.chatId, c.lastUpdated⟩⟩

end Snapshot
end ChatBridge
