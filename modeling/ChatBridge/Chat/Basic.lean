/-!
# Chats

A chat is a conversation with one other user or a group. What a client keeps of it is a summary: the
latest message, how far it has been read, and a few settings.

In the chat list pinned chats come first, in the order in which they are pinned, then the others, the
most recently active first. Chats that compare equal keep the order they had.
-/

namespace ChatBridge

abbrev ChatId := String
abbrev UserId := String
abbrev MessageIndex := UInt32
abbrev EventIndex := UInt32

inductive ChatKind where
  | direct (them : UserId)
  | group (name description : String) (isPublic : Bool) (participants : UInt32)
deriving DecidableEq, Repr, Inhabited

structure MessageSummary where
  messageIndex : MessageIndex
  eventIndex : EventIndex
  sender : UserId
  /-- Milliseconds since 1970. -/
  timestamp : UInt64
  text : String
deriving DecidableEq, Repr, Inhabited

structure ThreadRead where
  rootMessageIndex : MessageIndex
  readUpTo : MessageIndex
deriving DecidableEq, Repr, Inhabited

structure ChatSummary where
  chatId : ChatId
  kind : ChatKind
  latestMessage : Option MessageSummary
  latestEventIndex : EventIndex
  dateCreated : UInt64
  readByMeUpTo : Option MessageIndex
  threadsRead : List ThreadRead
  notificationsMuted : Bool
  archived : Bool
  lastUpdated : UInt64
deriving DecidableEq, Repr, Inhabited

namespace ChatSummary

def isGroup (c : ChatSummary) : Bool :=
  match c.kind with
  | .group .. => true
  | .direct _ => false

/-- When the chat was last active: at its latest message, or else when it was created. -/
def activity (c : ChatSummary) : UInt64 :=
  match c.latestMessage with
  | some m => m.timestamp
  | none => c.dateCreated

/-- Messages behind the read position, stopping at the largest number there is. -/
def unreadCount (c : ChatSummary) : UInt32 :=
  match c.latestMessage, c.readByMeUpTo with
  | none, _ => 0
  | some m, some read => if read ≤ m.messageIndex then m.messageIndex - read else 0
  | some m, none => if m.messageIndex = 0xffffffff then m.messageIndex else m.messageIndex + 1

end ChatSummary

/-! ## The order of the chat list -/

def pinnedAt (pinned : List ChatId) (c : ChatSummary) : Option Nat :=
  pinned.findIdx? (· == c.chatId)

def compareChats (pinned : List ChatId) (a b : ChatSummary) : Ordering :=
  match pinnedAt pinned a, pinnedAt pinned b with
  | some i, some j => compare i j
  | some _, none => .lt
  | none, some _ => .gt
  | none, none => compare b.activity.toNat a.activity.toNat

def sortChats (pinned : List ChatId) (chats : List ChatSummary) : List ChatSummary :=
  chats.mergeSort fun a b => (compareChats pinned a b).isLE

end ChatBridge
