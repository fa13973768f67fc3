import ChatBridge.Chat.Wire
import ChatBridge.Snapshot.Merge

/-!
# Snapshots and deltas on the wire

An avatar update says what happened under one member and to which blob under another. When the blob comes
first it is set aside until the other is known.
-/

namespace ChatBridge

namespace AvatarUpdate

inductive Kind where
  | removed
  | set
deriving DecidableEq, Repr

def words : Words Kind where
  all := [.removed, .set]
  word
    | .removed => "removed"
    | .set => "set"

/-- The blob, or what stands in its place. -/
def readContent (o : Origin) (n : Node) : Kind → Reading AvatarUpdate
  | .removed => (readUnit "unit variant AvatarIdUpdate::Removed" n).map fun _ => .removed
  | .set => (Wire.read o n).map .set

def withoutContent : Kind → Reading AvatarUpdate
  | .removed => .ok .removed
  | .set => .error (.missingField "blobId")

inductive Progress where
  | nothing
  | kind (k : Kind)
  | content (n : Node)
  | done (a : AvatarUpdate)

def absorb (o : Origin) (key : String) (n : Node) : Progress → Reading Progress
  | p =>
    if key = "kind" then
      match p with
      | .nothing => do return .kind (← words.read o n)
      | .content c => do return .done (← readContent .setAside c (← words.read o n))
      | _ => throw (.duplicateField key)
    else if key = "blobId" then
      match p with
      | .nothing => do
        n.setAside
        return .content n
      | .kind k => do return .done (← readContent o n k)
      | _ => throw (.duplicateField key)
    else do
      n.skip
      return p

def absorbAll (o : Origin) : List (String × Node) → Progress → Reading Progress
  | [], p => .ok p
  | (key, n) :: ms, p => do absorbAll o ms (← absorb o key n p)

def finish : Progress → Reading AvatarUpdate
  | .nothing => .error (.missingField "kind")
  | .content _ => .error (.missingField "kind")
  | .kind k => withoutContent k
  | .done a => .ok a

def title : String := "adjacently tagged enum AvatarIdUpdate"

def read (o : Origin) : Node → Reading AvatarUpdate
  | .obj members ending => do
    let p ← absorbAll o members .nothing
    intact ending.break?
    finish p
  | .arr [] ending => do
    intact ending.break?
    throw (.invalidLength 0 title)
  | .arr [n] ending => do
    let _ ← words.readWord n
    intact ending.break?
    throw (.invalidLength 1 title)
  | .arr (n :: content :: left) ending => do
    let v ← words.readWord n
    let a ← readContent o content v
    Fields.checkEnd o ending (left.length + 2) 2 left
    return a
  | n => n.refuse title

def write : AvatarUpdate → Json
  | .removed => .obj [("kind", "removed")]
  | .set blobId => .obj [("kind", "set"), ("blobId", Wire.write blobId)]

end AvatarUpdate

instance : Wire AvatarUpdate := ⟨AvatarUpdate.read, AvatarUpdate.write⟩

def Transaction.record : Record Transaction where
  name := "Transaction"
  Parts := UInt64 × UInt64 × String × UInt64 × Unit
  fields :=
    .cons (.required "index") <| .cons (.required "timestamp") <| .cons (.required "token") <|
    .cons (.required "amount") .nil
  make := fun (index, timestamp, token, amount, _) => ⟨index, timestamp, token, amount⟩
  parts t := (t.index, t.timestamp, t.token, t.amount, ())

instance : Wire Transaction := ⟨Transaction.record.codec⟩

def UpdatedChat.record : Record UpdatedChat where
  name := "UpdatedChat"
  Parts := ChatSummary × List UInt32 × Unit
  fields := .cons (.required "summary") <| .cons (.defaulted "affectedEvents" []) .nil
  make := fun (summary, affectedEvents, _) => ⟨summary, affectedEvents⟩
  parts u := (u.summary, u.affectedEvents, ())

instance : Wire UpdatedChat := ⟨UpdatedChat.record.codec⟩

def Delta.record : Record Delta where
  name := "UpdatesResponse"
  Parts := UInt64 × List ChatSummary × List UpdatedChat × KeySet String × Option (KeySet String) ×
    Option (List String) × Option AvatarUpdate × Option UInt64 × List Transaction × Unit
  fields :=
    .cons (.required "timestamp") <| .cons (.defaulted "chatsAdded" []) <|
    .cons (.defaulted "chatsUpdated" []) <| .cons (.defaulted "chatsRemoved" ∅) <|
    .cons (.defaulted "blockedUsers" none) <| .cons (.defaulted "pinnedChats" none) <|
    .cons (.defaulted "avatarIdUpdate" none) <| .cons (.defaulted "cyclesBalance" none) <|
    .cons (.defaulted "transactions" []) .nil
  make := fun (timestamp, chatsAdded, chatsUpdated, chatsRemoved, blockedUsers, pinnedChats,
      avatarUpdate, cyclesBalance, transactions, _) =>
    ⟨timestamp, chatsAdded, chatsUpdated, chatsRemoved, blockedUsers, pinnedChats, avatarUpdate,
      cyclesBalance, transactions⟩
  parts d := (d.timestamp, d.chatsAdded, d.chatsUpdated, d.chatsRemoved, d.blockedUsers,
    d.pinnedChats, d.avatarUpdate, d.cyclesBalance, d.transactions, ())

instance : Wire Delta := ⟨Delta.record.codec⟩

def InitialState.record : Record InitialState where
  name := "InitialStateResponse"
  Parts := UInt64 × List ChatSummary × KeySet String × List String × Option UInt64 × Unit
  fields :=
    .cons (.required "timestamp") <| .cons (.defaulted "chats" []) <|
    .cons (.defaulted "blockedUsers" ∅) <| .cons (.defaulted "pinnedChats" []) <|
    .cons (.defaulted "cyclesBalance" none) .nil
  make := fun (timestamp, chats, blockedUsers, pinnedChats, cyclesBalance, _) =>
    ⟨timestamp, chats, blockedUsers, pinnedChats, cyclesBalance⟩
  parts i := (i.timestamp, i.chats, i.blockedUsers, i.pinnedChats, i.cyclesBalance, ())

instance : Wire InitialState := ⟨InitialState.record.codec⟩

def Snapshot.record : Record Snapshot where
  name := "ChatStateSnapshot"
  Parts := List ChatSummary × KeySet String × List String × UInt64 × Option AvatarUpdate ×
    KeyMap String (KeySet UInt32) × Unit
  fields :=
    .cons (.required "chatSummaries") <| .cons (.defaulted "blockedUsers" ∅) <|
    .cons (.defaulted "pinnedChats" []) <| .cons (.required "timestamp") <|
    .cons (.defaulted "avatarIdUpdate" none) <| .cons (.defaulted "affectedEvents" ∅) .nil
  make := fun (chats, blockedUsers, pinnedChats, timestamp, avatarUpdate, affectedEvents, _) =>
    ⟨chats, blockedUsers, pinnedChats, timestamp, avatarUpdate, affectedEvents⟩
  parts s := (s.chats, s.blockedUsers, s.pinnedChats, s.timestamp, s.avatarUpdate,
    s.affectedEvents, ())

instance : Wire Snapshot := ⟨Snapshot.record.codec⟩

def GroupCursor.record : Record GroupCursor where
  name := "GroupChatUpdatesSince"
  Parts := String × UInt64 × Unit
  fields := .cons (.required "chatId") <| .cons (.required "updatesSince") .nil
  make := fun (chatId, updatesSince, _) => ⟨chatId, updatesSince⟩
  parts g := (g.chatId, g.updatesSince, ())

instance : Wire GroupCursor := ⟨GroupCursor.record.codec⟩

def Cursor.record : Record Cursor where
  name := "UpdatesSince"
  Parts := UInt64 × List GroupCursor × Unit
  fields := .cons (.required "timestamp") <| .cons (.required "groupChats") .nil
  make := fun (timestamp, groupChats, _) => ⟨timestamp, groupChats⟩
  parts c := (c.timestamp, c.groupChats, ())

instance : Wire Cursor := ⟨Cursor.record.codec⟩

def Merged.record : Record Merged where
  name := "MergedUpdates"
  Parts := Bool × Snapshot × Unit
  fields := .cons (.required "wasUpdated") <| .cons (.required "state") .nil
  make := fun (wasUpdated, state, _) => ⟨wasUpdated, state⟩
  parts m := (m.wasUpdated, m.state, ())

instance : Wire Merged := ⟨Merged.record.codec⟩

end ChatBridge
