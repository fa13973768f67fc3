import ChatBridge.Chat.Basic
import ChatBridge.Wire.Tagged

/-!
# Chats on the wire

The kind of a chat travels among the members of its summary, so that every member which is none of
the summary's own is taken for one of the kind's.
-/

namespace ChatBridge

namespace ChatKind

def directVariant : Variant ChatKind :=
  .record "ChatKind" "Direct" "direct" (.cons (.required "them") .nil) fun (them, _) => .direct them

def groupFields : Fields (String × String × Bool × UInt32 × Unit) :=
  .cons (.required "name") <| .cons (.defaulted "description" "") <|
  .cons (.defaulted "public" false) <| .cons (.defaulted "participantCount" 0) .nil

def groupVariant : Variant ChatKind :=
  .record "ChatKind" "Group" "group" groupFields
    fun (name, description, isPublic, participants, _) =>
      .group name description isPublic participants

def tagged : Tagged ChatKind where
  name := "ChatKind"
  tag := "kind"
  variants := [directVariant, groupVariant]
  view
    | .direct them => ⟨directVariant, (them, ())⟩
    | .group name description isPublic participants =>
      ⟨groupVariant, (name, description, isPublic, participants, ())⟩

end ChatKind

instance : Wire ChatKind := ⟨ChatKind.tagged.codec⟩

def MessageSummary.record : Record MessageSummary where
  name := "MessageSummary"
  Parts := UInt32 × UInt32 × String × UInt64 × String × Unit
  fields :=
    .cons (.required "messageIndex") <| .cons (.required "eventIndex") <|
    .cons (.required "sender") <| .cons (.required "timestamp") <|
    .cons (.defaulted "text" "") .nil
  make := fun (messageIndex, eventIndex, sender, timestamp, text, _) =>
    ⟨messageIndex, eventIndex, sender, timestamp, text⟩
  parts m := (m.messageIndex, m.eventIndex, m.sender, m.timestamp, m.text, ())

instance : Wire MessageSummary := ⟨MessageSummary.record.codec⟩

def ThreadRead.record : Record ThreadRead where
  name := "ThreadRead"
  Parts := UInt32 × UInt32 × Unit
  fields := .cons (.required "rootMessageIndex") <| .cons (.required "readUpTo") .nil
  make := fun (rootMessageIndex, readUpTo, _) => ⟨rootMessageIndex, readUpTo⟩
  parts t := (t.rootMessageIndex, t.readUpTo, ())

instance : Wire ThreadRead := ⟨ThreadRead.record.codec⟩

namespace ChatSummary

abbrev Own := ChatId × Option MessageSummary × UInt32 × UInt64 × Option UInt32 × List ThreadRead ×
  Bool × Bool × UInt64 × Unit

def ownFields : Fields Own :=
  .cons (.required "chatId") <| .cons (.defaulted "latestMessage" none) <|
  .cons (.defaulted "latestEventIndex" 0) <| .cons (.required "dateCreated") <|
  .cons (.defaulted "readByMeUpTo" none) <| .cons (.defaulted "threadsRead" []) <|
  .cons (.defaulted "notificationsMuted" false) <| .cons (.defaulted "archived" false) <|
  .cons (.defaulted "lastUpdated" 0) .nil

def ofOwn (kind : ChatKind) : Own → ChatSummary :=
  fun (chatId, latestMessage, latestEventIndex, dateCreated, readByMeUpTo, threadsRead,
      notificationsMuted, archived, lastUpdated, _) =>
    ⟨chatId, kind, latestMessage, latestEventIndex, dateCreated, readByMeUpTo, threadsRead,
      notificationsMuted, archived, lastUpdated⟩

def own (c : ChatSummary) : Own :=
  (c.chatId, c.latestMessage, c.latestEventIndex, c.dateCreated, c.readByMeUpTo, c.threadsRead,
    c.notificationsMuted, c.archived, c.lastUpdated, ())

/-- Own members are read as they come, the others are set aside. -/
def absorbAll (o : Origin) :
    List (String × Node) → ownFields.Slots → Reading (ownFields.Slots × List (String × Node))
  | [], slots => .ok (slots, [])
  | (key, n) :: ms, slots =>
    if ownFields.names.contains key then do
      absorbAll o ms (← ownFields.absorb o key n slots)
    else do
      n.setAside
      let (slots, others) ← absorbAll o ms slots
      return (slots, (key, n) :: others)

def read (o : Origin) : Node → Reading ChatSummary
  | .obj members ending => do
    let (slots, others) ← absorbAll o members ownFields.vacant
    intact ending.break?
    let own ← ownFields.finish slots
    let kind ← ChatKind.tagged.readMembers .setAside others .closed
    return ofOwn kind own
  | n => n.refuse "struct ChatSummary"

/-- The kind is written right behind the id. -/
def write (c : ChatSummary) : Json :=
  let own := ownFields.write c.own
  .obj (own.take 1 ++ ChatKind.tagged.members c.kind ++ own.drop 1)

end ChatSummary

instance : Wire ChatSummary := ⟨ChatSummary.read, ChatSummary.write⟩

end ChatBridge
