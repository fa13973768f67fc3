import ChatBridge.Chat.Wire
import ChatBridge.User.Wire

/-!
# Events

What an agent reports without being asked.
-/

namespace ChatBridge

inductive Event where
  /-- A chat has been read on another device. -/
  | readElsewhere (chatId : ChatId) (readByMeUpTo : Option MessageIndex)
      (threadsRead : List ThreadRead)
  | storageUpdated (status : StorageStatus)
  | usersLoaded (users : List UserSummary)
deriving DecidableEq, Repr, Inhabited

namespace Event

def readElsewhereVariant : Variant Event :=
  .record "AgentEvent" "MessagesReadFromServer" "messages_read_from_server"
    (.cons (.required "chatId") <| .cons (.optional "readByMeUpTo") <|
      .cons (.required "threadsRead") .nil)
    fun (chatId, readByMeUpTo, threadsRead, _) => .readElsewhere chatId readByMeUpTo threadsRead

def storageUpdatedVariant : Variant Event :=
  .record "AgentEvent" "StorageUpdated" "storage_updated" (.cons (.required "status") .nil)
    fun (status, _) => .storageUpdated status

def usersLoadedVariant : Variant Event :=
  .record "AgentEvent" "UsersLoaded" "users_loaded" (.cons (.required "users") .nil)
    fun (users, _) => .usersLoaded users

def tagged : Tagged Event where
  name := "AgentEvent"
  tag := "subkind"
  variants := [readElsewhereVariant, storageUpdatedVariant, usersLoadedVariant]
  view
    | .readElsewhere chatId readByMeUpTo threadsRead =>
      ⟨readElsewhereVariant, (chatId, readByMeUpTo, threadsRead, ())⟩
    | .storageUpdated status => ⟨storageUpdatedVariant, (status, ())⟩
    | .usersLoaded users => ⟨usersLoadedVariant, (users, ())⟩

def subkind (e : Event) : String := (tagged.view e).1.word

end Event

instance : Wire Event := ⟨Event.tagged.codec⟩

end ChatBridge
