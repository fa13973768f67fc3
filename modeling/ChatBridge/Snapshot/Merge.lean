import ChatBridge.Chat.Basic
import ChatBridge.Snapshot.Basic

/-!
# Merging deltas

`Snapshot.merge` brings a snapshot up to date. Within a delta an update counts more than an addition
of the same chat, the last of several more than the others, and a removal more than all of them.
Chats that are already listed are replaced where they stand, new ones are appended, and the list is
then brought into its order.
-/

namespace ChatBridge

namespace Delta

def summaries (d : Delta) : List ChatSummary := d.chatsAdded ++ d.chatsUpdated.map (·.summary)

/-- The last summary of each chat. -/
def incoming (d : Delta) : KeyMap ChatId ChatSummary :=
  .ofList (d.summaries.map fun c => (c.chatId, c))

/-- Goes along the listed chats and takes the summaries that replace them; what has not been taken
is left over. -/
def replaceListed (d : Delta) :
    List ChatSummary → KeyMap ChatId ChatSummary → List ChatSummary × KeyMap ChatId ChatSummary
  | [], news => ([], news)
  | c :: cs, news =>
    if d.chatsRemoved.contains c.chatId then d.replaceListed cs news
    else
      let (rest, left) := d.replaceListed cs (news.erase c.chatId)
      ((news.get? c.chatId).getD c :: rest, left)

/-- The summaries not taken yet, in the order of the chats that name them. -/
def appendNew (d : Delta) : List ChatSummary → KeyMap ChatId ChatSummary → List ChatSummary
  | [], _ => []
  | c :: cs, news =>
    if d.chatsRemoved.contains c.chatId then d.appendNew cs news
    else (news.get? c.chatId).toList ++ d.appendNew cs (news.erase c.chatId)

def mergeChats (d : Delta) (chats : List ChatSummary) : List ChatSummary :=
  let (listed, left) := d.replaceListed chats d.incoming
  listed ++ d.appendNew d.summaries left

/-- The events each update concerns, where there are any and the chat is not removed. -/
def affectedEvents (d : Delta) : KeyMap ChatId (KeySet EventIndex) :=
  let touched := d.chatsUpdated.filter fun u =>
    !u.affectedEvents.isEmpty && !d.chatsRemoved.contains u.summary.chatId
  touched.foldl (fun m u =>
    let known := (m.get? u.summary.chatId).getD ∅
    m.insert u.summary.chatId (u.affectedEvents.foldl KeySet.insert known)) ∅

end Delta

structure Merged where
  wasUpdated : Bool
  state : Snapshot
deriving DecidableEq, Inhabited

def InitialState.toMerged (i : InitialState) : Merged :=
  ⟨true, ⟨sortChats i.pinnedChats i.chats, i.blockedUsers, i.pinnedChats, i.timestamp, none, ∅⟩⟩

def Snapshot.merge (s : Snapshot) (d : Delta) : Merged :=
  if d.hasChanges then
    let pinned := d.pinnedChats.getD s.pinnedChats
    ⟨true, {
      chats := sortChats pinned (d.mergeChats s.chats)
      blockedUsers := d.blockedUsers.getD s.blockedUsers
      pinnedChats := pinned
      timestamp := d.timestamp
      avatarUpdate := d.avatarUpdate
      affectedEvents := d.affectedEvents }⟩
  else ⟨false, { s with timestamp := d.timestamp }⟩

end ChatBridge
