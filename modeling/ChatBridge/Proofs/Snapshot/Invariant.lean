import ChatBridge.Proofs.Chat.Order
import ChatBridge.Proofs.Snapshot.Chats

/-!
# What every snapshot keeps

A snapshot that began with distinct chats and moved on by deltas names each chat once, lists the
chats in the order of its own pinned ones and reports events of listed chats only. A delta may be as
odd as it likes.
-/

namespace ChatBridge

structure Snapshot.Consistent (s : Snapshot) : Prop where
  distinct : (chatIds s.chats).Nodup
  sorted : s.chats.Pairwise fun a b => (compareChats s.pinnedChats a b).isLE
  affected : ∀ {k : ChatId} {events : KeySet EventIndex}, s.affectedEvents.get? k = some events →
    k ∈ chatIds s.chats ∧ events.toList ≠ []

namespace Delta

variable {d : Delta} {k : ChatId} {events : KeySet EventIndex}

theorem chatIds_summaries :
    chatIds d.summaries = chatIds d.chatsAdded ++ d.chatsUpdated.map (·.summary.chatId) := by
  rw [summaries, chatIds_append]
  simp [chatIds, Function.comp_def]

/-- The delta updates the chat, does not remove it and reports some events of it. -/
def Reports (d : Delta) (k : ChatId) (events : KeySet EventIndex) : Prop :=
  k ∈ d.chatsUpdated.map (·.summary.chatId) ∧ d.chatsRemoved.contains k = false ∧ events.toList ≠ []

theorem reports_of_affectedEvents (h : d.affectedEvents.get? k = some events) :
    d.Reports k events := by
  revert k events
  unfold affectedEvents
  refine List.foldlRecOn _ _ (motive := fun m => ∀ {k events}, KeyMap.get? m k = some events →
    d.Reports k events) ?_ ?_
  · intro k events h
    cases h
  · intro m ih u hu k events h
    obtain ⟨hu, hc⟩ := List.mem_filter.mp hu
    simp only [Bool.and_eq_true, Bool.not_eq_true', List.isEmpty_eq_false_iff] at hc
    rw [KeyMap.get?_insert] at h
    split at h
    · rename_i hk
      cases h
      subst hk
      exact ⟨List.mem_map.mpr ⟨u, hu, rfl⟩, hc.2, KeySet.toList_foldl_insert_ne_nil hc.1⟩
    · exact ih h

end Delta

namespace Snapshot

variable {s : Snapshot} {d : Delta} {i : InitialState}

def mergeAll (s : Snapshot) (ds : List Delta) : Snapshot := ds.foldl (fun s d => (s.merge d).state) s

theorem mergeAll_snoc (ds : List Delta) : s.mergeAll (ds ++ [d]) = ((s.mergeAll ds).merge d).state := by
  simp [mergeAll]

theorem merge_of_hasChanges (h : d.hasChanges = true) : s.merge d =
    ⟨true, ⟨sortChats (d.pinnedChats.getD s.pinnedChats) (d.mergeChats s.chats),
      d.blockedUsers.getD s.blockedUsers, d.pinnedChats.getD s.pinnedChats, d.timestamp,
      d.avatarUpdate, d.affectedEvents⟩⟩ := if_pos h

theorem merge_of_not_hasChanges (h : d.hasChanges = false) :
    s.merge d = ⟨false, { s with timestamp := d.timestamp }⟩ := if_neg (by simp [h])

theorem timestamp_merge : (s.merge d).state.timestamp = d.timestamp := by
  unfold merge
  split <;> rfl

theorem chatIds_sortChats {pinned : List ChatId} {cs : List ChatSummary} :
    (chatIds (sortChats pinned cs)).Perm (chatIds cs) := sortChats_perm.map _

theorem consistent_toMerged (h : (chatIds i.chats).Nodup) : i.toMerged.state.Consistent where
  distinct := chatIds_sortChats.nodup_iff.mpr h
  sorted := sortChats_pairwise
  affected h := by cases h

theorem consistent_merge (hs : s.Consistent) (d : Delta) : (s.merge d).state.Consistent := by
  cases hd : d.hasChanges with
  | false =>
    rw [merge_of_not_hasChanges hd]
    exact ⟨hs.distinct, hs.sorted, hs.affected⟩
  | true =>
    rw [merge_of_hasChanges hd]
    refine ⟨?_, sortChats_pairwise, fun {k events} h => ?_⟩
    · exact chatIds_sortChats.nodup_iff.mpr (Delta.nodup_chatIds_mergeChats hs.distinct)
    · obtain ⟨hk, hr, hne⟩ := Delta.reports_of_affectedEvents h
      refine ⟨chatIds_sortChats.mem_iff.mpr (Delta.mem_chatIds_mergeChats.mpr ⟨.inr ?_, hr⟩), hne⟩
      rw [Delta.chatIds_summaries]
      exact List.mem_append_right _ hk

theorem Consistent.mergeAll (hs : s.Consistent) (ds : List Delta) :
    (s.mergeAll ds).Consistent := by
  induction ds using List.reverseRecOn with
  | nil => exact hs
  | append_singleton ds d ih =>
    rw [mergeAll_snoc]
    exact consistent_merge ih d

theorem timestamp_mergeAll (ds : List Delta) :
    (s.mergeAll ds).timestamp = (ds.getLast?.map (·.timestamp)).getD s.timestamp := by
  induction ds using List.reverseRecOn with
  | nil => rfl
  | append_singleton ds d _ =>
    rw [mergeAll_snoc, List.getLast?_concat]
    exact timestamp_merge

/-- Whatever the deltas are, the snapshot is consistent after each of them and as old as the last. -/
theorem consistent_mergeAll (h : (chatIds i.chats).Nodup) (ds : List Delta) :
    (i.toMerged.state.mergeAll ds).Consistent ∧
      (i.toMerged.state.mergeAll ds).timestamp = (ds.getLast?.map (·.timestamp)).getD i.timestamp :=
  ⟨(consistent_toMerged h).mergeAll ds, timestamp_mergeAll ds⟩

/-- A delta updates the first of two chats twice and removes the other, and comes again. -/
theorem consistent_mergeAll_two_chats :
    ∃ (i : InitialState) (d : Delta), chatIds i.chats = ["a", "b"] ∧ (chatIds i.chats).Nodup ∧
      d.hasChanges = true ∧ d.chatsUpdated.map (·.summary.chatId) = ["a", "a"] ∧
      (i.toMerged.state.mergeAll [d, d]).Consistent ∧
      (i.toMerged.state.mergeAll [d, d]).timestamp = d.timestamp := by
  let chat (id : ChatId) : ChatSummary := { (default : ChatSummary) with chatId := id }
  refine ⟨⟨7, [chat "a", chat "b"], ∅, ["b", "b"], none⟩,
    ⟨8, [chat "b"], [⟨chat "a", [1]⟩, ⟨chat "a", []⟩], .ofList ["b"], none, some ["c"], none, none, []⟩,
    rfl, by decide, rfl, rfl, ?_⟩
  exact consistent_mergeAll (by decide) _

end Snapshot
end ChatBridge
