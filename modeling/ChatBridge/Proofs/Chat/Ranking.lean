import ChatBridge.Proofs.Chat.Stable

/-!
# What the order of the chat list says

A pinned chat ranks by the first place of its id among the pinned ones, and all others rank behind by
the time of their last activity. Equal rank is told by the chats alone, without comparing them, so the
sorted list can be described without the comparison that sorts it.
-/

namespace ChatBridge

variable {pinned : List ChatId} {a b : ChatSummary} {cs ds : List ChatSummary}

/-- The same pinned chat, or two that are not pinned and were active at the same moment. -/
def SameRank (pinned : List ChatId) (a b : ChatSummary) : Prop :=
  a.chatId ∈ pinned ∧ a.chatId = b.chatId ∨
    a.chatId ∉ pinned ∧ b.chatId ∉ pinned ∧ a.activity = b.activity

instance (pinned : List ChatId) (a b : ChatSummary) : Decidable (SameRank pinned a b) :=
  inferInstanceAs (Decidable (_ ∨ _))

/-- `ds` are the chats `cs`, those first that are pinned first, then the others by falling activity.
A chat that is not pinned stands at the place behind all pinned ones. -/
structure Ranked (pinned : List ChatId) (cs ds : List ChatSummary) : Prop where
  perm : ds.Perm cs
  pinnedFirst : ds.Pairwise fun a b => pinned.idxOf a.chatId ≤ pinned.idxOf b.chatId
  recentFirst : ds.Pairwise fun a b =>
    a.chatId ∉ pinned → b.chatId ∉ pinned → b.activity ≤ a.activity
  ties : ∀ c, ds.filter (SameRank pinned c) = cs.filter (SameRank pinned c)

theorem idxOf_chatId : pinned.idxOf a.chatId = (pinnedAt pinned a).getD pinned.length :=
  List.findIdx_eq_getD_findIdx?

theorem lt_length_of_pinnedAt {i : Nat} (h : pinnedAt pinned a = some i) : i < pinned.length :=
  (List.getElem?_eq_some_iff.mp (getElem?_of_pinnedAt h)).1

theorem compareChats_isLE_iff : (compareChats pinned a b).isLE ↔
    pinned.idxOf a.chatId ≤ pinned.idxOf b.chatId ∧
      (a.chatId ∉ pinned → b.chatId ∉ pinned → b.activity ≤ a.activity) := by
  rw [idxOf_chatId, idxOf_chatId, ← pinnedAt_eq_none_iff, ← pinnedAt_eq_none_iff]
  unfold compareChats
  cases ha : pinnedAt pinned a with
  | some i =>
    cases hb : pinnedAt pinned b with
    | some j => simp [Nat.isLE_compare]
    | none => simpa using Nat.le_of_lt (lt_length_of_pinnedAt ha)
  | none =>
    cases hb : pinnedAt pinned b with
    | some j => simpa using lt_length_of_pinnedAt hb
    | none => simp [Nat.isLE_compare, UInt64.le_iff_toNat_le]

theorem ofRank_eq (c : ChatSummary) : ofRank pinned c cs = cs.filter (SameRank pinned c) := by
  apply List.filter_congr
  intro a _
  exact decide_eq_decide.mpr compareChats_eq_iff

theorem ranked_iff_sortedFrom : Ranked pinned cs ds ↔ SortedFrom pinned cs ds := by
  constructor
  · intro h
    refine ⟨h.perm, ?_, fun c => by rw [ofRank_eq, ofRank_eq, h.ties]⟩
    exact (h.pinnedFirst.and h.recentFirst).imp fun hab => compareChats_isLE_iff.mpr hab
  · intro h
    have hrank := h.ordered.imp fun hab => compareChats_isLE_iff.mp hab
    refine ⟨h.perm, hrank.imp And.left, hrank.imp And.right, fun c => ?_⟩
    rw [← ofRank_eq, ← ofRank_eq, h.stable]

end ChatBridge
