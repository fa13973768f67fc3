import ChatBridge.Proofs.Snapshot.Content
import ChatBridge.Proofs.Snapshot.Invariant

/-!
# A delta that comes twice

The second time no chat is new and each listed one already has the summary that the delta brings, so
the list is replaced by itself where it stands. Being in order already, it stays so: a stable sort
moves no chat, not even among those of equal rank.
-/

namespace ChatBridge

namespace Delta

variable {d : Delta} {cs : List ChatSummary}
  {news : KeyMap ChatId ChatSummary}

/-- The list says already what the delta says. -/
structure Told (d : Delta) (cs : List ChatSummary) : Prop where
  kept : ∀ c ∈ cs, d.chatsRemoved.contains c.chatId = false
  same : ∀ c ∈ cs, ∀ e, d.incoming.get? c.chatId = some e → e = c
  listed : ∀ k ∈ chatIds d.summaries, d.chatsRemoved.contains k = false → k ∈ chatIds cs

theorem told_of_perm {ds : List ChatSummary} (h : d.Told cs) (hp : cs.Perm ds) : d.Told ds where
  kept c hc := h.kept c (hp.mem_iff.mpr hc)
  same c hc := h.same c (hp.mem_iff.mpr hc)
  listed k hk hr := (hp.map _).mem_iff.mp (h.listed k hk hr)

theorem told_mergeChats (hn : (chatIds cs).Nodup) : d.Told (d.mergeChats cs) := by
  have won : ∀ c ∈ d.mergeChats cs, d.winner? (lookUp cs c.chatId) c.chatId = some c := by
    intro c hc
    rw [← lookUp_mergeChats]
    exact (lookUp_eq_some_iff (nodup_chatIds_mergeChats hn)).mpr ⟨hc, rfl⟩
  refine ⟨fun c hc => ?_, fun c hc e he => ?_, fun k hk hr => ?_⟩
  · exact (mem_chatIds_mergeChats.mp (List.mem_map_of_mem hc)).2
  · have hw := won c hc
    unfold winner? at hw
    split at hw
    · cases hw
    · rw [← Option.or_assoc, ← get?_incoming_eq_or, he] at hw
      exact Option.some.inj hw
  · exact mem_chatIds_mergeChats.mpr ⟨.inr hk, hr⟩

theorem replaceListed_of_same (hk : ∀ c ∈ cs, d.chatsRemoved.contains c.chatId = false)
    (hs : ∀ c ∈ cs, ∀ e, news.get? c.chatId = some e → e = c) :
    (d.replaceListed cs news).1 = cs := by
  induction cs generalizing news with
  | nil => rfl
  | cons c cs ih =>
    have hc := hk c List.mem_cons_self
    have hhead : (news.get? c.chatId).getD c = c := by
      cases hn : news.get? c.chatId with
      | none => rfl
      | some e => exact hs c List.mem_cons_self e hn
    have hrest : (d.replaceListed cs (news.erase c.chatId)).1 = cs := by
      apply ih
      · intro b hb
        exact hk b (List.mem_cons_of_mem _ hb)
      · intro b hb e he
        rw [KeyMap.get?_erase] at he
        split at he
        · cases he
        · exact hs b (List.mem_cons_of_mem _ hb) e he
    rw [replaceListed, if_neg (by simp [hc])]
    show (news.get? c.chatId).getD c :: (d.replaceListed cs (news.erase c.chatId)).1 = c :: cs
    rw [hhead, hrest]

theorem mergeChats_of_told (h : d.Told cs) : d.mergeChats cs = cs := by
  have left : Keyed (d.replaceListed cs d.incoming).2 := keyed_replaceListed keyed_incoming
  have happend : d.appendNew d.summaries (d.replaceListed cs d.incoming).2 = [] := by
    apply List.eq_nil_iff_forall_not_mem.mpr
    intro c hc
    obtain ⟨hk, hr, hsome⟩ := (mem_chatIds_appendNew left).mp (List.mem_map_of_mem hc)
    -- the chats that could be appended have been taken by those that are listed
    rw [get?_replaceListed, if_pos ⟨h.listed _ hk hr, hr⟩] at hsome
    cases hsome
  rw [mergeChats_eq, happend, List.append_nil]
  exact replaceListed_of_same h.kept h.same

end Delta

namespace Snapshot

variable {s : Snapshot} {d : Delta}

/-- A delta that is delivered once more is answered the same way, and nothing moves. -/
theorem merge_merge (h : (chatIds s.chats).Nodup) : (s.merge d).state.merge d = s.merge d := by
  cases hd : d.hasChanges with
  | false =>
    rw [merge_of_not_hasChanges hd, merge_of_not_hasChanges hd]
  | true =>
    have htold : d.Told (sortChats (d.pinnedChats.getD s.pinnedChats) (d.mergeChats s.chats)) :=
      Delta.told_of_perm (Delta.told_mergeChats h) sortChats_perm.symm
    have hpinned : d.pinnedChats.getD (d.pinnedChats.getD s.pinnedChats) =
        d.pinnedChats.getD s.pinnedChats := by
      cases d.pinnedChats <;> rfl
    have hblocked : d.blockedUsers.getD (d.blockedUsers.getD s.blockedUsers) =
        d.blockedUsers.getD s.blockedUsers := by
      cases d.blockedUsers <;> rfl
    rw [merge_of_hasChanges hd, merge_of_hasChanges hd]
    simp only [Delta.mergeChats_of_told htold, hpinned, hblocked,
      sortChats_of_pairwise sortChats_pairwise]

/-- One listed chat is updated twice, another is updated and removed, two are added of which one is
updated too, and chats of equal rank stand next to each other. -/
theorem merge_merge_of_overlapping :
    ∃ (s : Snapshot) (d : Delta), chatIds s.chats = ["a", "b", "e"] ∧ (chatIds s.chats).Nodup ∧
      d.hasChanges = true ∧ chatIds d.chatsAdded = ["c", "d", "c"] ∧
      d.chatsUpdated.map (·.summary.chatId) = ["a", "b", "a", "d"] ∧
      d.chatsRemoved.toList = ["b"] ∧ d.pinnedChats = some ["d", "x", "d"] ∧
      chatIds (d.mergeChats s.chats) = ["a", "e", "c", "d"] ∧
      (s.merge d).state.merge d = s.merge d := by
  let chat (id : ChatId) (n : UInt64) : ChatSummary :=
    { (default : ChatSummary) with chatId := id, dateCreated := n }
  let s : Snapshot := { (default : Snapshot) with chats := [chat "a" 3, chat "b" 4, chat "e" 1] }
  let d : Delta := ⟨8, [chat "c" 1, chat "d" 2, chat "c" 3],
    [⟨chat "a" 5, [1]⟩, ⟨chat "b" 9, [2]⟩, ⟨chat "a" 1, [3]⟩, ⟨chat "d" 4, []⟩],
    .ofList ["b"], none, some ["d", "x", "d"], none, none, []⟩
  have hs : (chatIds s.chats).Nodup := by decide
  exact ⟨s, d, rfl, hs, rfl, rfl, rfl, by decide, rfl, by decide,
    merge_merge hs⟩

end Snapshot
end ChatBridge
