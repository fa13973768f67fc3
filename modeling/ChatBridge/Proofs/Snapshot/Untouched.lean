import ChatBridge.Proofs.Chat.Stable
import ChatBridge.Proofs.Snapshot.Content
import ChatBridge.Proofs.Snapshot.Invariant

/-!
# Chats that a delta leaves alone

The chats that a delta says nothing of are the same chats in the same order after it, whatever is put
between them or taken away. Replacing leaves them where they stand, appending puts nothing before
them, and sorting cannot swap them: without the others they were in order already, and a stable sort
moves nothing in a list that is.
-/

namespace ChatBridge

theorem idxOf_lt_idxOf_filter {α : Type} [DecidableEq α] {p : α → Bool} {a b : α} {l : List α}
    (ha : p a = true) (hb : p b = true) :
    l.idxOf a < l.idxOf b ↔ (l.filter p).idxOf a < (l.filter p).idxOf b := by
  induction l with
  | nil => rfl
  | cons c l ih =>
    by_cases hca : c = a
    · subst hca
      rw [List.filter_cons_of_pos ha, List.idxOf_cons_self, List.idxOf_cons_self]
      by_cases hcb : c = b
      · subst hcb
        rw [List.idxOf_cons_self, List.idxOf_cons_self]
      · rw [List.idxOf_cons_ne _ hcb, List.idxOf_cons_ne _ hcb]
        exact iff_of_true (Nat.succ_pos _) (Nat.succ_pos _)
    · by_cases hcb : c = b
      · subst hcb
        rw [List.filter_cons_of_pos hb, List.idxOf_cons_self, List.idxOf_cons_self]
        exact iff_of_false (Nat.not_lt_zero _) (Nat.not_lt_zero _)
      · rw [List.idxOf_cons_ne _ hca, List.idxOf_cons_ne _ hcb, Nat.succ_lt_succ_iff, ih]
        by_cases hc : p c = true
        · rw [List.filter_cons_of_pos hc, List.idxOf_cons_ne _ hca, List.idxOf_cons_ne _ hcb,
            Nat.succ_lt_succ_iff]
        · rw [List.filter_cons_of_neg hc]

namespace Delta

variable {d : Delta} {k : ChatId} {cs : List ChatSummary} {news : KeyMap ChatId ChatSummary}

instance : Decidable (d.Mentions k) := inferInstanceAs (Decidable (_ ∨ _))

/-- The chats of a list that the delta says nothing of. -/
def untouched (d : Delta) (cs : List ChatSummary) : List ChatSummary :=
  cs.filter (¬ d.Mentions ·.chatId)

theorem mem_untouched {c : ChatSummary} : c ∈ d.untouched cs ↔ c ∈ cs ∧ ¬ d.Mentions c.chatId := by
  rw [untouched, List.mem_filter, decide_eq_true_iff]

theorem mentions_of_get?_incoming {c : ChatSummary} (h : d.incoming.get? k = some c) :
    d.Mentions k := .inl (isSome_incoming.mp (by rw [h]; rfl))

theorem untouched_replaceListed (hk : Keyed news)
    (hm : ∀ ⦃k c⦄, news.get? k = some c → d.Mentions k) :
    d.untouched (d.replaceListed cs news).1 = d.untouched cs := by
  induction cs generalizing news with
  | nil => rfl
  | cons c cs ih =>
    have herase : ∀ ⦃k b⦄, (news.erase c.chatId).get? k = some b → d.Mentions k := by
      intro k b hb
      rw [KeyMap.get?_erase] at hb
      split at hb
      · cases hb
      · exact hm hb
    rw [replaceListed]
    by_cases hr : d.chatsRemoved.contains c.chatId = true
    · rw [if_pos hr, ih hk hm]
      exact (List.filter_cons_of_neg (by simpa using .inr hr)).symm
    · rw [if_neg hr]
      show d.untouched (_ :: (d.replaceListed cs (news.erase c.chatId)).1) = _
      have hrest := ih (keyed_erase hk c.chatId) herase
      unfold untouched at hrest ⊢
      cases hn : news.get? c.chatId with
      | none => rw [Option.getD_none, List.filter_cons, List.filter_cons, hrest]
      | some e =>
        -- the chat and what replaces it have the same id, and it is mentioned
        have he : d.Mentions e.chatId := (hk hn) ▸ hm hn
        rw [Option.getD_some, List.filter_cons_of_neg (by simpa using he),
          List.filter_cons_of_neg (by simpa using hm hn), hrest]

theorem untouched_appendNew (hk : Keyed news)
    (hm : ∀ ⦃k c⦄, news.get? k = some c → d.Mentions k) : d.untouched (d.appendNew cs news) = [] := by
  refine List.eq_nil_iff_forall_not_mem.mpr fun c hc => ?_
  obtain ⟨hc, hnot⟩ := mem_untouched.mp hc
  have hsome := ((mem_chatIds_appendNew hk).mp (List.mem_map_of_mem hc)).2.2
  obtain ⟨e, he⟩ := Option.isSome_iff_exists.mp hsome
  exact hnot (hm he)

theorem untouched_mergeChats : d.untouched (d.mergeChats cs) = d.untouched cs := by
  have left : Keyed (d.replaceListed cs d.incoming).2 := keyed_replaceListed keyed_incoming
  have hleft : ∀ ⦃k c⦄, (d.replaceListed cs d.incoming).2.get? k = some c → d.Mentions k := by
    intro k c hc
    rw [get?_replaceListed] at hc
    split at hc
    · cases hc
    · exact mentions_of_get?_incoming hc
  rw [mergeChats_eq, untouched, List.filter_append]
  exact (congrArg₂ (· ++ ·)
    (untouched_replaceListed keyed_incoming fun _ _ => mentions_of_get?_incoming)
    (untouched_appendNew left hleft)).trans (List.append_nil _)

end Delta

namespace Snapshot

variable {s : Snapshot} {d : Delta} {i : InitialState}

/-- One step: in a list that is in order, sorting once more does not move the untouched chats. -/
theorem untouched_merge (hs : s.Consistent)
    (hp : ∀ pinned, d.pinnedChats = some pinned → pinned = s.pinnedChats) :
    d.untouched (s.merge d).state.chats = d.untouched s.chats := by
  cases hd : d.hasChanges with
  | false => rw [merge_of_not_hasChanges hd]
  | true =>
    have hpinned : d.pinnedChats.getD s.pinnedChats = s.pinnedChats := by
      cases hn : d.pinnedChats with
      | none => rfl
      | some pinned => exact hp pinned hn
    rw [merge_of_hasChanges hd, hpinned]
    calc d.untouched (sortChats s.pinnedChats (d.mergeChats s.chats))
        = sortChats s.pinnedChats (d.untouched (d.mergeChats s.chats)) := filter_sortChats _
      _ = sortChats s.pinnedChats (d.untouched s.chats) := by rw [Delta.untouched_mergeChats]
      _ = d.untouched s.chats := sortChats_of_pairwise (hs.sorted.filter _)

theorem chat?_merge_of_untouched (hs : s.Consistent)
    (hp : ∀ pinned, d.pinnedChats = some pinned → pinned = s.pinnedChats) {a : ChatSummary}
    (ha : a ∈ s.chats) (hna : ¬ d.Mentions a.chatId) :
    (s.merge d).state.chat? a.chatId = some a := by
  have hm : a ∈ d.untouched (s.merge d).state.chats :=
    untouched_merge hs hp ▸ Delta.mem_untouched.mpr ⟨ha, hna⟩
  exact (lookUp_eq_some_iff (consistent_merge hs d).distinct).mpr ⟨(Delta.mem_untouched.mp hm).1, rfl⟩

theorem idxOf_lt_idxOf_merge (hs : s.Consistent)
    (hp : ∀ pinned, d.pinnedChats = some pinned → pinned = s.pinnedChats) {a b : ChatSummary}
    (hna : ¬ d.Mentions a.chatId) (hnb : ¬ d.Mentions b.chatId) :
    s.chats.idxOf a < s.chats.idxOf b ↔
      (s.merge d).state.chats.idxOf a < (s.merge d).state.chats.idxOf b := by
  let p : ChatSummary → Bool := fun c => ¬ d.Mentions c.chatId
  have hpa : p a = true := by simpa [p] using hna
  have hpb : p b = true := by simpa [p] using hnb
  have hsame : (s.merge d).state.chats.filter p = s.chats.filter p := untouched_merge hs hp
  rw [idxOf_lt_idxOf_filter hpa hpb, ← hsame, ← idxOf_lt_idxOf_filter hpa hpb]

/-- Untouched chats never swap. In every state that deltas lead to, a further delta that leaves the
pinned chats as they are keeps each chat that it does not mention, with its summary, and any two of
them in the order they had, also if they were active at the same moment. -/
theorem untouched_stay (h : (chatIds i.chats).Nodup) (ds : List Delta) (d : Delta)
    (hp : ∀ pinned, d.pinnedChats = some pinned →
      pinned = (i.toMerged.state.mergeAll ds).pinnedChats) :
    d.untouched ((i.toMerged.state.mergeAll ds).merge d).state.chats =
        d.untouched (i.toMerged.state.mergeAll ds).chats ∧
      ∀ a ∈ (i.toMerged.state.mergeAll ds).chats, ∀ b ∈ (i.toMerged.state.mergeAll ds).chats,
        ¬ d.Mentions a.chatId → ¬ d.Mentions b.chatId →
        ((i.toMerged.state.mergeAll ds).merge d).state.chat? a.chatId = some a ∧
        ((i.toMerged.state.mergeAll ds).merge d).state.chat? b.chatId = some b ∧
        ((i.toMerged.state.mergeAll ds).chats.idxOf a <
            (i.toMerged.state.mergeAll ds).chats.idxOf b ↔
          ((i.toMerged.state.mergeAll ds).merge d).state.chats.idxOf a <
            ((i.toMerged.state.mergeAll ds).merge d).state.chats.idxOf b) := by
  have hbefore : (i.toMerged.state.mergeAll ds).Consistent := (consistent_toMerged h).mergeAll ds
  exact ⟨untouched_merge hbefore hp, fun a ha b hb hna hnb =>
    ⟨chat?_merge_of_untouched hbefore hp ha hna, chat?_merge_of_untouched hbefore hp hb hnb,
      idxOf_lt_idxOf_merge hbefore hp hna hnb⟩⟩

/-- Two chats were last active at the same moment. The one before them moves down, the one behind them
goes, and a new one is as old as they are. -/
theorem untouched_stay_on_ties :
    ∃ (i : InitialState) (d₀ d : Delta) (a b : ChatSummary), (chatIds i.chats).Nodup ∧
      a.activity = b.activity ∧ d.pinnedChats = some ["p"] ∧
      chatIds d.chatsAdded = ["n"] ∧ d.chatsUpdated.map (·.summary.chatId) = ["z"] ∧
      d.chatsRemoved.toList = ["c"] ∧
      chatIds (i.toMerged.state.mergeAll [d₀]).chats = ["z", a.chatId, b.chatId, "c"] ∧
      (((i.toMerged.state.mergeAll [d₀]).merge d).state.chat? a.chatId = some a ∧
        ((i.toMerged.state.mergeAll [d₀]).merge d).state.chat? b.chatId = some b ∧
        ((i.toMerged.state.mergeAll [d₀]).chats.idxOf a <
            (i.toMerged.state.mergeAll [d₀]).chats.idxOf b ↔
          ((i.toMerged.state.mergeAll [d₀]).merge d).state.chats.idxOf a <
            ((i.toMerged.state.mergeAll [d₀]).merge d).state.chats.idxOf b)) := by
  let chat (id : ChatId) (n : UInt64) : ChatSummary :=
    { (default : ChatSummary) with chatId := id, dateCreated := n }
  let i : InitialState := ⟨7, [chat "z" 5, chat "a" 3, chat "b" 3], ∅, ["p"], none⟩
  let d₀ : Delta := ⟨8, [chat "c" 3], [], ∅, none, none, none, none, []⟩
  let d : Delta := ⟨9, [chat "n" 3], [⟨chat "z" 1, []⟩], .ofList ["c"], none, some ["p"], none, none, []⟩
  have hi : (chatIds i.chats).Nodup := by decide
  -- both lists are in order without being sorted
  have hstart : sortChats ["p"] i.chats = i.chats := sortChats_of_pairwise (by decide)
  have hmerge : d₀.mergeChats i.chats = i.chats ++ [chat "c" 3] := by decide
  have hchats : (i.toMerged.state.mergeAll [d₀]).chats = i.chats ++ [chat "c" 3] := by
    show sortChats ["p"] (d₀.mergeChats (sortChats ["p"] i.chats)) = _
    rw [hstart, hmerge]
    exact sortChats_of_pairwise (by decide)
  have hstay := untouched_stay hi [d₀] d (by rintro _ ⟨⟩; rfl)
  have hmem := hstay.2 (chat "a" 3) (by rw [hchats]; decide) (chat "b" 3) (by rw [hchats]; decide)
    (by decide) (by decide)
  exact ⟨i, d₀, d, chat "a" 3, chat "b" 3, hi, rfl, rfl, rfl, rfl, rfl, by rw [hchats]; rfl, hmem⟩

end Snapshot
end ChatBridge
