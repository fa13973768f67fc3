import ChatBridge.Proofs.Ordered.Lookup
import ChatBridge.Snapshot.Merge

/-!
# The chats after a delta

The merged list names the chats that were listed and the chats that the delta brings, without those
it removes, and it names no chat oftener than the list did.
-/

namespace ChatBridge

def chatIds (cs : List ChatSummary) : List ChatId := cs.map (·.chatId)

@[simp] theorem chatIds_nil : chatIds [] = [] := rfl

@[simp] theorem chatIds_cons (c : ChatSummary) (cs : List ChatSummary) :
    chatIds (c :: cs) = c.chatId :: chatIds cs := rfl

@[simp] theorem chatIds_append (cs ds : List ChatSummary) :
    chatIds (cs ++ ds) = chatIds cs ++ chatIds ds := List.map_append

def Keyed (news : KeyMap ChatId ChatSummary) : Prop :=
  ∀ ⦃k c⦄, news.get? k = some c → c.chatId = k

namespace Delta

variable {d : Delta} {k : ChatId} {c : ChatSummary} {cs chats : List ChatSummary}
  {news : KeyMap ChatId ChatSummary}

theorem keyed_erase (h : Keyed news) (j : ChatId) : Keyed (news.erase j) := by
  intro k c hc
  rw [KeyMap.get?_erase] at hc
  split at hc
  · cases hc
  · exact h hc

/-! ## What the delta brings -/

theorem get?_incoming : d.incoming.get? k = d.summaries.reverse.find? (·.chatId = k) := by
  rw [incoming, KeyMap.get?_ofList, ← List.map_reverse, List.find?_map, Option.map_map]
  exact congrFun Option.map_id _

theorem keyed_incoming : Keyed d.incoming := by
  intro k c hc
  rw [get?_incoming] at hc
  exact of_decide_eq_true (List.find?_some hc :)

theorem isSome_incoming : (d.incoming.get? k).isSome ↔ k ∈ chatIds d.summaries := by
  rw [get?_incoming, List.find?_isSome]
  simp [chatIds]

/-! ## Replacing and appending -/

theorem chatIds_replaceListed (h : Keyed news) :
    chatIds (d.replaceListed cs news).1 = (chatIds cs).filter (!d.chatsRemoved.contains ·) := by
  induction cs generalizing news with
  | nil => rfl
  | cons c cs ih =>
    rw [replaceListed, chatIds_cons]
    by_cases hr : d.chatsRemoved.contains c.chatId = true
    · rw [if_pos hr, List.filter_cons_of_neg (by simp [hr]), ih h]
    · rw [if_neg hr, List.filter_cons_of_pos (by simpa using hr), chatIds_cons, ih (keyed_erase h _)]
      cases hn : news.get? c.chatId with
      | none => rfl
      | some e => rw [Option.getD_some, h hn]

theorem get?_replaceListed : (d.replaceListed cs news).2.get? k =
    if k ∈ chatIds cs ∧ d.chatsRemoved.contains k = false then none else news.get? k := by
  induction cs generalizing news with
  | nil => simp [replaceListed]
  | cons c cs ih =>
    rw [replaceListed, chatIds_cons]
    by_cases hr : d.chatsRemoved.contains c.chatId = true
    · rw [if_pos hr, ih]
      by_cases hk : k = c.chatId
      · subst hk; simp [hr]
      · simp [hk]
    · rw [if_neg hr]
      show (d.replaceListed cs (news.erase c.chatId)).2.get? k = _
      rw [ih, KeyMap.get?_erase]
      by_cases hk : k = c.chatId
      · subst hk; simp [hr]
      · simp [hk]

theorem keyed_replaceListed (h : Keyed news) : Keyed (d.replaceListed cs news).2 := by
  intro k c hc
  rw [get?_replaceListed] at hc
  split at hc
  · cases hc
  · exact h hc

theorem mem_chatIds_appendNew (h : Keyed news) : k ∈ chatIds (d.appendNew cs news) ↔
    k ∈ chatIds cs ∧ d.chatsRemoved.contains k = false ∧ (news.get? k).isSome := by
  induction cs generalizing news with
  | nil => simp [appendNew]
  | cons c cs ih =>
    rw [appendNew, chatIds_cons]
    by_cases hr : d.chatsRemoved.contains c.chatId = true
    · rw [if_pos hr, ih h]
      by_cases hk : k = c.chatId
      · subst hk; simp [hr]
      · simp [hk]
    · rw [if_neg hr, chatIds_append, List.mem_append, ih (keyed_erase h _), KeyMap.get?_erase]
      have hhead : k ∈ chatIds (news.get? c.chatId).toList ↔
          k = c.chatId ∧ (news.get? c.chatId).isSome := by
        cases hn : news.get? c.chatId with
        | none => simp
        | some e => simp [h hn]
      rw [hhead]
      by_cases hk : k = c.chatId
      · subst hk; simp [hr]
      · simp [hk]

theorem nodup_chatIds_appendNew (h : Keyed news) : (chatIds (d.appendNew cs news)).Nodup := by
  induction cs generalizing news with
  | nil => exact List.nodup_nil
  | cons c cs ih =>
    rw [appendNew]
    split
    · exact ih h
    · cases hn : news.get? c.chatId with
      | none => exact ih (keyed_erase h _)
      | some e =>
        show (e.chatId :: chatIds (d.appendNew cs (news.erase c.chatId))).Nodup
        refine List.nodup_cons.mpr ⟨fun hm => ?_, ih (keyed_erase h _)⟩
        rw [h hn] at hm
        have := ((mem_chatIds_appendNew (keyed_erase h _)).mp hm).2.2
        simp at this

/-! ## The merged list -/

theorem mergeChats_eq : d.mergeChats chats = (d.replaceListed chats d.incoming).1 ++
    d.appendNew d.summaries (d.replaceListed chats d.incoming).2 := rfl

theorem mem_chatIds_mergeChats : k ∈ chatIds (d.mergeChats chats) ↔
    (k ∈ chatIds chats ∨ k ∈ chatIds d.summaries) ∧ d.chatsRemoved.contains k = false := by
  have left : Keyed (d.replaceListed chats d.incoming).2 := keyed_replaceListed keyed_incoming
  rw [mergeChats_eq, chatIds_append, List.mem_append, chatIds_replaceListed keyed_incoming,
    List.mem_filter,
    mem_chatIds_appendNew left, get?_replaceListed]
  by_cases hk : k ∈ chatIds chats
  · simp only [hk, true_and, true_or, Bool.not_eq_true']
    by_cases hr : d.chatsRemoved.contains k = false
    · simp [hr]
    · simp [hr]
  · simp only [hk, false_and, false_or, if_false, isSome_incoming]
    exact ⟨fun h => ⟨h.1, h.2.1⟩, fun h => ⟨h.1, h.2, h.1⟩⟩

theorem nodup_chatIds_mergeChats (h : (chatIds chats).Nodup) :
    (chatIds (d.mergeChats chats)).Nodup := by
  have left : Keyed (d.replaceListed chats d.incoming).2 := keyed_replaceListed keyed_incoming
  rw [mergeChats_eq, chatIds_append, List.nodup_append, chatIds_replaceListed keyed_incoming]
  refine ⟨h.filter _, nodup_chatIds_appendNew left, ?_⟩
  intro k hk j hj hkj
  subst hkj
  obtain ⟨hk, hr⟩ := List.mem_filter.mp hk
  have hsome := ((mem_chatIds_appendNew left).mp hj).2.2
  rw [get?_replaceListed, if_pos ⟨hk, by simpa using hr⟩] at hsome
  cases hsome

end Delta
end ChatBridge
