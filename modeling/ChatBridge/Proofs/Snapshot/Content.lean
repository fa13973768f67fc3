import ChatBridge.Proofs.Snapshot.Chats

/-!
# What is known of the chats

Leaving the order of the list aside, a snapshot says of each chat which summary it has, if any. A
delta moves that on chat by chat, and `lookUp_mergeChats` says that merging does the same: a removal
counts most, then the last update, then the last addition, then what was known before.
-/

namespace ChatBridge

def lookUp (cs : List ChatSummary) (k : ChatId) : Option ChatSummary := cs.find? (·.chatId == k)

/-- What is known of all chats at one moment, and which are pinned and who is blocked. -/
structure Content where
  chat? : ChatId → Option ChatSummary
  pinnedChats : List ChatId
  blockedUsers : KeySet UserId

def Snapshot.content (s : Snapshot) : Content := ⟨s.chat?, s.pinnedChats, s.blockedUsers⟩

def InitialState.content (i : InitialState) : Content :=
  ⟨lookUp i.chats, i.pinnedChats, i.blockedUsers⟩

namespace Delta

def lastUpdated? (d : Delta) (k : ChatId) : Option ChatSummary :=
  (d.chatsUpdated.map (·.summary)).reverse.find? (·.chatId = k)

def lastAdded? (d : Delta) (k : ChatId) : Option ChatSummary :=
  d.chatsAdded.reverse.find? (·.chatId = k)

/-- The summary of a chat after the delta, where `known` is the one before. -/
def winner? (d : Delta) (known : Option ChatSummary) (k : ChatId) : Option ChatSummary :=
  if d.chatsRemoved.contains k then none else (d.lastUpdated? k).or ((d.lastAdded? k).or known)

end Delta

def Content.after (c : Content) (d : Delta) : Content where
  chat? k := d.winner? (c.chat? k) k
  pinnedChats := d.pinnedChats.getD c.pinnedChats
  blockedUsers := d.blockedUsers.getD c.blockedUsers

/-! ## Looking up -/

section
variable {cs ds : List ChatSummary} {c : ChatSummary} {k : ChatId}

theorem lookUp_cons : lookUp (c :: cs) k = if c.chatId = k then some c else lookUp cs k := by
  unfold lookUp
  by_cases h : c.chatId = k
  · rw [List.find?_cons_of_pos (by simpa using h), if_pos h]
  · rw [List.find?_cons_of_neg (by simpa using h), if_neg h]

theorem lookUp_append : lookUp (cs ++ ds) k = (lookUp cs k).or (lookUp ds k) := List.find?_append

theorem chatId_of_lookUp (h : lookUp cs k = some c) : c.chatId = k := by
  have := List.find?_some h
  simpa using this

theorem lookUp_eq_some_iff (hn : (chatIds cs).Nodup) :
    lookUp cs k = some c ↔ c ∈ cs ∧ c.chatId = k := by
  constructor
  · intro h
    exact ⟨List.mem_of_find?_eq_some h, chatId_of_lookUp h⟩
  · rintro ⟨hc, rfl⟩
    induction cs with
    | nil => cases hc
    | cons b cs ih =>
      obtain ⟨hb, hn⟩ := List.nodup_cons.mp hn
      rw [lookUp_cons]
      rcases List.mem_cons.mp hc with rfl | hc
      · rw [if_pos rfl]
      · have hne : b.chatId ≠ c.chatId := by
          intro he
          exact hb (List.mem_map.mpr ⟨c, hc, he.symm⟩)
        rw [if_neg hne]
        exact ih hn hc

theorem eq_of_chatId_eq {a b : ChatSummary} (hn : (chatIds cs).Nodup) (ha : a ∈ cs) (hb : b ∈ cs)
    (h : a.chatId = b.chatId) : a = b := by
  have hl := (lookUp_eq_some_iff hn).mpr ⟨ha, h⟩
  rw [(lookUp_eq_some_iff hn).mpr ⟨hb, rfl⟩] at hl
  exact (Option.some.inj hl).symm

theorem nodup_of_chatIds (hn : (chatIds cs).Nodup) : cs.Nodup :=
  (List.pairwise_map.mp hn).imp fun h he => h (congrArg _ he)

end

/-! ## Looking up in a merged list -/

namespace Delta

variable {d : Delta} {k : ChatId} {cs : List ChatSummary} {news : KeyMap ChatId ChatSummary}
  {known : Option ChatSummary}

theorem get?_incoming_eq_or : d.incoming.get? k = (d.lastUpdated? k).or (d.lastAdded? k) := by
  rw [get?_incoming, summaries, List.reverse_append, List.find?_append]
  rfl

theorem lookUp_replaceListed (h : Keyed news) : lookUp (d.replaceListed cs news).1 k =
    if d.chatsRemoved.contains k then none
    else (lookUp cs k).map fun c => (news.get? k).getD c := by
  induction cs generalizing news with
  | nil => simp [replaceListed, lookUp]
  | cons c cs ih =>
    rw [replaceListed]
    by_cases hr : d.chatsRemoved.contains c.chatId = true
    · rw [if_pos hr, ih h, lookUp_cons]
      by_cases hk : c.chatId = k
      · subst hk; simp only [hr, if_true]
      · rw [if_neg hk]
    · rw [if_neg hr]
      -- what replaces a chat has its id
      have hid : ((news.get? c.chatId).getD c).chatId = c.chatId := by
        cases hn : news.get? c.chatId with
        | none => rfl
        | some e => exact h hn
      show lookUp (_ :: (d.replaceListed cs (news.erase c.chatId)).1) k = _
      rw [lookUp_cons, hid, ih (keyed_erase h _), lookUp_cons]
      by_cases hk : c.chatId = k
      · subst hk
        rw [if_pos rfl, if_neg hr, if_pos rfl, Option.map_some]
      · rw [if_neg hk, if_neg hk, KeyMap.get?_erase, if_neg (Ne.symm hk)]

theorem lookUp_appendNew (h : Keyed news) : lookUp (d.appendNew cs news) k =
    if d.chatsRemoved.contains k then none
    else if k ∈ chatIds cs then news.get? k else none := by
  induction cs generalizing news with
  | nil => simp [appendNew, lookUp]
  | cons c cs ih =>
    rw [appendNew, chatIds_cons]
    by_cases hr : d.chatsRemoved.contains c.chatId = true
    · rw [if_pos hr, ih h]
      by_cases hk : k = c.chatId
      · subst hk; simp only [hr, if_true]
      · simp only [List.mem_cons, hk, false_or]
    · have hhead : lookUp (news.get? c.chatId).toList k =
          if k = c.chatId then news.get? k else none := by
        cases hn : news.get? c.chatId with
        | none =>
          by_cases hk : k = c.chatId
          · subst hk; rw [if_pos rfl, hn]; rfl
          · rw [if_neg hk]; rfl
        | some e =>
          show lookUp [e] k = _
          rw [lookUp_cons, h hn]
          by_cases hk : k = c.chatId
          · subst hk; rw [if_pos rfl, if_pos rfl, hn]
          · rw [if_neg (Ne.symm hk), if_neg hk]; rfl
      rw [if_neg hr, lookUp_append, hhead, ih (keyed_erase h _), KeyMap.get?_erase]
      by_cases hk : k = c.chatId
      · subst hk; simp [hr]
      · rw [if_neg hk, if_neg hk, Option.none_or]
        simp only [List.mem_cons, hk, false_or]

/-- Merging moves what is known of each chat on as the delta says. -/
theorem lookUp_mergeChats : lookUp (d.mergeChats cs) k = d.winner? (lookUp cs k) k := by
  have left : Keyed (d.replaceListed cs d.incoming).2 := keyed_replaceListed keyed_incoming
  rw [mergeChats_eq, lookUp_append, lookUp_replaceListed keyed_incoming, lookUp_appendNew left,
    get?_replaceListed, winner?, ← Option.or_assoc, ← get?_incoming_eq_or]
  by_cases hr : d.chatsRemoved.contains k = true
  · rw [if_pos hr, if_pos hr, if_pos hr, Option.or_none]
  · rw [if_neg hr, if_neg hr, if_neg hr]
    cases hl : lookUp cs k with
    | some c =>
      cases hn : d.incoming.get? k with
      | none => rfl
      | some e => rfl
    | none =>
      have hk : k ∉ chatIds cs := by
        intro hm
        obtain ⟨c, hc, rfl⟩ := List.mem_map.mp hm
        have := List.find?_eq_none.mp hl c hc
        simp at this
      rw [Option.map_none, Option.none_or, Option.or_none]
      by_cases hm : k ∈ chatIds d.summaries
      · rw [if_pos hm, if_neg fun h => hk h.1]
      · rw [if_neg hm]
        have hnone := mt isSome_incoming.mp hm
        exact (Option.not_isSome_iff_eq_none.mp hnone).symm

/-! ## Chats that a delta says something of -/

def Mentions (d : Delta) (k : ChatId) : Prop :=
  k ∈ chatIds d.summaries ∨ d.chatsRemoved.contains k = true

theorem winner?_eq : d.winner? known k =
    if d.chatsRemoved.contains k then none else (d.incoming.get? k).or known := by
  rw [winner?, get?_incoming_eq_or, Option.or_assoc]

theorem winner?_of_not_mentions (h : ¬ d.Mentions k) : d.winner? known k = known := by
  obtain ⟨hk, hr⟩ := not_or.mp h
  have hnone := Option.not_isSome_iff_eq_none.mp (mt isSome_incoming.mp hk)
  rw [winner?_eq, if_neg hr, hnone, Option.none_or]

theorem winner?_of_mentions (h : d.Mentions k) : d.winner? known k = d.winner? none k := by
  rw [winner?_eq, winner?_eq]
  rcases h with hk | hr
  · obtain ⟨e, he⟩ := Option.isSome_iff_exists.mp (isSome_incoming.mpr hk)
    rw [he, Option.some_or, Option.some_or]
  · rw [if_pos hr, if_pos hr]

end Delta
end ChatBridge
