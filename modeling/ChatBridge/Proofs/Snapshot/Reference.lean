import ChatBridge.Proofs.Chat.Stable
import ChatBridge.Proofs.Snapshot.Content
import ChatBridge.Proofs.Snapshot.Invariant

/-!
# Where each chat stands after a delta

`mergeChats` hands summaries from the listed chats to the new ones, and what a chat gets depends on
what those before it have taken. The same list can be told without that: of the listed chats that
stay, the first of each id is replaced if the delta has a summary of it, and behind them stand the
chats that the list did not have, each once. Ids may be repeated anywhere.
-/

namespace ChatBridge

namespace Delta

/-- The summary that the delta has of a chat, the last update or else the last addition. -/
def brought? (d : Delta) (k : ChatId) : Option ChatSummary := (d.lastUpdated? k).or (d.lastAdded? k)

def keeps (d : Delta) (k : ChatId) : Bool := !d.chatsRemoved.contains k

/-- The chats that stay, where the first of each id is replaced by what `news` has of it. -/
def replaceFirsts (news : ChatId → Option ChatSummary) (kept : List ChatSummary) :
    List ChatSummary :=
  kept.mapIdx fun i c => if c.chatId ∈ chatIds (kept.take i) then c else (news c.chatId).getD c

/-- The ids that the delta brings to the list, in the order in which it first names them. -/
def newIds (d : Delta) (chats : List ChatSummary) : List ChatId :=
  ((chatIds d.summaries).filter fun k => d.keeps k && !(chatIds chats).contains k).eraseDups

def merged (d : Delta) (chats : List ChatSummary) : List ChatSummary :=
  replaceFirsts d.brought? (chats.filter fun c => d.keeps c.chatId) ++
    (d.newIds chats).filterMap d.brought?

variable {d : Delta} {k : ChatId} {c : ChatSummary} {cs chats : List ChatSummary} {ks : List ChatId}
  {news : KeyMap ChatId ChatSummary}

/-! ## Listed chats -/

theorem replaceFirsts_cons : replaceFirsts news.get? (c :: cs) =
    (news.get? c.chatId).getD c :: replaceFirsts (news.erase c.chatId).get? cs := by
  rw [replaceFirsts, List.mapIdx_cons, replaceFirsts]
  congr 1
  refine congrArg (List.mapIdx · cs) (funext fun i => funext fun b => ?_)
  rw [List.take_succ_cons, chatIds_cons, KeyMap.get?_erase]
  by_cases hb : b.chatId = c.chatId
  · simp [hb]
  · simp [hb]

theorem replaceListed_eq : (d.replaceListed cs news).1 =
    replaceFirsts news.get? (cs.filter fun c => d.keeps c.chatId) := by
  induction cs generalizing news with
  | nil => rfl
  | cons c cs ih =>
    rw [replaceListed]
    by_cases hr : d.chatsRemoved.contains c.chatId = true
    · rw [if_pos hr, List.filter_cons_of_neg (by simp [keeps, hr]), ih]
    · rw [if_neg hr, List.filter_cons_of_pos (by simpa [keeps] using hr), replaceFirsts_cons, ← ih]

/-! ## New chats -/

theorem filter_eraseDups (p : ChatId → Bool) (ks : List ChatId) :
    ks.eraseDups.filter p = (ks.filter p).eraseDups := by
  induction hn : ks.length using Nat.strongRecOn generalizing ks with
  | ind n ih =>
    cases ks with
    | nil => rfl
    | cons k ks =>
      have hshort : (ks.filter fun j => !j == k).length < n := by
        rw [← hn]
        exact Nat.lt_succ_of_le (List.length_filter_le ..)
      have hrest := ih _ hshort (ks.filter fun j => !j == k) rfl
      rw [List.eraseDups_cons]
      by_cases hk : p k = true
      · rw [List.filter_cons_of_pos hk, List.filter_cons_of_pos hk, List.eraseDups_cons, hrest,
          List.filter_filter, List.filter_filter]
        simp only [Bool.and_comm]
      · rw [List.filter_cons_of_neg hk, List.filter_cons_of_neg hk, hrest, List.filter_filter]
        refine congrArg List.eraseDups (List.filter_congr fun j _ => ?_)
        by_cases hj : j = k
        · simp [hj, hk]
        · simp [hj]

theorem filterMap_erase : ks.filterMap (news.erase k).get? =
    (ks.filter fun j => !j == k).filterMap news.get? := by
  rw [List.filterMap_filter]
  refine congrArg (List.filterMap · ks) (funext fun j => ?_)
  rw [KeyMap.get?_erase]
  by_cases hj : j = k
  · simp [hj]
  · simp [hj]

theorem appendNew_eq : d.appendNew cs news =
    ((chatIds cs).filter d.keeps).eraseDups.filterMap news.get? := by
  induction cs generalizing news with
  | nil => rfl
  | cons c cs ih =>
    rw [appendNew, chatIds_cons]
    by_cases hr : d.chatsRemoved.contains c.chatId = true
    · rw [if_pos hr, List.filter_cons_of_neg (by simp [keeps, hr]), ih]
    · rw [if_neg hr, List.filter_cons_of_pos (by simpa [keeps] using hr), List.eraseDups_cons, ih,
        filterMap_erase, filter_eraseDups, List.filterMap_cons]
      cases news.get? c.chatId <;> rfl

theorem appendNew_left : d.appendNew d.summaries (d.replaceListed chats d.incoming).2 =
    (d.newIds chats).filterMap d.brought? := by
  have hleft (k : ChatId) (hk : k ∈ (chatIds d.summaries).filter d.keeps) :
      (d.replaceListed chats d.incoming).2.get? k =
        if !(chatIds chats).contains k then d.brought? k else none := by
    have hr : d.chatsRemoved.contains k = false := by
      simpa [keeps] using (List.mem_filter.mp hk).2
    rw [get?_replaceListed, get?_incoming_eq_or, brought?]
    by_cases hc : k ∈ chatIds chats
    · rw [if_pos ⟨hc, hr⟩, if_neg (by simpa using hc)]
    · rw [if_neg fun h => hc h.1, if_pos (by simpa using hc)]
  have hnew : d.newIds chats = ((chatIds d.summaries).filter d.keeps).eraseDups.filter
      fun k => !(chatIds chats).contains k := by
    rw [filter_eraseDups, List.filter_filter]
    simp only [newIds, Bool.and_comm]
  rw [appendNew_eq, hnew, List.filterMap_filter]
  exact List.filterMap_congr fun k hk => hleft k (List.mem_eraseDups.mp hk)

/-! ## The merged list -/

theorem mergeChats_eq_merged : d.mergeChats chats = d.merged chats := by
  have hincoming : d.incoming.get? = d.brought? := funext fun k => get?_incoming_eq_or
  rw [mergeChats_eq, replaceListed_eq, appendNew_left, hincoming, merged]

theorem mem_newIds : k ∈ d.newIds chats ↔
    k ∈ chatIds d.summaries ∧ d.chatsRemoved.contains k = false ∧ k ∉ chatIds chats := by
  rw [newIds, List.mem_eraseDups, List.mem_filter]
  simp [keeps]

theorem chatIds_brought : chatIds ((d.newIds chats).filterMap d.brought?) = d.newIds chats := by
  rw [chatIds, List.map_filterMap]
  have hid (k : ChatId) (hk : k ∈ d.newIds chats) :
      (d.brought? k).map (·.chatId) = some k := by
    rw [brought?, ← get?_incoming_eq_or]
    obtain ⟨c, hc⟩ := Option.isSome_iff_exists.mp (isSome_incoming.mpr (mem_newIds.mp hk).1)
    rw [hc, Option.map_some, keyed_incoming hc]
  rw [List.filterMap_congr hid, List.filterMap_some]

theorem nodup_newIds : (d.newIds chats).Nodup := by
  rw [← chatIds_brought, ← appendNew_left]
  exact nodup_chatIds_appendNew (keyed_replaceListed keyed_incoming)

theorem chatIds_mergeChats : chatIds (d.mergeChats chats) =
    (chatIds chats).filter d.keeps ++ d.newIds chats := by
  rw [mergeChats_eq, chatIds_append, appendNew_left, chatIds_brought,
    chatIds_replaceListed keyed_incoming]
  rfl

def countAfter (d : Delta) (chats : List ChatSummary) (k : ChatId) : Nat :=
  if d.chatsRemoved.contains k then 0
  else if k ∈ chatIds chats then (chatIds chats).count k
  else if k ∈ chatIds d.summaries then 1 else 0

theorem count_mergeChats : (chatIds (d.mergeChats chats)).count k = d.countAfter chats k := by
  have hnew : (d.newIds chats).count k = if k ∈ chatIds d.summaries ∧
      d.chatsRemoved.contains k = false ∧ k ∉ chatIds chats then 1 else 0 := by
    simp only [nodup_newIds.count, mem_newIds]
  rw [chatIds_mergeChats, List.count_append, countAfter, hnew]
  by_cases hr : d.chatsRemoved.contains k = true
  · have hk : k ∉ (chatIds chats).filter d.keeps := by simp [keeps, hr]
    rw [if_pos hr, List.count_eq_zero.mpr hk, if_neg (by simp [hr])]
  · rw [if_neg hr, List.count_filter (by simpa [keeps] using hr)]
    by_cases hc : k ∈ chatIds chats
    · rw [if_pos hc, if_neg fun h => h.2.2 hc]
      rfl
    · rw [if_neg hc, List.count_eq_zero.mpr hc, Nat.zero_add]
      simp [hc, hr]

end Delta

/-! ## Main statement -/

/-- Merged chats are told without threading: the listed chats that stay, the first of each id with
the delta's summary if it has one, and behind them each new chat once, in the order in which the
delta first names them, with the summary that the delta has of it. A snapshot takes them in the one
order that sorts them and leaves chats of equal rank where they were. So no chat that is removed is
there, no other is lost, and each is there as often as it was, or once if it is new. -/
theorem merge_places_chats (d : Delta) :
    (∀ chats, d.mergeChats chats = d.merged chats) ∧
    (∀ chats, chatIds ((d.newIds chats).filterMap d.brought?) = d.newIds chats) ∧
    (∀ chats k, (chatIds (d.mergeChats chats)).count k = d.countAfter chats k) ∧
    (d.hasChanges = true → ∀ s : Snapshot,
      (s.merge d).state.pinnedChats = d.pinnedChats.getD s.pinnedChats ∧
      (∀ cs, SortedFrom (s.merge d).state.pinnedChats (d.merged s.chats) cs ↔
        cs = (s.merge d).state.chats) ∧
      ∀ k, (chatIds (s.merge d).state.chats).count k = d.countAfter s.chats k) := by
  refine ⟨fun _ => Delta.mergeChats_eq_merged, fun _ => Delta.chatIds_brought,
    fun _ _ => Delta.count_mergeChats, fun hd s => ?_⟩
  rw [Snapshot.merge_of_hasChanges hd]
  refine ⟨rfl, fun cs => ?_, fun k => ?_⟩
  · rw [sortedFrom_iff, ← Delta.mergeChats_eq_merged]
  · rw [Snapshot.chatIds_sortChats.count_eq, Delta.count_mergeChats]

/-- The list has one chat twice and the delta updates it twice; another is updated and removed, and
one is new that the delta adds twice, updates and pins. -/
theorem merge_places_chats_of_repeated :
    ∃ (s : Snapshot) (d : Delta), chatIds s.chats = ["a", "b", "a"] ∧
      chatIds d.chatsAdded = ["c", "c"] ∧
      d.chatsUpdated.map (·.summary.chatId) = ["a", "c", "b", "a"] ∧
      d.chatsRemoved.toList = ["b"] ∧ d.hasChanges = true ∧
      chatIds (d.mergeChats s.chats) = ["a", "a", "c"] ∧
      (d.merged s.chats).map (·.dateCreated) = [4, 1, 2] ∧
      (chatIds (s.merge d).state.chats).count "a" = 2 ∧
      (chatIds (s.merge d).state.chats).count "b" = 0 ∧
      ∀ cs, SortedFrom ["c"] (d.merged s.chats) cs ↔ cs = (s.merge d).state.chats := by
  let chat (id : ChatId) (n : UInt64) : ChatSummary :=
    { (default : ChatSummary) with chatId := id, dateCreated := n }
  let s : Snapshot := { (default : Snapshot) with chats := [chat "a" 3, chat "b" 4, chat "a" 1] }
  let d : Delta := ⟨8, [chat "c" 1, chat "c" 3],
    [⟨chat "a" 5, [1]⟩, ⟨chat "c" 2, []⟩, ⟨chat "b" 9, [2]⟩, ⟨chat "a" 4, [3]⟩],
    .ofList ["b"], none, some ["c"], none, none, []⟩
  obtain ⟨hmerged, _, _, hstate⟩ := merge_places_chats d
  obtain ⟨_, hsorted, hcount⟩ := hstate rfl s
  refine ⟨s, d, rfl, rfl, rfl, by decide, rfl, by decide, ?_, (hcount "a").trans (by decide),
    (hcount "b").trans (by decide), hsorted⟩
  rw [← hmerged]
  decide

end ChatBridge
