import ChatBridge.Proofs.Agent.ReadPositions

/-!
# Read positions of chats that are gone

An agent reports the read position of each update that moves it, also where the same delta removes
the chat. The merged snapshot then no longer lists the chat, nor any affected event of it. So the
removed chats that a delta moves are just those a listener is told of in vain.
-/

namespace ChatBridge

def Event.readChat? : Event → Option ChatId
  | .readElsewhere id _ _ => some id
  | _ => none

/-- The delta has an update of the chat with another read position than the one known before. -/
def Delta.Moves (d : Delta) (s : Snapshot) (k : ChatId) : Prop :=
  ∃ p ∈ d.positions k, p ≠ s.readPosition k

variable {s : Snapshot} {d : Delta} {k : ChatId}

open Operation (readChanges)

theorem hasChanges_of_updated (h : k ∈ d.chatsUpdated.map (·.summary.chatId)) :
    d.hasChanges = true := by
  have hne : d.chatsUpdated ≠ [] := by
    intro hnil
    simp [hnil] at h
  have hsome : (!d.chatsUpdated.isEmpty) = true := by simpa using hne
  simp [Delta.hasChanges, hsome]

theorem hasChanges_of_removed (h : d.chatsRemoved.contains k = true) : d.hasChanges = true := by
  have hsome : (!d.chatsRemoved.isEmpty) = true := by
    rw [KeySet.contains_iff_mem] at h
    by_contra he
    have hempty : d.chatsRemoved = ∅ := by simpa [KeySet.isEmpty_iff] using he
    rw [hempty] at h
    cases h
  simp [Delta.hasChanges, hsome]

theorem updated_of_moves (h : d.Moves s k) : k ∈ d.chatsUpdated.map (·.summary.chatId) := by
  obtain ⟨p, hp, _⟩ := h
  obtain ⟨c, hc, _⟩ := List.mem_map.mp hp
  obtain ⟨hc, hk⟩ := List.mem_filter.mp hc
  obtain ⟨u, hu, rfl⟩ := List.mem_map.mp hc
  exact List.mem_map.mpr ⟨u, hu, of_decide_eq_true hk⟩

theorem readChat?_eq_some_iff {e : Event} :
    e.readChat? = some k ↔ ∃ p, e.readPosition? k = some p := by
  cases e with
  | readElsewhere id upTo threads => simp [Event.readChat?, Event.readPosition?]
  | storageUpdated status => simp [Event.readChat?, Event.readPosition?]
  | usersLoaded users => simp [Event.readChat?, Event.readPosition?]

theorem mem_readChats : k ∈ (readChanges s d).filterMap Event.readChat? ↔ d.Moves s k := by
  have hpositions (p : ReadPosition) :
      p ∈ (d.positions k).filter (· ≠ s.readPosition k) ↔
        ∃ e ∈ readChanges s d, e.readPosition? k = some p := by
    rw [← positions_readChanges, List.mem_filterMap]
  rw [List.mem_filterMap]
  constructor
  · rintro ⟨e, he, hk⟩
    obtain ⟨p, hp⟩ := readChat?_eq_some_iff.mp hk
    obtain ⟨hmem, hne⟩ := List.mem_filter.mp ((hpositions p).mpr ⟨e, he, hp⟩)
    exact ⟨p, hmem, of_decide_eq_true hne⟩
  · rintro ⟨p, hp, hne⟩
    obtain ⟨e, he, hep⟩ := (hpositions p).mp (List.mem_filter.mpr ⟨hp, decide_eq_true hne⟩)
    exact ⟨e, he, readChat?_eq_some_iff.mpr ⟨p, hep⟩⟩

theorem mem_merge_of_updated (h : k ∈ d.chatsUpdated.map (·.summary.chatId)) :
    k ∈ chatIds (s.merge d).state.chats ↔ d.chatsRemoved.contains k = false := by
  have hbrought : k ∈ chatIds d.summaries := by
    rw [Delta.chatIds_summaries]
    exact List.mem_append_right _ h
  rw [Snapshot.merge_of_hasChanges (hasChanges_of_updated h)]
  show k ∈ chatIds (sortChats _ _) ↔ _
  rw [Snapshot.chatIds_sortChats.mem_iff, Delta.mem_chatIds_mergeChats]
  simp [hbrought]

/-- A removed chat leaves nothing behind in the snapshot. -/
theorem not_mem_merge_of_removed (h : d.chatsRemoved.contains k = true) :
    k ∉ chatIds (s.merge d).state.chats ∧ (s.merge d).state.affectedEvents.get? k = none := by
  rw [Snapshot.merge_of_hasChanges (hasChanges_of_removed h)]
  constructor
  · show k ∉ chatIds (sortChats _ _)
    rw [Snapshot.chatIds_sortChats.mem_iff, Delta.mem_chatIds_mergeChats]
    simp [h]
  · apply Option.eq_none_iff_forall_ne_some.mpr
    intro events hevents
    have hstays := (Delta.reports_of_affectedEvents hevents).2.1
    rw [h] at hstays
    cases hstays

namespace Operation

variable {config : AgentConfig} {told : List Told} {m : Merged}

/-- A listener is told of the chats that the delta moves. Each of them is in the merged snapshot
unless the delta removes it, in which case the snapshot has neither the chat nor events of it. So all
of them are there just if the delta moves no chat that it removes. -/
theorem readChats_getUpdates (h : (getUpdates config s).Returns told (.ok m)) :
    ∃ d, ((getUpdates config s).heard told).filterMap (reading Delta "updates") = [d] ∧
      m = s.merge d ∧
      (∀ k, k ∈ ((getUpdates config s).reported told).filterMap Event.readChat? ↔ d.Moves s k) ∧
      (∀ k, d.Moves s k → (k ∈ chatIds m.state.chats ↔ d.chatsRemoved.contains k = false)) ∧
      (∀ k, d.chatsRemoved.contains k = true →
        k ∉ chatIds m.state.chats ∧ m.state.affectedEvents.get? k = none) ∧
      ((∀ k ∈ ((getUpdates config s).reported told).filterMap Event.readChat?,
          k ∈ chatIds m.state.chats) ↔
        ∀ k, d.chatsRemoved.contains k = true → ¬ d.Moves s k) := by
  obtain ⟨d, hd, rfl, hreported⟩ := reported_getUpdates h
  have htold (k : ChatId) :
      k ∈ ((getUpdates config s).reported told).filterMap Event.readChat? ↔ d.Moves s k := by
    rw [hreported]
    exact mem_readChats
  have hlisted (k : ChatId) (hk : d.Moves s k) :
      k ∈ chatIds (s.merge d).state.chats ↔ d.chatsRemoved.contains k = false :=
    mem_merge_of_updated (updated_of_moves hk)
  refine ⟨d, hd, rfl, htold, hlisted, fun k => not_mem_merge_of_removed, ?_⟩
  constructor
  · intro hall k hr hk
    have hstays := (hlisted k hk).mp (hall k ((htold k).mpr hk))
    rw [hr] at hstays
    cases hstays
  · intro hnone k hk
    have hmoves := (htold k).mp hk
    exact (hlisted k hmoves).mpr (Bool.eq_false_iff.mpr fun hr => hnone k hr hmoves)

/-- Of two chats that a delta moves one is removed, and with it a third one. -/
theorem readChats_getUpdates_of_two_gone : ∃ (config : AgentConfig) (s : Snapshot) (d : Delta)
    (told : List Told), (getUpdates config s).Returns told (.ok (s.merge d)) ∧
    d.chatsRemoved.toList = ["b", "c"] ∧
    "a" ∈ ((getUpdates config s).reported told).filterMap Event.readChat? ∧
    "b" ∈ ((getUpdates config s).reported told).filterMap Event.readChat? ∧
    "c" ∉ ((getUpdates config s).reported told).filterMap Event.readChat? ∧
    "a" ∈ chatIds (s.merge d).state.chats ∧ "b" ∉ chatIds (s.merge d).state.chats ∧
    "c" ∉ chatIds (s.merge d).state.chats := by
  let chat (id : ChatId) (n : MessageIndex) : ChatSummary :=
    { (default : ChatSummary) with chatId := id, readByMeUpTo := some n }
  let s : Snapshot := { (default : Snapshot) with chats := [chat "a" 3, chat "b" 3, chat "c" 3] }
  let d : Delta := { (default : Delta) with
    chatsUpdated := [⟨chat "a" 5, []⟩, ⟨chat "b" 5, []⟩, ⟨chat "c" 3, []⟩]
    chatsRemoved := .ofList ["c", "b"] }
  obtain ⟨told, hreturns, hd, _⟩ := getUpdates_of_answer .standard s d
  obtain ⟨d', hd', _, htold, hlisted, hgone, _⟩ := readChats_getUpdates hreturns
  obtain rfl : d' = d := (List.cons.inj (hd'.symm.trans hd)).1
  have hmoves : ∀ k ∈ ["a", "b"], d.Moves s k := by
    intro k hk
    have hpositions : d.positions k = [⟨some 5, []⟩] ∧ s.readPosition k = ⟨some 3, []⟩ := by
      revert k
      decide
    exact ⟨⟨some 5, []⟩, by simp [hpositions.1], by simp [hpositions.2]⟩
  have hstill : ¬ d.Moves s "c" := by
    rintro ⟨p, hp, hne⟩
    exact hne (List.mem_singleton.mp hp)
  exact ⟨.standard, s, d, told, hreturns, rfl, (htold "a").mpr (hmoves "a" (by simp)),
    (htold "b").mpr (hmoves "b" (by simp)), fun hc => hstill ((htold "c").mp hc),
    (hlisted "a" (hmoves "a" (by simp))).mpr rfl, (hgone "b" rfl).1, (hgone "c" rfl).1⟩

/-- The one chat is moved and removed by the same delta. A listener is told of it, and it is gone. -/
theorem readChats_getUpdates_of_removed : ∃ (config : AgentConfig) (s : Snapshot) (d : Delta)
    (told : List Told), (getUpdates config s).Returns told (.ok (s.merge d)) ∧
    ((getUpdates config s).heard told).filterMap (reading Delta "updates") = [d] ∧
    chatIds s.chats = ["a"] ∧ d.chatsUpdated.map (·.summary.chatId) = ["a"] ∧
    d.chatsRemoved.toList = ["a"] ∧
    (getUpdates config s).reported told = [.readElsewhere "a" (some 5) []] ∧
    (s.merge d).state.chats = [] ∧ (s.merge d).state.affectedEvents.get? "a" = none := by
  let chat (n : MessageIndex) : ChatSummary :=
    { (default : ChatSummary) with chatId := "a", readByMeUpTo := some n }
  let s : Snapshot := { (default : Snapshot) with chats := [chat 3] }
  let d : Delta := { (default : Delta) with
    chatsUpdated := [⟨chat 5, []⟩]
    chatsRemoved := .ofList ["a"] }
  obtain ⟨told, hreturns, hd, hreported⟩ := getUpdates_of_answer .standard s d
  have hevents : readChanges s d = [.readElsewhere "a" (some 5) []] := by decide
  have hempty : (s.merge d).state.chats = [] := by
    have hmerged : d.mergeChats s.chats = [] := by decide
    rw [Snapshot.merge_of_hasChanges rfl]
    show sortChats _ (d.mergeChats s.chats) = []
    simp [hmerged, sortChats]
  exact ⟨.standard, s, d, told, hreturns, hd, rfl, rfl, rfl, hreported.trans hevents, hempty,
    (not_mem_merge_of_removed rfl).2⟩

end Operation
end ChatBridge
