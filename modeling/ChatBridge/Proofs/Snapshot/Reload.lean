import ChatBridge.Proofs.Snapshot.Content
import ChatBridge.Proofs.Snapshot.Quiet

/-!
# Deltas and a full reload agree

Whoever follows the deltas and whoever asks for the full list anew see the same chats. Both lists are
in the order of the pinned chats, and that order leaves open only how chats follow each other that
are not pinned and were active at the same moment.
-/

namespace ChatBridge

/-- The full list holds, in any order, the chats that are known, each once. -/
structure InitialState.Carries (r : InitialState) (c : Content) : Prop where
  distinct : (chatIds r.chats).Nodup
  chats : ∀ e, e ∈ r.chats ↔ c.chat? e.chatId = some e
  pinnedChats : r.pinnedChats = c.pinnedChats
  blockedUsers : r.blockedUsers = c.blockedUsers

/-- Two snapshots show the same, up to the order of unpinned chats active at the same moment. -/
structure Snapshot.Agrees (s t : Snapshot) : Prop where
  pinnedChats : s.pinnedChats = t.pinnedChats
  blockedUsers : s.blockedUsers = t.blockedUsers
  perm : s.chats.Perm t.chats
  front : ∃ front rest rest', s.chats = front ++ rest ∧ t.chats = front ++ rest' ∧
    (∀ c ∈ front, c.chatId ∈ s.pinnedChats) ∧ ∀ c ∈ rest ++ rest', c.chatId ∉ s.pinnedChats
  eq : (∀ a ∈ s.chats, ∀ b ∈ s.chats, a.chatId ∉ s.pinnedChats → b.chatId ∉ s.pinnedChats →
    a.activity = b.activity → a = b) → s.chats = t.chats

section
variable {cs ds : List ChatSummary} {k : ChatId}

theorem lookUp_perm (hn : (chatIds cs).Nodup) (h : cs.Perm ds) : lookUp cs k = lookUp ds k := by
  have hm : (chatIds ds).Nodup := (h.map _).nodup_iff.mp hn
  apply Option.ext
  intro c
  rw [lookUp_eq_some_iff hn, lookUp_eq_some_iff hm, h.mem_iff]

end

theorem Content.after_of_not_hasChanges {d : Delta} (c : Content) (h : d.hasChanges = false) :
    c.after d = c := by
  rw [Delta.hasChanges_eq_false_iff.mp h]
  rfl

namespace Snapshot

variable {s : Snapshot} {d : Delta} {i r : InitialState}

/-! ## What a merged snapshot knows -/

theorem content_of_chat? {known : ChatId → Option ChatSummary} (h : ∀ k, s.chat? k = known k) :
    s.content = ⟨known, s.pinnedChats, s.blockedUsers⟩ :=
  congrArg (Content.mk · s.pinnedChats s.blockedUsers) (funext h)

theorem content_toMerged (h : (chatIds i.chats).Nodup) : i.toMerged.state.content = i.content := by
  apply content_of_chat?
  intro k
  exact lookUp_perm (chatIds_sortChats.nodup_iff.mpr h) sortChats_perm

theorem content_merge (h : (chatIds s.chats).Nodup) :
    (s.merge d).state.content = s.content.after d := by
  cases hd : d.hasChanges with
  | false =>
    rw [merge_of_not_hasChanges hd, Content.after_of_not_hasChanges _ hd]
    rfl
  | true =>
    rw [merge_of_hasChanges hd]
    have hmerged := Delta.nodup_chatIds_mergeChats (d := d) h
    apply content_of_chat?
    intro k
    show lookUp (sortChats _ (d.mergeChats s.chats)) k = d.winner? (lookUp s.chats k) k
    rw [lookUp_perm (chatIds_sortChats.nodup_iff.mpr hmerged) sortChats_perm,
      Delta.lookUp_mergeChats]

theorem content_mergeAll (h : (chatIds i.chats).Nodup) (ds : List Delta) :
    (i.toMerged.state.mergeAll ds).content = ds.foldl Content.after i.content := by
  induction ds using List.reverseRecOn with
  | nil => exact content_toMerged h
  | append_singleton ds d ih =>
    have hn := ((consistent_toMerged h).mergeAll ds).distinct
    rw [mergeAll_snoc, content_merge hn, ih, List.foldl_append, List.foldl_cons, List.foldl_nil]

/-! ## A snapshot in order and a full list -/

theorem carries_iff (hn : (chatIds s.chats).Nodup) : r.Carries s.content ↔
    r.chats.Perm s.chats ∧ r.pinnedChats = s.pinnedChats ∧ r.blockedUsers = s.blockedUsers := by
  have hl : ∀ e, s.chat? e.chatId = some e ↔ e ∈ s.chats := by
    intro e
    have h : s.chat? e.chatId = some e ↔ e ∈ s.chats ∧ e.chatId = e.chatId := lookUp_eq_some_iff hn
    rw [h, and_iff_left rfl]
  constructor
  · intro hr
    refine ⟨?_, hr.pinnedChats, hr.blockedUsers⟩
    rw [List.perm_ext_iff_of_nodup (nodup_of_chatIds hr.distinct) (nodup_of_chatIds hn)]
    intro e
    exact (hr.chats e).trans (hl e)
  · rintro ⟨hp, hpin, hb⟩
    refine ⟨(hp.map _).nodup_iff.mpr hn, fun e => ?_, hpin, hb⟩
    exact hp.mem_iff.trans (hl e).symm

theorem agrees_of_carries (hn : (chatIds s.chats).Nodup)
    (hs : s.chats.Pairwise fun a b => (compareChats s.pinnedChats a b).isLE)
    (hr : r.Carries s.content) : s.Agrees r.toMerged.state := by
  obtain ⟨hp, hpin, hb⟩ := (carries_iff hn).mp hr
  have hperm : s.chats.Perm (sortChats r.pinnedChats r.chats) := hp.symm.trans sortChats_perm.symm
  have hsort : (sortChats r.pinnedChats r.chats).Pairwise fun a b =>
      (compareChats s.pinnedChats a b).isLE := hpin ▸ sortChats_pairwise
  -- equal rank of two pinned chats is that of one chat with itself
  have hrank : ∀ {cs : List ChatSummary}, cs.Sublist s.chats →
      (∀ a ∈ cs, ∀ b ∈ cs, a.chatId ∉ s.pinnedChats → b.chatId ∉ s.pinnedChats →
        a.activity = b.activity → a = b) →
      ∀ a ∈ cs, ∀ b ∈ cs, compareChats s.pinnedChats a b = .eq → a = b := by
    intro cs hsub hties a ha b hb hab
    rcases compareChats_eq_iff.mp hab with ⟨_, hid⟩ | ⟨hpa, hpb, hact⟩
    · exact eq_of_chatId_eq hn (hsub.subset ha) (hsub.subset hb) hid
    · exact hties a ha b hb hpa hpb hact
  refine ⟨hpin.symm, hb.symm, hperm, ?_, fun hties => ?_⟩
  · have hfront : pinnedPart s.pinnedChats s.chats =
        pinnedPart s.pinnedChats (sortChats r.pinnedChats r.chats) := by
      refine eq_of_perm_of_pairwise (hperm.filter _) (hs.filter _) (hsort.filter _) ?_
      apply hrank List.filter_sublist
      intro a ha _ _ hpa _ _
      exact absurd (of_decide_eq_true (List.mem_filter.mp ha).2) hpa
    refine ⟨_, _, unpinnedPart s.pinnedChats (sortChats r.pinnedChats r.chats),
      eq_pinnedPart_append hs, ?_, fun c hc => ?_, fun c hc => ?_⟩
    · rw [hfront]
      exact eq_pinnedPart_append hsort
    · exact of_decide_eq_true (List.mem_filter.mp hc).2
    · rcases List.mem_append.mp hc with hc | hc
      · exact of_decide_eq_true (List.mem_filter.mp hc).2
      · exact of_decide_eq_true (List.mem_filter.mp hc).2
  · exact eq_of_perm_of_pairwise hperm hs hsort (hrank (List.Sublist.refl _) hties)

/-! ## Main statement -/

/-- After a delta that changes anything, and after any deltas at all since a full list, the snapshot
agrees with the one that a full list of what is now known would make. -/
theorem merge_agrees_with_reload :
    (∀ (s : Snapshot) (d : Delta) (r : InitialState), (chatIds s.chats).Nodup →
      d.hasChanges = true → r.Carries (s.content.after d) →
      (s.merge d).state.Agrees r.toMerged.state) ∧
    ∀ (i : InitialState) (ds : List Delta) (r : InitialState), (chatIds i.chats).Nodup →
      r.Carries (ds.foldl Content.after i.content) →
      (i.toMerged.state.mergeAll ds).Agrees r.toMerged.state := by
  constructor
  · intro s d r hn hd hr
    rw [← content_merge hn] at hr
    apply agrees_of_carries _ _ hr
    · rw [merge_of_hasChanges hd]
      exact chatIds_sortChats.nodup_iff.mpr (Delta.nodup_chatIds_mergeChats hn)
    · rw [merge_of_hasChanges hd]
      exact sortChats_pairwise
  · intro i ds r hn hr
    rw [← content_mergeAll hn] at hr
    have hc := (consistent_toMerged hn).mergeAll ds
    exact agrees_of_carries hc.distinct hc.sorted hr

/-- A delta updates one of two chats twice, removes and updates the other and adds a pinned one; an
empty delta follows. The full list comes in another order. -/
theorem merge_agrees_with_reload_of_two_chats :
    ∃ (i : InitialState) (d e : Delta) (r : InitialState) (a c : ChatSummary),
      chatIds i.chats = ["b", "a"] ∧ (chatIds i.chats).Nodup ∧ d.hasChanges = true ∧
      e.hasChanges = false ∧ r.chats = [a, c] ∧
      r.Carries (i.toMerged.state.content.after d) ∧
      r.Carries ([d, e].foldl Content.after i.content) ∧
      (i.toMerged.state.merge d).state.Agrees r.toMerged.state ∧
      (i.toMerged.state.mergeAll [d, e]).Agrees r.toMerged.state := by
  let chat (id : ChatId) (n : UInt64) : ChatSummary :=
    { (default : ChatSummary) with chatId := id, dateCreated := n }
  let i : InitialState := ⟨7, [chat "b" 2, chat "a" 1], ∅, [], none⟩
  let d : Delta := ⟨8, [chat "c" 7], [⟨chat "a" 5, [1]⟩, ⟨chat "b" 9, []⟩, ⟨chat "a" 6, []⟩],
    .ofList ["b"], none, some ["c"], none, none, []⟩
  let e : Delta := ⟨9, [], [], ∅, none, none, none, none, []⟩
  let r : InitialState := ⟨9, [chat "a" 6, chat "c" 7], ∅, ["c"], none⟩
  -- the merged list before it is sorted
  let t : Snapshot := { (default : Snapshot) with chats := d.mergeChats i.chats, pinnedChats := ["c"] }
  have hi : (chatIds i.chats).Nodup := by decide
  have ht : t.content = i.content.after d := by
    apply content_of_chat?
    intro k
    show lookUp (d.mergeChats i.chats) k = d.winner? (lookUp i.chats k) k
    exact Delta.lookUp_mergeChats
  have hr : r.Carries (i.content.after d) := by
    rw [← ht]
    have hp : t.chats = r.chats := by decide
    exact (carries_iff (by rw [hp]; decide)).mpr ⟨.of_eq hp.symm, rfl, rfl⟩
  have hr₁ : r.Carries (i.toMerged.state.content.after d) := by rwa [content_toMerged hi]
  have hr₂ : r.Carries ([d, e].foldl Content.after i.content) := by
    rw [List.foldl_cons, List.foldl_cons, List.foldl_nil, Content.after_of_not_hasChanges _ rfl]
    exact hr
  have hs : (chatIds i.toMerged.state.chats).Nodup := (consistent_toMerged hi).distinct
  exact ⟨i, d, e, r, _, _, rfl, hi, rfl, rfl, rfl, hr₁, hr₂,
    merge_agrees_with_reload.1 _ d r hs rfl hr₁, merge_agrees_with_reload.2 i [d, e] r hi hr₂⟩

end Snapshot
end ChatBridge
