import ChatBridge.Chat.Basic

/-!
# The order of the chat list is total

`compareChats` ranks the chats, and equal rank is all that can keep two chats apart from a strict
order. So `sortChats` gives a list in that order of the same chats. Only chats that are not pinned
and were active at the same moment have equal rank, so the lists that two orders of the same chats
are sorted into differ at most there.
-/

namespace ChatBridge

variable {pinned : List ChatId} {a b c : ChatSummary} {cs : List ChatSummary}

theorem compareChats_swap : (compareChats pinned a b).swap = compareChats pinned b a := by
  unfold compareChats
  cases pinnedAt pinned a with
  | some i =>
    cases pinnedAt pinned b with
    | some j => exact Nat.compare_swap i j
    | none => rfl
  | none =>
    cases pinnedAt pinned b with
    | some j => rfl
    | none => exact Nat.compare_swap _ _

theorem compareChats_isLE_total :
    (compareChats pinned a b).isLE || (compareChats pinned b a).isLE := by
  rw [← compareChats_swap (a := a)]
  cases compareChats pinned a b <;> rfl

theorem compareChats_isLE_trans (hab : (compareChats pinned a b).isLE)
    (hbc : (compareChats pinned b c).isLE) : (compareChats pinned a c).isLE := by
  unfold compareChats at hab hbc ⊢
  cases ha : pinnedAt pinned a with
  | some i =>
    cases hc : pinnedAt pinned c with
    | none => rfl
    | some k =>
      cases hb : pinnedAt pinned b with
      | none => simp [hb, hc] at hbc
      | some j =>
        simp only [ha, hb, hc, Nat.isLE_compare] at hab hbc ⊢
        exact Nat.le_trans hab hbc
  | none =>
    cases hb : pinnedAt pinned b with
    | some j => simp [ha, hb] at hab
    | none =>
      cases hc : pinnedAt pinned c with
      | some k => simp [hb, hc] at hbc
      | none =>
        simp only [ha, hb, hc, Nat.isLE_compare] at hab hbc ⊢
        exact Nat.le_trans hbc hab

theorem sortChats_perm : (sortChats pinned cs).Perm cs := List.mergeSort_perm cs _

theorem sortChats_pairwise :
    (sortChats pinned cs).Pairwise fun a b => (compareChats pinned a b).isLE :=
  @List.pairwise_mergeSort _ (fun a b => (compareChats pinned a b).isLE)
    (fun _ _ _ => compareChats_isLE_trans) (fun _ _ => compareChats_isLE_total) cs

theorem sortChats_of_pairwise (h : cs.Pairwise fun a b => (compareChats pinned a b).isLE) :
    sortChats pinned cs = cs := List.mergeSort_of_pairwise h

/-! ## Equal rank -/

theorem pinnedAt_eq_none_iff : pinnedAt pinned c = none ↔ c.chatId ∉ pinned := by
  unfold pinnedAt
  rw [List.findIdx?_eq_none_iff]
  constructor
  · intro h hc
    have := h _ hc
    simp at this
  · intro h k hk
    exact beq_false_of_ne fun he => h (he ▸ hk)

theorem getElem?_of_pinnedAt {i : Nat} (h : pinnedAt pinned c = some i) :
    pinned[i]? = some c.chatId := by
  obtain ⟨hi, hc, _⟩ := List.findIdx?_eq_some_iff_getElem.mp h
  rw [List.getElem?_eq_getElem hi, eq_of_beq hc]

theorem mem_of_pinnedAt {i : Nat} (h : pinnedAt pinned c = some i) : c.chatId ∈ pinned :=
  List.mem_of_getElem? (getElem?_of_pinnedAt h)

theorem compareChats_eq_iff : compareChats pinned a b = .eq ↔
    a.chatId ∈ pinned ∧ a.chatId = b.chatId ∨
      a.chatId ∉ pinned ∧ b.chatId ∉ pinned ∧ a.activity = b.activity := by
  unfold compareChats
  cases ha : pinnedAt pinned a with
  | some i =>
    have hpa := mem_of_pinnedAt ha
    have hia := getElem?_of_pinnedAt ha
    cases hb : pinnedAt pinned b with
    | some j =>
      have hjb := getElem?_of_pinnedAt hb
      simp only [Nat.compare_eq_eq]
      constructor
      · intro hij
        rw [hij, hjb] at hia
        exact .inl ⟨hpa, (Option.some.inj hia).symm⟩
      · rintro (⟨_, hid⟩ | ⟨hn, _, _⟩)
        · rw [pinnedAt, hid] at ha
          exact Option.some.inj (ha.symm.trans hb)
        · exact absurd hpa hn
    | none =>
      have hnb := pinnedAt_eq_none_iff.mp hb
      simp only [reduceCtorEq, false_iff]
      rintro (⟨_, hid⟩ | ⟨hn, _, _⟩)
      · exact hnb (hid ▸ hpa)
      · exact hn hpa
  | none =>
    have hna := pinnedAt_eq_none_iff.mp ha
    cases hb : pinnedAt pinned b with
    | some j =>
      have hpb := mem_of_pinnedAt hb
      simp only [reduceCtorEq, false_iff]
      rintro (⟨hp, _⟩ | ⟨_, hn, _⟩)
      · exact hna hp
      · exact hn hpb
    | none =>
      have hnb := pinnedAt_eq_none_iff.mp hb
      simp only [hna, hnb, not_false_eq_true, false_and, true_and, false_or, Nat.compare_eq_eq,
        UInt64.toNat_inj]
      exact eq_comm

theorem compareChats_eq_of_isLE (hab : (compareChats pinned a b).isLE)
    (hba : (compareChats pinned b a).isLE) : compareChats pinned a b = .eq := by
  rw [← compareChats_swap (a := a)] at hba
  cases h : compareChats pinned a b with
  | lt => rw [h] at hba; cases hba
  | eq => rfl
  | gt => rw [h] at hab; cases hab

theorem mem_of_compareChats_isLE (hab : (compareChats pinned a b).isLE) (hb : b.chatId ∈ pinned) :
    a.chatId ∈ pinned := by
  cases ha : pinnedAt pinned a with
  | some i => exact mem_of_pinnedAt ha
  | none =>
    cases hpb : pinnedAt pinned b with
    | none => exact absurd hb (pinnedAt_eq_none_iff.mp hpb)
    | some j =>
      unfold compareChats at hab
      rw [ha, hpb] at hab
      cases hab

/-! ## Lists in order -/

def pinnedPart (pinned : List ChatId) (cs : List ChatSummary) : List ChatSummary :=
  cs.filter (·.chatId ∈ pinned)

def unpinnedPart (pinned : List ChatId) (cs : List ChatSummary) : List ChatSummary :=
  cs.filter (·.chatId ∉ pinned)

theorem eq_pinnedPart_append (h : cs.Pairwise fun a b => (compareChats pinned a b).isLE) :
    cs = pinnedPart pinned cs ++ unpinnedPart pinned cs := by
  induction cs with
  | nil => rfl
  | cons c cs ih =>
    obtain ⟨hc, hcs⟩ := List.pairwise_cons.mp h
    unfold pinnedPart unpinnedPart at *
    by_cases hp : c.chatId ∈ pinned
    · rw [List.filter_cons_of_pos (by simpa using hp), List.filter_cons_of_neg (by simpa using hp),
        List.cons_append, ← ih hcs]
    · -- no pinned chat can follow
      have hnone : cs.filter (·.chatId ∈ pinned) = [] := by
        rw [List.filter_eq_nil_iff]
        intro b hb hpb
        exact hp (mem_of_compareChats_isLE (hc b hb) (of_decide_eq_true hpb))
      rw [List.filter_cons_of_neg (by simpa using hp), List.filter_cons_of_pos (by simpa using hp),
        hnone, List.nil_append]
      rw [hnone, List.nil_append] at ih
      rw [← ih hcs]

theorem eq_of_perm_of_pairwise {ds : List ChatSummary} (h : cs.Perm ds)
    (hcs : cs.Pairwise fun a b => (compareChats pinned a b).isLE)
    (hds : ds.Pairwise fun a b => (compareChats pinned a b).isLE)
    (hrank : ∀ a ∈ cs, ∀ b ∈ cs, compareChats pinned a b = .eq → a = b) : cs = ds := by
  apply h.eq_of_pairwise _ hcs hds
  intro a b ha hb hab hba
  exact hrank a ha b (h.mem_iff.mpr hb) (compareChats_eq_of_isLE hab hba)

end ChatBridge
