import ChatBridge.Proofs.Chat.Order

/-!
# The order of the chat list is stable

Chats of equal rank stay in the order they had. Together with the order of the ranks this leaves no
choice: a list can be sorted in one way only.
-/

namespace ChatBridge

variable {pinned : List ChatId} {a b c : ChatSummary} {cs ds es : List ChatSummary}

def ofRank (pinned : List ChatId) (c : ChatSummary) (cs : List ChatSummary) : List ChatSummary :=
  cs.filter (compareChats pinned c · = .eq)

/-- `ds` is the list `cs` in order, where chats of equal rank stand as they stood in `cs`. -/
structure SortedFrom (pinned : List ChatId) (cs ds : List ChatSummary) : Prop where
  perm : ds.Perm cs
  ordered : ds.Pairwise fun a b => (compareChats pinned a b).isLE
  stable : ∀ c, ofRank pinned c ds = ofRank pinned c cs

theorem compareChats_self : compareChats pinned a a = .eq := by
  have h : (compareChats pinned a a).isLE := by
    simpa using @compareChats_isLE_total pinned a a
  exact compareChats_eq_of_isLE h h

theorem mem_ofRank : a ∈ ofRank pinned c cs ↔ a ∈ cs ∧ compareChats pinned c a = .eq := by
  rw [ofRank, List.mem_filter, decide_eq_true_iff]

theorem isLE_of_eq_eq (ha : compareChats pinned c a = .eq) (hb : compareChats pinned c b = .eq) :
    (compareChats pinned a b).isLE := by
  refine compareChats_isLE_trans (b := c) ?_ (by rw [hb]; rfl)
  rw [← compareChats_swap, ha]
  rfl

theorem ofRank_sortChats : ofRank pinned c (sortChats pinned cs) = ofRank pinned c cs := by
  have hordered : (ofRank pinned c cs).Pairwise fun a b => (compareChats pinned a b).isLE := by
    refine List.Pairwise.imp_of_mem (R := fun _ _ => True) (fun ha hb _ => ?_) ?_
    · exact isLE_of_eq_eq (mem_ofRank.mp ha).2 (mem_ofRank.mp hb).2
    · exact List.pairwise_of_forall fun _ _ => trivial
  -- in order already, the chats of one rank keep their order in the sorted list
  have hkept : (ofRank pinned c cs).Sublist (sortChats pinned cs) :=
    @List.sublist_mergeSort _ (fun a b => (compareChats pinned a b).isLE) cs
      (fun _ _ _ => compareChats_isLE_trans) (fun _ _ => compareChats_isLE_total) _ hordered
      List.filter_sublist
  have hsub : (ofRank pinned c cs).Sublist (ofRank pinned c (sortChats pinned cs)) := by
    simpa only [ofRank, List.filter_filter, Bool.and_self] using
      hkept.filter (compareChats pinned c · = .eq)
  refine (hsub.eq_of_length ?_).symm
  have hperm : (sortChats pinned cs).Perm cs := sortChats_perm
  exact (hperm.filter _).length_eq.symm

theorem sortedFrom_sortChats : SortedFrom pinned cs (sortChats pinned cs) where
  perm := sortChats_perm
  ordered := sortChats_pairwise
  stable _ := ofRank_sortChats

theorem mem_of_ofRank (h : ∀ c, ofRank pinned c ds = ofRank pinned c es) (ha : a ∈ ds) : a ∈ es := by
  have hm : a ∈ ofRank pinned a ds := mem_ofRank.mpr ⟨ha, compareChats_self⟩
  rw [h a] at hm
  exact (mem_ofRank.mp hm).1

theorem isLE_of_mem_cons (h : (a :: cs).Pairwise fun a b => (compareChats pinned a b).isLE)
    (hb : b ∈ a :: cs) : (compareChats pinned a b).isLE := by
  rcases List.mem_cons.mp hb with rfl | hb
  · rw [compareChats_self]; rfl
  · exact (List.pairwise_cons.mp h).1 b hb

theorem eq_of_ofRank (hds : ds.Pairwise fun a b => (compareChats pinned a b).isLE)
    (hes : es.Pairwise fun a b => (compareChats pinned a b).isLE)
    (h : ∀ c, ofRank pinned c ds = ofRank pinned c es) : ds = es := by
  induction ds generalizing es with
  | nil =>
    refine (List.eq_nil_iff_forall_not_mem.mpr fun c hc => ?_).symm
    cases mem_of_ofRank (fun c => (h c).symm) hc
  | cons a ds ih =>
    cases es with
    | nil => cases mem_of_ofRank h List.mem_cons_self
    | cons b es =>
      -- each of the first two chats is in the other list, so neither is behind the other
      have hab : compareChats pinned a b = .eq := compareChats_eq_of_isLE
        (isLE_of_mem_cons hds (mem_of_ofRank (fun c => (h c).symm) List.mem_cons_self))
        (isLE_of_mem_cons hes (mem_of_ofRank h List.mem_cons_self))
      have hfirst := h a
      rw [ofRank, ofRank, List.filter_cons_of_pos (by simp [compareChats_self]),
        List.filter_cons_of_pos (by simpa using hab)] at hfirst
      obtain ⟨rfl, _⟩ := List.cons.inj hfirst
      have hrest (c : ChatSummary) : ofRank pinned c ds = ofRank pinned c es := by
        have hc := h c
        unfold ofRank at hc ⊢
        by_cases hca : compareChats pinned c a = .eq
        · rw [List.filter_cons_of_pos (by simpa using hca),
            List.filter_cons_of_pos (by simpa using hca)] at hc
          exact (List.cons.inj hc).2
        · rwa [List.filter_cons_of_neg (by simpa using hca),
            List.filter_cons_of_neg (by simpa using hca)] at hc
      rw [ih (List.pairwise_cons.mp hds).2 (List.pairwise_cons.mp hes).2 hrest]

/-- A list can be sorted in one way only, and `sortChats` does. -/
theorem sortedFrom_iff : SortedFrom pinned cs ds ↔ ds = sortChats pinned cs := by
  constructor
  · intro h
    refine eq_of_ofRank h.ordered sortChats_pairwise fun c => ?_
    rw [h.stable, ofRank_sortChats]
  · rintro rfl
    exact sortedFrom_sortChats

theorem filter_sortChats (p : ChatSummary → Bool) :
    (sortChats pinned cs).filter p = sortChats pinned (cs.filter p) := by
  refine sortedFrom_iff.mp ⟨sortChats_perm.filter p, sortChats_pairwise.filter p, fun c => ?_⟩
  have hrank : (ofRank pinned c (sortChats pinned cs)).filter p = (ofRank pinned c cs).filter p :=
    congrArg (List.filter p) ofRank_sortChats
  simpa only [ofRank, List.filter_filter, Bool.and_comm] using hrank

end ChatBridge
