import ChatBridge.Chat.Wire
import ChatBridge.Proofs.Wire.Variants

/-!
# Chats lose nothing on the wire

The members of a summary and those of its kind have no name in common, so each is found again among
all of them.
-/

namespace ChatBridge

theorem ChatKind.faithful : ChatKind.tagged.Faithful where
  words := by decide
  known k := by cases k <;> simp [tagged]
  fields v hv := by
    simp only [tagged, List.mem_cons, List.not_mem_nil, or_false] at hv
    rcases hv with rfl | rfl
    · exact Variant.faithful_record (by simp) (by simp [tagged])
    · exact Variant.faithful_record (by simp [groupFields]) (by simp [groupFields, tagged])
  make k := by cases k <;> rfl

instance : Wire.Faithful ChatKind := ⟨Tagged.faithful_codec ChatKind.faithful⟩

theorem MessageSummary.faithful : MessageSummary.record.fields.Faithful := by
  simp [record]

instance : Wire.Faithful MessageSummary := ⟨Record.faithful MessageSummary.faithful fun _ => rfl⟩

instance : Wire.Present MessageSummary := ⟨Record.arrange_ne MessageSummary.faithful⟩

theorem ThreadRead.faithful : ThreadRead.record.fields.Faithful := by
  simp [record]

instance : Wire.Faithful ThreadRead := ⟨Record.faithful ThreadRead.faithful fun _ => rfl⟩

namespace ChatSummary

theorem faithful_ownFields : ownFields.Faithful := by
  simp [ownFields]

theorem not_mem_names_of_kind {k : ChatKind} {m : String × Json}
    (h : m ∈ ChatKind.tagged.members k) : m.1 ∉ ownFields.names := by
  have hname : m.1 ∈ ["kind", "them", "name", "description", "public", "participantCount"] := by
    cases k with
    | direct them =>
      have hn := List.mem_map_of_mem (f := Prod.fst) h
      exact List.mem_of_mem_take (i := 2) (l := ["kind", "them", "name", "description", "public",
        "participantCount"]) hn
    | group name description isPublic participants =>
      have hn := List.mem_map_of_mem (f := Prod.fst) h
      change m.1 ∈ ["kind", "name", "description", "public", "participantCount"] at hn
      simp only [List.mem_cons] at hn ⊢
      exact hn.imp id .inr
  intro hm
  simp only [List.mem_cons, List.not_mem_nil, or_false] at hname
  rcases hname with he | he | he | he | he | he <;> · rw [he] at hm; revert hm; decide

/-- Own members fill their slots, and the others are kept in their order. -/
theorem absorbAll_write {o : Origin} {f : Arrangement} {own : Own} {seen : List String}
    {ms : List (String × Json)} (hms : ∀ m ∈ ms, m.1 ∈ ownFields.names → m ∈ ownFields.write own)
    (hn : (ms.map Prod.fst).Nodup) (hs : ∀ m ∈ ms, m.1 ∉ seen) :
    ∃ seen', (∀ n, n ∈ seen → n ∈ seen') ∧
      (∀ m ∈ ms, m.1 ∈ ownFields.names → m.1 ∈ seen') ∧
      absorbAll o (f.nodes ms) (ownFields.filled own seen) = .ok (ownFields.filled own seen',
        f.nodes (ms.filter fun m => !ownFields.names.contains m.1)) := by
  induction ms generalizing seen with
  | nil => exact ⟨seen, fun _ h => h, fun _ h => absurd h List.not_mem_nil, rfl⟩
  | cons m ms ih =>
    obtain ⟨hm, hn⟩ := List.nodup_cons.mp hn
    have hrest : ∀ q ∈ ms, q.1 ∈ ownFields.names → q ∈ ownFields.write own :=
      fun q hq => hms q (List.mem_cons_of_mem _ hq)
    rw [Arrangement.nodes_cons, absorbAll]
    by_cases hown : ownFields.names.contains m.1 = true
    · have hmem := List.contains_iff_mem.mp hown
      have hnot : ∀ q ∈ ms, q.1 ∉ m.1 :: seen := fun q hq h => by
        rcases List.mem_cons.mp h with he | h
        · exact hm (List.mem_map.mpr ⟨q, hq, he⟩)
        · exact hs q (List.mem_cons_of_mem _ hq) h
      obtain ⟨seen', hold, hnew, hall⟩ := ih hrest hn hnot
      refine ⟨seen', fun n h => hold n (List.mem_cons_of_mem _ h), fun q hq hqn => ?_, ?_⟩
      · rcases List.mem_cons.mp hq with rfl | hq
        · exact hold _ List.mem_cons_self
        · exact hnew q hq hqn
      · rw [if_pos hown, List.filter_cons_of_neg (by simpa using hmem),
          Fields.absorb_write (faithful_ownFields.at own) faithful_ownFields.nodup_names
            (hms m List.mem_cons_self hmem)
            (hs m List.mem_cons_self)]
        exact hall
    · obtain ⟨seen', hold, hnew, hall⟩ := ih hrest hn fun q hq => hs q (List.mem_cons_of_mem _ hq)
      refine ⟨seen', hold, fun q hq hqn => ?_, ?_⟩
      · rcases List.mem_cons.mp hq with rfl | hq
        · exact absurd (List.contains_iff_mem.mpr hqn) hown
        · exact hnew q hq hqn
      · rw [if_neg hown, List.filter_cons_of_pos (by simpa using hown), Node.setAside_ofJson, hall]
        rfl

theorem write_perm (c : ChatSummary) : ∃ members, c.write = .obj members ∧
    (members.map Prod.fst).Nodup ∧
    members.Perm (ownFields.write c.own ++ ChatKind.tagged.members c.kind) := by
  have hperm : ((ownFields.write c.own).take 1 ++ ChatKind.tagged.members c.kind ++
      (ownFields.write c.own).drop 1).Perm
        (ownFields.write c.own ++ ChatKind.tagged.members c.kind) := by
    have h := (ownFields.write c.own).take_append_drop 1
    calc _ = (ownFields.write c.own).take 1 ++ (ChatKind.tagged.members c.kind ++
          (ownFields.write c.own).drop 1) := List.append_assoc ..
      _ |>.Perm ((ownFields.write c.own).take 1 ++ ((ownFields.write c.own).drop 1 ++
          ChatKind.tagged.members c.kind)) := List.perm_append_comm.append_left _
      _ = _ := by rw [← List.append_assoc, h]
  refine ⟨_, rfl, ?_, hperm⟩
  have hown := Fields.names_write_sublist ownFields c.own
  rw [(hperm.map Prod.fst).nodup_iff, List.map_append, List.nodup_append]
  refine ⟨hown.nodup faithful_ownFields.nodup_names, Tagged.nodup_members (ChatKind.faithful.at _).names, ?_⟩
  rintro n hn m hm rfl
  obtain ⟨q, hq, rfl⟩ := List.mem_map.mp hm
  exact not_mem_names_of_kind hq (hown.subset hn)

theorem faithful : (Wire.codec : Codec ChatSummary).Faithful := fun f o c => by
  obtain ⟨members, hw, hn, hperm⟩ := c.write_perm
  obtain ⟨ms, hms, hf⟩ := f.exists_nodes hn
  have hms := hms.trans hperm
  have hmem : ∀ m ∈ ms, m.1 ∈ ownFields.names → m ∈ ownFields.write c.own := by
    intro m hm hname
    rcases List.mem_append.mp (hms.mem_iff.mp hm) with h | h
    · exact h
    · exact absurd hname (not_mem_names_of_kind h)
  obtain ⟨seen, _, hseen, hall⟩ := absorbAll_write (o := o) (f := f) hmem
    (((hms.trans hperm.symm).map Prod.fst).nodup_iff.mpr hn) fun _ _ => List.not_mem_nil
  have hend : ownFields.finish (ownFields.filled c.own seen) = .ok c.own :=
    Fields.finish_filled (faithful_ownFields.at _) fun m hm =>
      hseen m (hms.mem_iff.mpr (List.mem_append_left _ hm)) (Fields.mem_names_of_write hm)
  have hothers : (ms.filter fun m => !ownFields.names.contains m.1).Perm
      (ChatKind.tagged.members c.kind) := by
    refine (hms.filter _).trans (.of_eq ?_)
    rw [List.filter_append, List.filter_eq_nil_iff.mpr, List.nil_append, List.filter_eq_self]
    · intro m hm
      simpa using not_mem_names_of_kind hm
    · intro m hm
      simpa using Fields.mem_names_of_write hm
  show read o (.ofJson (f.arrange c.write)) = _
  rw [hw, hf, read, Fields.vacant_eq_filled ownFields c.own, hall]
  show (do let own ← ownFields.finish (ownFields.filled c.own seen); _) = _
  rw [hend]
  show (do let kind ← ChatKind.tagged.readMembers .setAside (f.nodes _) .closed; _) = _
  rw [Tagged.readMembers_write (ChatKind.faithful.at _) hothers]
  rfl

end ChatSummary

instance : Wire.Faithful ChatSummary := ⟨ChatSummary.faithful⟩

end ChatBridge
