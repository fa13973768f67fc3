import ChatBridge.Proofs.Chat.Wire
import ChatBridge.Snapshot.Wire
import Mathlib.Data.List.Permutation

/-!
# Snapshots and deltas lose nothing on the wire

An avatar update has two members, and either may come first.
-/

namespace ChatBridge

namespace AvatarUpdate

variable {f : Arrangement} {o : Origin}

theorem read_word (k : Kind) : words.read o (.ofJson (f.arrange (.str (words.word k)))) = .ok k :=
  Words.faithful_codec (w := words) (fun k => by cases k <;> rfl) f o k

theorem absorb_kind (k : Kind) :
    absorb o "kind" (.ofJson (f.arrange (.str (words.word k)))) .nothing = .ok (.kind k) := by
  show (do return Progress.kind (← words.read o _)) = _
  rw [read_word]
  rfl

theorem absorb_blob (blobId : UInt64) :
    absorb o "blobId" (.ofJson (f.arrange (Wire.write blobId))) (.kind .set) =
      .ok (.done (.set blobId)) := by
  show (do return Progress.done (← (Wire.read o _).map AvatarUpdate.set)) = _
  rw [Wire.read_write]
  rfl

theorem absorb_blob_first (j : Json) :
    absorb o "blobId" (.ofJson j) .nothing = .ok (.content (.ofJson j)) := by
  show (do (Node.ofJson j).setAside; return Progress.content (.ofJson j)) = _
  rw [Node.setAside_ofJson]
  rfl

theorem absorb_kind_last (blobId : UInt64) :
    absorb o "kind" (.ofJson (f.arrange (.str (words.word .set))))
      (.content (.ofJson (f.arrange (Wire.write blobId)))) = .ok (.done (.set blobId)) := by
  show (do return Progress.done (← readContent .setAside _ (← words.read o _))) = _
  rw [read_word]
  show (do return Progress.done (← (Wire.read .setAside _).map AvatarUpdate.set)) = _
  rw [Wire.read_write]
  rfl

theorem faithful : (Wire.codec : Codec AvatarUpdate).Faithful := fun f o a => by
  show read o (.ofJson (f.arrange a.write)) = _
  cases a with
  | removed =>
    have hn : ([("kind", Json.str "removed")].map Prod.fst).Nodup := by simp
    obtain ⟨ms, hms, hf⟩ := f.exists_nodes hn
    cases List.perm_singleton.mp hms
    have hk : absorb o "kind" (.ofJson (f.arrange (.str "removed"))) .nothing = _ := absorb_kind .removed
    rw [write, hf, read]
    simp only [Arrangement.nodes_cons, Arrangement.nodes_nil, absorbAll, bind, Except.bind, hk]
    rfl
  | set blobId =>
    have hn : ([("kind", Json.str "set"), ("blobId", Wire.write blobId)].map Prod.fst).Nodup := by simp
    obtain ⟨ms, hms, hf⟩ := f.exists_nodes hn
    rw [write, hf, read]
    rcases List.perm_pair.mp hms with rfl | rfl
    · have hk : absorb o "kind" (.ofJson (f.arrange (.str "set"))) .nothing = _ := absorb_kind .set
      simp only [Arrangement.nodes_cons, Arrangement.nodes_nil, absorbAll, bind, Except.bind, hk,
        absorb_blob]
      rfl
    · have hk : absorb o "kind" (.ofJson (f.arrange (.str "set"))) (.content _) = _ :=
        absorb_kind_last blobId
      simp only [Arrangement.nodes_cons, Arrangement.nodes_nil, absorbAll, bind, Except.bind,
        absorb_blob_first, hk]
      rfl

end AvatarUpdate

instance : Wire.Faithful AvatarUpdate := ⟨AvatarUpdate.faithful⟩

instance : Wire.Present AvatarUpdate := ⟨fun f a he => by
  have hn : ∃ members, a.write = .obj members ∧ (members.map Prod.fst).Nodup := by
    cases a <;> exact ⟨_, rfl, by simp⟩
  obtain ⟨members, hw, hn⟩ := hn
  obtain ⟨ms, _, hf⟩ := f.exists_nodes hn
  rw [← hw, show f.arrange a.write = .null from he] at hf
  cases hf⟩

instance : Wire.Faithful Transaction := ⟨Record.faithful (by simp [Transaction.record]) fun _ => rfl⟩

instance : Wire.Faithful UpdatedChat := ⟨Record.faithful (by simp [UpdatedChat.record]) fun _ => rfl⟩

instance : Wire.Faithful Delta := ⟨Record.faithful (by simp [Delta.record]) fun _ => rfl⟩

instance : Wire.Faithful InitialState := ⟨Record.faithful (by simp [InitialState.record]) fun _ => rfl⟩

instance : Wire.Faithful Snapshot := ⟨Record.faithful (by simp [Snapshot.record]) fun _ => rfl⟩

instance : Wire.Faithful GroupCursor := ⟨Record.faithful (by simp [GroupCursor.record]) fun _ => rfl⟩

instance : Wire.Faithful Cursor := ⟨Record.faithful (by simp [Cursor.record]) fun _ => rfl⟩

instance : Wire.Faithful Merged := ⟨Record.faithful (by simp [Merged.record]) fun _ => rfl⟩

end ChatBridge
