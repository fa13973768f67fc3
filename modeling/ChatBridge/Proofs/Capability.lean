import ChatBridge.Capability
import ChatBridge.Proofs.Snapshot.Wire

/-!
# Requests and responses lose nothing on the wire
-/

namespace ChatBridge

/-! ## Users and configurations -/

instance : Wire.Faithful AgentConfig :=
  ⟨Record.faithful (by simp [AgentConfig.record]) fun _ => rfl⟩

instance : Wire.Faithful UserSummary :=
  ⟨Record.faithful (by simp [UserSummary.record]) fun _ => rfl⟩

instance : Wire.Faithful UsersAnswer :=
  ⟨Record.faithful (by simp [UsersAnswer.record]) fun _ => rfl⟩

theorem CreatedUser.faithful : CreatedUser.record.fields.Faithful := by
  simp [record]

instance : Wire.Faithful CreatedUser := ⟨Record.faithful CreatedUser.faithful fun _ => rfl⟩

instance : Wire.Faithful StorageStatus :=
  ⟨Record.faithful (by simp [StorageStatus.record]) fun _ => rfl⟩

theorem CurrentUser.faithful : CurrentUser.tagged.Faithful where
  words := by decide
  known u := by cases u <;> simp [tagged]
  fields v hv := by
    simp only [tagged, List.mem_cons, List.not_mem_nil, or_false] at hv
    rcases hv with rfl | rfl
    · refine Variant.faithful_holding CreatedUser.faithful ?_
      simp [CreatedUser.record, tagged]
    · exact Variant.faithful_bare
  make u := by cases u <;> rfl

instance : Wire.Faithful CurrentUser := ⟨Tagged.faithful_codec CurrentUser.faithful⟩

/-! ## Outcomes -/

instance : Wire.Faithful CheckUsernameOutcome := ⟨Words.faithful_codec fun a => by cases a <;> rfl⟩

instance : Wire.Faithful SetUsernameOutcome := ⟨Words.faithful_codec fun a => by cases a <;> rfl⟩

instance : Wire.Faithful ChatOutcome := ⟨Words.faithful_codec fun a => by cases a <;> rfl⟩

instance : Wire.Faithful BlockOutcome := ⟨Words.faithful_codec fun a => by cases a <;> rfl⟩

instance : Wire.Faithful MarkReadOutcome := ⟨Words.faithful_codec fun a => by cases a <;> rfl⟩

instance : Wire.Faithful LeaveGroupOutcome := ⟨Words.faithful_codec fun a => by cases a <;> rfl⟩

theorem PinChatOutcome.faithful : PinChatOutcome.tagged.Faithful where
  words := by decide
  known a := by cases a <;> simp [tagged]
  fields v hv := by
    simp only [tagged, List.mem_cons, List.not_mem_nil, or_false] at hv
    rcases hv with rfl | rfl | rfl
    · exact Variant.faithful_bare
    · exact Variant.faithful_record (by simp) (by simp [tagged])
    · exact Variant.faithful_bare
  make a := by cases a <;> rfl

instance : Wire.Faithful PinChatOutcome := ⟨Tagged.faithful_codec PinChatOutcome.faithful⟩

theorem SetBioOutcome.faithful : SetBioOutcome.tagged.Faithful where
  words := by decide
  known a := by cases a <;> simp [tagged]
  fields v hv := by
    simp only [tagged, List.mem_cons, List.not_mem_nil, or_false] at hv
    rcases hv with rfl | rfl
    · exact Variant.faithful_bare
    · exact Variant.faithful_record (by simp) (by simp [tagged])
  make a := by cases a <;> rfl

instance : Wire.Faithful SetBioOutcome := ⟨Tagged.faithful_codec SetBioOutcome.faithful⟩

/-! ## Capabilities -/

namespace Capability

theorem ofKind?_kind (c : Capability) : ofKind? c.kind = some c := by
  cases c <;> rfl

theorem eq_of_kind {c d : Capability} (h : c.kind = d.kind) : c = d := by
  have hd := d.ofKind?_kind
  rw [← h, c.ofKind?_kind] at hd
  exact Option.some.inj hd

theorem kind_ne_init (c : Capability) : c.kind ≠ initKind := by
  cases c <;> decide

theorem faithful_request (c : Capability) : c.requestCodec.Faithful := by
  cases c with
  | getCurrentUser => exact Codec.faithful_bare
  | getInitialState => exact Codec.faithful_bare
  | getUpdates => exact Codec.faithful_single (by simp)
  | getUsers => exact Record.faithful (by simp [UsersQuery.record]) fun _ => rfl
  | getAllCachedUsers => exact Codec.faithful_bare
  | getUserStorageLimits => exact Codec.faithful_bare
  | markAsOnline => exact Codec.faithful_bare
  | markMessagesRead => exact Record.faithful (by simp [ReadMark.record]) fun _ => rfl
  | toggleMuteNotifications => exact Record.faithful (by simp [MuteChange.record]) fun _ => rfl
  | _ => exact Codec.faithful_single (by simp)

theorem faithful_response (c : Capability) : c.responseCodec.Faithful := by
  cases c <;> exact Wire.Faithful.faithful

theorem ofValue_request (c : Capability) (r : c.Request) :
    c.requestCodec.ofValue (c.requestCodec.toValue r) = .ok r := c.faithful_request.ofValue_toValue r

theorem ofValue_response (c : Capability) (x : c.Response) :
    c.responseCodec.ofValue (c.responseCodec.toValue x) = .ok x :=
  c.faithful_response.ofValue_toValue x

end Capability
end ChatBridge
