import ChatBridge.Proofs.Envelope.Wire
import ChatBridge.Proofs.Wire.Plain

/-!
# Round trips

Every type that travels between client, worker and services is found again, from the value that is
written and from the text. The bounds say how deep the values of a type nest.
-/

namespace ChatBridge

/-! ## Chats -/

instance : Wire.Plain ThreadRead 1 :=
  ⟨Record.plain (by decide) fun _ => by simp [ThreadRead.record]⟩

instance : Wire.Plain MessageSummary 1 :=
  ⟨Record.plain (by decide) fun _ => by simp [MessageSummary.record]⟩

theorem ChatKind.plain_fields (k : ChatKind) :
    (tagged.view k).1.fields.PlainAt (tagged.view k).2 0 := by
  cases k <;> simp [tagged, directVariant, groupVariant, groupFields, Variant.record]

instance : Wire.Plain ChatKind 1 :=
  ⟨fun k => Tagged.plain (ChatKind.faithful.at k).names k.plain_fields⟩

instance : Wire.Plain ChatSummary 3 := ⟨fun c => by
  obtain ⟨members, hw, hn, hperm⟩ := c.write_perm
  show c.write.Plain 3
  rw [hw]
  refine .obj hn fun m hm => ?_
  rcases List.mem_append.mp (hperm.mem_iff.mp hm) with hm | hm
  · have hown : ChatSummary.ownFields.PlainAt c.own 2 := by
      simp [ChatSummary.ownFields, ChatSummary.own]
    exact hown.of_mem hm
  · exact (Tagged.plain_member c.kind.plain_fields hm).mono (by decide)⟩

/-! ## Snapshots and deltas -/

instance : Wire.Plain AvatarUpdate 1 := ⟨fun a => by
  cases a with
  | removed =>
    refine .obj (by simp) fun m hm => ?_
    cases List.mem_singleton.mp hm
    exact .str _
  | set blobId =>
    refine .obj (by simp) fun m hm => ?_
    rcases List.mem_cons.mp hm with rfl | hm
    · exact .str _
    · cases List.mem_singleton.mp hm
      exact Wire.plain_of_le (Nat.le_refl 0) blobId⟩

instance : Wire.Plain Transaction 1 :=
  ⟨Record.plain (by decide) fun _ => by simp [Transaction.record]⟩

instance : Wire.Plain UpdatedChat 4 :=
  ⟨Record.plain (by decide) fun _ => by simp [UpdatedChat.record]⟩

instance : Wire.Plain Delta 6 := ⟨Record.plain (by decide) fun _ => by simp [Delta.record]⟩

instance : Wire.Plain InitialState 5 :=
  ⟨Record.plain (by decide) fun _ => by simp [InitialState.record]⟩

instance : Wire.Plain Snapshot 5 := ⟨Record.plain (by decide) fun _ => by simp [Snapshot.record]⟩

instance : Wire.Plain GroupCursor 1 :=
  ⟨Record.plain (by decide) fun _ => by simp [GroupCursor.record]⟩

instance : Wire.Plain Cursor 3 := ⟨Record.plain (by decide) fun _ => by simp [Cursor.record]⟩

instance : Wire.Plain Merged 6 := ⟨Record.plain (by decide) fun _ => by simp [Merged.record]⟩

/-! ## Users and configurations -/

instance : Wire.Plain AgentConfig 1 :=
  ⟨Record.plain (by decide) fun _ => by simp [AgentConfig.record]⟩

instance : Wire.Plain UserSummary 1 :=
  ⟨Record.plain (by decide) fun _ => by simp [UserSummary.record]⟩

instance : Wire.Plain UsersAnswer 3 :=
  ⟨Record.plain (by decide) fun _ => by simp [UsersAnswer.record]⟩

instance : Wire.Plain CreatedUser 1 :=
  ⟨Record.plain (by decide) fun _ => by simp [CreatedUser.record]⟩

instance : Wire.Plain StorageStatus 1 :=
  ⟨Record.plain (by decide) fun _ => by simp [StorageStatus.record]⟩

instance : Wire.Plain CurrentUser 1 := ⟨fun u =>
  Tagged.plain (CurrentUser.faithful.at u).names (by
    cases u <;> simp [CurrentUser.tagged, CurrentUser.createdVariant, CurrentUser.unknownVariant,
      Variant.holding, Variant.bare, CreatedUser.record])⟩

/-! ## Outcomes -/

instance : Wire.Plain CheckUsernameOutcome 0 := ⟨fun _ => .str _⟩

instance : Wire.Plain SetUsernameOutcome 0 := ⟨fun _ => .str _⟩

instance : Wire.Plain ChatOutcome 0 := ⟨fun _ => .str _⟩

instance : Wire.Plain BlockOutcome 0 := ⟨fun _ => .str _⟩

instance : Wire.Plain MarkReadOutcome 0 := ⟨fun _ => .str _⟩

instance : Wire.Plain LeaveGroupOutcome 0 := ⟨fun _ => .str _⟩

instance : Wire.Plain PinChatOutcome 1 := ⟨fun a =>
  Tagged.plain (PinChatOutcome.faithful.at a).names (by
    cases a <;> simp [PinChatOutcome.tagged, PinChatOutcome.successVariant,
      PinChatOutcome.limitVariant, PinChatOutcome.notFoundVariant, Variant.record, Variant.bare])⟩

instance : Wire.Plain SetBioOutcome 1 := ⟨fun a =>
  Tagged.plain (SetBioOutcome.faithful.at a).names (by
    cases a <;> simp [SetBioOutcome.tagged, SetBioOutcome.successVariant,
      SetBioOutcome.tooLongVariant, Variant.record, Variant.bare])⟩

/-! ## Envelopes -/

instance : Wire.Plain Event 3 := ⟨fun e =>
  Tagged.plain (Event.faithful.at e).names (by
    cases e <;> simp [Event.tagged, Event.readElsewhereVariant, Event.storageUpdatedVariant,
      Event.usersLoadedVariant, Variant.record])⟩

instance : Wire.Plain Fault 1 := ⟨fun f =>
  Tagged.plain (Fault.faithful.at f).names (by
    cases f <;> simp [Fault.tagged, Fault.serviceVariant, Fault.transportVariant,
      Fault.undecodableVariant, Fault.invalidPayloadVariant, Fault.agentNotInitializedVariant,
      Fault.internalVariant, Variant.record, Variant.bare])⟩

theorem Envelope.plain {e : Envelope} {k : Nat} (hk : 3 ≤ k)
    (h : ∀ j ∈ e.content?, j.Plain k) : (Wire.write e).Plain (k + 1) := by
  have hone : 1 ≤ k := Nat.le_trans (by decide) hk
  have hfree (j : Json) (hj : e.content? = some j) : (Wire.write j).Plain k :=
    Arrangement.ordered.plain (h j hj)
  refine Tagged.plain e.nodup_names ?_
  cases e with
  | request id kind payload => exact ⟨.str id, .str kind, hfree payload rfl, trivial⟩
  | response id value => exact ⟨.str id, hfree value rfl, trivial⟩
  | error id fault => exact ⟨.str id, Wire.plain_of_le hone fault, trivial⟩
  | event e => exact ⟨Wire.plain_of_le hk e, trivial⟩

/-! ## Capabilities -/

theorem Capability.plain_request (c : Capability) (r : c.Request) :
    ∃ k < JsonText.depthLimit, (c.requestCodec.write r).Plain k := by
  cases c with
  | getUpdates => exact ⟨6, by decide, Codec.plain_single (Wire.plain_of_le (Nat.le_refl 5) r)⟩
  | getUsers =>
    exact ⟨2, by decide, Record.plain (by decide) (fun _ => by simp [UsersQuery.record]) r⟩
  | markMessagesRead =>
    exact ⟨3, by decide, Record.plain (by decide) (fun _ => by simp [ReadMark.record]) r⟩
  | toggleMuteNotifications =>
    exact ⟨1, by decide, Record.plain (by decide) (fun _ => by simp [MuteChange.record]) r⟩
  | getCurrentUser => exact ⟨0, by decide, .null⟩
  | getInitialState => exact ⟨0, by decide, .null⟩
  | getAllCachedUsers => exact ⟨0, by decide, .null⟩
  | getUserStorageLimits => exact ⟨0, by decide, .null⟩
  | markAsOnline => exact ⟨0, by decide, .null⟩
  | _ => exact ⟨1, by decide, Codec.plain_single (Wire.plain_of_le (Nat.le_refl 0) r)⟩

theorem Capability.plain_response (c : Capability) (x : c.Response) :
    ∃ k < JsonText.depthLimit, (c.responseCodec.write x).Plain k := by
  cases c <;> exact ⟨_, by decide, Wire.Plain.plain x⟩

/-! ## All of them -/

/-- The types that travel, and the parts they are made of. -/
inductive WireType where
  | envelope | fault | event | config
  | setUpRequest | setUpResponse | request (c : Capability) | response (c : Capability)
  | threadRead | messageSummary | chatKind | chatSummary
  | avatarUpdate | transaction | updatedChat | delta | initialState | snapshot
  | groupCursor | cursor | merged
  | userSummary | users | usersAnswer | createdUser | currentUser | storageStatus

namespace WireType

@[reducible] def Value : WireType → Type
  | .envelope => Envelope
  | .fault => Fault
  | .event => Event
  | .config => AgentConfig
  | .setUpRequest => RequestType.setUp.Request
  | .setUpResponse => RequestType.setUp.Response
  | .request c => c.Request
  | .response c => c.Response
  | .threadRead => ThreadRead
  | .messageSummary => MessageSummary
  | .chatKind => ChatKind
  | .chatSummary => ChatSummary
  | .avatarUpdate => AvatarUpdate
  | .transaction => Transaction
  | .updatedChat => UpdatedChat
  | .delta => Delta
  | .initialState => InitialState
  | .snapshot => Snapshot
  | .groupCursor => GroupCursor
  | .cursor => Cursor
  | .merged => Merged
  | .userSummary => UserSummary
  | .users => UserLookup
  | .usersAnswer => UsersAnswer
  | .createdUser => CreatedUser
  | .currentUser => CurrentUser
  | .storageStatus => StorageStatus

def codec : (t : WireType) → Codec t.Value
  | .envelope => Wire.codec
  | .fault => Wire.codec
  | .event => Wire.codec
  | .config => Wire.codec
  | .setUpRequest => RequestType.setUp.requestCodec
  | .setUpResponse => RequestType.setUp.responseCodec
  | .request c => c.requestCodec
  | .response c => c.responseCodec
  | .threadRead => Wire.codec
  | .messageSummary => Wire.codec
  | .chatKind => Wire.codec
  | .chatSummary => Wire.codec
  | .avatarUpdate => Wire.codec
  | .transaction => Wire.codec
  | .updatedChat => Wire.codec
  | .delta => Wire.codec
  | .initialState => Wire.codec
  | .snapshot => Wire.codec
  | .groupCursor => Wire.codec
  | .cursor => Wire.codec
  | .merged => Wire.codec
  | .userSummary => Wire.codec
  | .users => Wire.codec
  | .usersAnswer => Wire.codec
  | .createdUser => Wire.codec
  | .currentUser => Wire.codec
  | .storageStatus => Wire.codec

def content? : (t : WireType) → t.Value → Option Json
  | .envelope, e => e.content?
  | _, _ => none

theorem faithfulAt (t : WireType) (v : t.Value) (h : ∀ j ∈ t.content? v, j.InOrder) :
    t.codec.FaithfulAt v := by
  cases t with
  | envelope => exact Tagged.faithfulAt_codec (Envelope.faithfulAt h)
  | request c => exact c.faithful_request.at v
  | response c => exact c.faithful_response.at v
  | setUpRequest => exact (Wire.Faithful.faithful (α := AgentConfig)).at v
  | setUpResponse => exact (Wire.Faithful.faithful (α := Unit)).at v
  | _ => exact Wire.Faithful.faithful.at v

theorem plain (t : WireType) (v : t.Value) (h : ∀ j ∈ t.content? v, ∃ k < 100, j.Plain k) :
    ∃ k < JsonText.depthLimit, (t.codec.write v).Plain k := by
  cases t with
  | envelope =>
    refine ⟨100, by decide, Envelope.plain (k := 99) (by decide) fun j hj => ?_⟩
    obtain ⟨k, hk, hplain⟩ := h j hj
    exact hplain.mono (Nat.le_of_lt_succ hk)
  | request c => exact c.plain_request v
  | response c => exact c.plain_response v
  | setUpRequest => exact ⟨1, by decide, Wire.Plain.plain (α := AgentConfig) v⟩
  | setUpResponse => exact ⟨0, by decide, .null⟩
  | _ => exact ⟨_, by decide, Wire.Plain.plain v⟩

/-- Whatever is written of a value is read back as that value. A text may have the members of its
objects in any order; it can be read if what is free-form in it has no doubles and less than 100
containers around each other. -/
theorem round_trip (t : WireType) (v : t.Value) (h : ∀ j ∈ t.content? v, j.InOrder) :
    t.codec.ofValue (t.codec.toValue v) = .ok v ∧
    ((∀ j ∈ t.content? v, ∃ k < 100, j.Plain k) → t.codec.ofText (t.codec.toText v) = .ok v ∧
      ∀ f : Arrangement, t.codec.ofText (f.arrange (t.codec.write v)).compact = .ok v) := by
  have hf := t.faithfulAt v h
  refine ⟨hf (.comp .ordered .ordered) .value, fun hplain => ?_⟩
  obtain ⟨k, hk, hp⟩ := t.plain v hplain
  exact ⟨hf.ofText_compact .asWritten hp hk, fun f => hf.ofText_compact f hp hk⟩

/-- A request with an object in an array in an object, and with characters that have to be
escaped. -/
theorem round_trip_of_nested_request :
    ∃ e : Envelope, (∃ payload, e.content? = some payload ∧ payload.InOrder ∧ payload.Plain 3) ∧
      (Wire.codec : Codec Envelope).ofValue ((Wire.codec : Codec Envelope).toValue e) = .ok e ∧
      (Wire.codec : Codec Envelope).ofText ((Wire.codec : Codec Envelope).toText e) = .ok e := by
  let inner : Json := .obj [("k", .str "\n\"")]
  let items : List Json := [.num (.natural 18446744073709551615), .num (.negative 0), inner]
  let members : List (String × Json) := [("a", .arr items), ("b", .null)]
  have hinner : inner.InOrder ∧ inner.Plain 1 :=
    ⟨.obj (List.pairwise_singleton _ _) fun m hm => by cases List.mem_singleton.mp hm; exact .str _,
      .obj (by decide) fun m hm => by cases List.mem_singleton.mp hm; exact .str _⟩
  have hitems : ∀ j ∈ items, j.InOrder ∧ j.Plain 1 := by
    simp only [items, List.forall_mem_cons]
    exact ⟨⟨.num _, .natural _⟩, ⟨.num _, .negative _⟩, hinner, nofun⟩
  have hmembers : ∀ m ∈ members, m.2.InOrder ∧ m.2.Plain 2 := by
    simp only [members, List.forall_mem_cons]
    exact ⟨⟨.arr fun j hj => (hitems j hj).1, .arr fun j hj => (hitems j hj).2⟩,
      ⟨.null, .null⟩, nofun⟩
  have hrising : Entries.Rising members := by
    simp only [members, Entries.Rising, List.pairwise_pair]
    decide
  have horder : (Json.obj members).InOrder := .obj hrising fun m hm => (hmembers m hm).1
  have hplain : (Json.obj members).Plain 3 := .obj (by decide) fun m hm => (hmembers m hm).2
  have h := round_trip .envelope (.request "id\t1" "pinChat" (.obj members)) fun j hj => by
    cases hj
    exact horder
  refine ⟨_, ⟨_, rfl, horder, hplain⟩, h.1, (h.2 fun j hj => ?_).1⟩
  cases hj
  exact ⟨3, by decide, hplain⟩

end WireType
end ChatBridge
