import ChatBridge.Envelope.Basic
import ChatBridge.Proofs.Capability

/-!
# Envelopes lose nothing on the wire

Requests and responses carry free-form JSON. It travels with the members of its objects in key order,
so a value that stands in that order is found again, and any other is found in that order.
-/

namespace ChatBridge

/-! ## Free-form values -/

namespace Node

mutual

theorem toJson_ofJson : ∀ j : Json, (ofJson j).toJson = j.ordered
  | .null => rfl
  | .bool _ => rfl
  | .num _ => rfl
  | .str _ => rfl
  | .arr items => by rw [ofJson, toJson, toItems_ofItems items, Json.ordered]
  | .obj members => by rw [ofJson, toJson, toMembers_ofMembers members, Json.ordered]

theorem toItems_ofItems : ∀ items : List Json, toItems (ofItems items) = Json.orderedItems items
  | [] => rfl
  | j :: js => by rw [ofItems, toItems, toJson_ofJson j, toItems_ofItems js, Json.orderedItems]

theorem toMembers_ofMembers : ∀ members : List (String × Json),
    toMembers (ofMembers members) = Json.orderedMembers members
  | [] => rfl
  | (_, j) :: ms => by
    rw [ofMembers, toMembers, toJson_ofJson j, toMembers_ofMembers ms, Json.orderedMembers]

end

end Node

/-- The members of every object stand in key order, none of them twice. Free-form values are kept so,
and are read so whatever order they come in. -/
inductive Json.InOrder : Json → Prop
  | null : InOrder .null
  | bool (b : Bool) : InOrder (.bool b)
  | num (n : Number) : InOrder (.num n)
  | str (s : String) : InOrder (.str s)
  | arr {items : List Json} (h : ∀ j ∈ items, InOrder j) : InOrder (.arr items)
  | obj {members : List (String × Json)} (hr : Entries.Rising members)
      (h : ∀ m ∈ members, InOrder m.2) : InOrder (.obj members)

theorem Json.InOrder.ordered_arrange {j : Json} (h : j.InOrder) (f : Arrangement) :
    (f.arrange j).ordered = j := by
  induction h with
  | null => rw [f.null]; simp [ordered]
  | bool b => rw [f.bool]; simp [ordered]
  | num n => rw [f.num]; simp [ordered]
  | str s => rw [f.str]; simp [ordered]
  | @arr items _ ih =>
    have hitems : items.map (fun i => (f.arrange i).ordered) = items :=
      (List.map_congr_left ih).trans (List.map_id' items)
    rw [f.arr, ordered, orderedItems_eq_map, List.map_map]
    exact congrArg Json.arr hitems
  | @obj members hr _ ih =>
    obtain ⟨moved, hm, hperm⟩ := f.obj hr.nodup
    have hmembers : members.map (fun m => (m.1, (f.arrange m.2).ordered)) = members :=
      (List.map_congr_left fun m hm => congrArg (Prod.mk m.1) (ih m hm)).trans (List.map_id' members)
    have hback := hperm.map fun m => (m.1, m.2.ordered)
    rw [List.map_map] at hback
    rw [hm, ordered, orderedMembers_eq_map]
    exact congrArg Json.obj (Entries.ofList_eq_of_perm hr (hback.trans (.of_eq hmembers)))

theorem Json.faithfulAt {j : Json} (h : j.InOrder) : (Wire.codec : Codec Json).FaithfulAt j := by
  intro f o
  show ((Node.ofJson (f.arrange j.ordered)).setAside.map fun _ =>
    (Node.ofJson (f.arrange j.ordered)).toJson) = _
  rw [Node.setAside_ofJson, Node.toJson_ofJson]
  exact congrArg Except.ok (h.ordered_arrange (f.comp .ordered))

/-! ## Events and faults -/

theorem Event.faithful : Event.tagged.Faithful where
  words := by decide
  known e := by cases e <;> simp [tagged]
  fields v hv := by
    simp only [tagged, List.mem_cons, List.not_mem_nil, or_false] at hv
    rcases hv with rfl | rfl | rfl
    · exact Variant.faithful_record (by simp) (by simp [tagged])
    · exact Variant.faithful_record (by simp) (by simp [tagged])
    · exact Variant.faithful_record (by simp) (by simp [tagged])
  make e := by cases e <;> rfl

instance : Wire.Faithful Event := ⟨Tagged.faithful_codec Event.faithful⟩

theorem Fault.faithful : Fault.tagged.Faithful where
  words := by decide
  known x := by cases x <;> simp [tagged]
  fields v hv := by
    simp only [tagged, List.mem_cons, List.not_mem_nil, or_false] at hv
    rcases hv with rfl | rfl | rfl | rfl | rfl | rfl
    · exact Variant.faithful_record (by simp) (by simp [tagged])
    · exact Variant.faithful_record (by simp) (by simp [tagged])
    · exact Variant.faithful_record (by simp) (by simp [tagged])
    · exact Variant.faithful_record (by simp) (by simp [tagged])
    · exact Variant.faithful_bare
    · exact Variant.faithful_record (by simp) (by simp [tagged])
  make x := by cases x <;> rfl

instance : Wire.Faithful Fault := ⟨Tagged.faithful_codec Fault.faithful⟩

/-! ## Envelopes -/

namespace Envelope

def content? : Envelope → Option Json
  | .request _ _ payload => some payload
  | .response _ value => some value
  | _ => none

theorem view_mem (e : Envelope) : (tagged.view e).1 ∈ tagged.variants := by
  cases e <;> simp [tagged]

theorem nodup_names (e : Envelope) :
    (tagged.tag :: (tagged.view e).1.fields.names).Nodup := by
  have hall : ∀ v ∈ tagged.variants, (tagged.tag :: v.fields.names).Nodup := by decide
  exact hall _ (view_mem e)

theorem faithfulAt {e : Envelope} (h : ∀ j ∈ e.content?, j.InOrder) : tagged.FaithfulAt e where
  words := by decide
  known := view_mem e
  fields := by
    have text (name s : String) : (Field.required name : Field String).FaithfulAt s :=
      (Field.faithful_required name).at s
    have free (name : String) (j : Json) (hj : j.InOrder) :
        (Field.defaulted name .null : Field Json).FaithfulAt j := ⟨Json.faithfulAt hj, nofun⟩
    cases e with
    | request id kind payload => exact ⟨text _ id, text _ kind, free _ payload (h payload rfl), trivial⟩
    | response id value => exact ⟨text _ id, free _ value (h value rfl), trivial⟩
    | error id fault => exact ⟨text _ id, (Field.faithful_required _).at fault, trivial⟩
    | event e => exact ⟨(Field.faithful_required _).at e, trivial⟩
  names := nodup_names e
  make := by cases e <;> rfl

end Envelope
end ChatBridge
