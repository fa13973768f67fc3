import ChatBridge.Proofs.Snapshot.Invariant

/-!
# Deltas that say nothing

Between two changes a service answers with deltas that carry nothing but the time. They leave no trace:
whoever leaves them out of a sequence comes to the same snapshot but for its time, since nothing that a
delta changes depends on the time of the snapshot before. A step says that nothing was updated for
these deltas and for no others, so a caller that draws the chats only after an update always has the
current ones on the screen.
-/

namespace ChatBridge

theorem KeySet.isEmpty_iff {α : Type} [KeyOrder α] {s : KeySet α} : s.isEmpty = true ↔ s = ∅ := by
  constructor
  · intro h
    obtain ⟨entries⟩ := s
    exact congrArg KeySet.mk (KeyMap.ext (List.isEmpty_iff.mp h))
  · rintro rfl
    rfl

namespace Delta

def quiet (t : UInt64) : Delta := ⟨t, [], [], ∅, none, none, none, none, []⟩

theorem hasChanges_eq_false_iff {d : Delta} : d.hasChanges = false ↔ d = quiet d.timestamp := by
  constructor
  · intro h
    simp only [hasChanges, Bool.or_eq_false_iff, Bool.not_eq_false', List.isEmpty_iff,
      KeySet.isEmpty_iff, Option.isSome_eq_false_iff, Option.isNone_iff_eq_none] at h
    obtain ⟨⟨⟨⟨⟨⟨⟨hb, hp⟩, hu⟩, ha⟩, hr⟩, hv⟩, hc⟩, ht⟩ := h
    cases d
    cases hb
    cases hp
    cases hu
    cases ha
    cases hr
    cases hv
    cases hc
    cases ht
    rfl
  · intro h
    rw [h]
    rfl

end Delta

namespace Snapshot

def dated (s : Snapshot) (t : UInt64) : Snapshot := { s with timestamp := t }

/-- What a caller has drawn that goes along the deltas from `s` and draws the chats only where a step
says that they were updated; `old` is what it has drawn before. -/
def drawn (s old : Snapshot) : List Delta → Snapshot
  | [] => old
  | d :: ds =>
    let m := s.merge d
    m.state.drawn (if m.wasUpdated then m.state else old) ds

variable {s old : Snapshot} {d : Delta} {t : UInt64}

/-! ## One delta -/

@[simp] theorem dated_dated {t' : UInt64} : (s.dated t).dated t' = s.dated t' := rfl

@[simp] theorem dated_timestamp : s.dated s.timestamp = s := rfl

theorem wasUpdated_merge : (s.merge d).wasUpdated = d.hasChanges := by
  cases h : d.hasChanges with
  | true => rw [merge_of_hasChanges h]
  | false => rw [merge_of_not_hasChanges h]

theorem merge_quiet : s.merge (.quiet t) = ⟨false, s.dated t⟩ := rfl

/-- What comes of a delta does not depend on the time before. -/
theorem merge_dated : (s.dated t).merge d = s.merge d := by
  cases h : d.hasChanges with
  | true => rw [merge_of_hasChanges h, merge_of_hasChanges h]; rfl
  | false => rw [merge_of_not_hasChanges h, merge_of_not_hasChanges h]; rfl

theorem state_of_not_wasUpdated (h : (s.merge d).wasUpdated = false) :
    (s.merge d).state = s.dated d.timestamp := by
  rw [wasUpdated_merge] at h
  rw [merge_of_not_hasChanges h]
  rfl

/-! ## A sequence of deltas -/

theorem mergeAll_filter (ds : List Delta) : s.mergeAll ds =
    (s.mergeAll (ds.filter (·.hasChanges))).dated
      ((ds.getLast?.map (·.timestamp)).getD s.timestamp) := by
  induction ds using List.reverseRecOn with
  | nil => rfl
  | append_singleton ds d ih =>
    rw [mergeAll_snoc, ih, merge_dated, List.filter_append, List.getLast?_concat]
    cases h : d.hasChanges with
    | true =>
      rw [List.filter_cons_of_pos h, List.filter_nil, mergeAll_snoc]
      exact dated_timestamp.symm.trans (congrArg (dated _) timestamp_merge)
    | false =>
      rw [List.filter_cons_of_neg (by simp [h]), List.filter_nil, List.append_nil,
        merge_of_not_hasChanges h]
      rfl

theorem drawn_eq (h : old = s.dated old.timestamp) (ds : List Delta) :
    s.drawn old ds = (s.mergeAll ds).dated (s.drawn old ds).timestamp := by
  induction ds generalizing s old with
  | nil => exact h
  | cons d ds ih =>
    refine ih ?_
    cases hu : (s.merge d).wasUpdated with
    | true => rfl
    | false =>
      rw [if_neg Bool.false_ne_true, state_of_not_wasUpdated hu, dated_dated]
      exact h

/-! ## Main statement -/

/-- Deltas without changes are invisible. A sequence of deltas and those of them with changes lead to
the same snapshot but for its time, which is that of the last delta. A step says that nothing was
updated exactly if the delta carries its time alone, and then it moves nothing else. What a caller has
drawn that relies on this is current but for its time, after each delta of any sequence. -/
theorem mergeAll_without_quiet (s : Snapshot) :
    (∀ ds : List Delta, s.mergeAll ds = (s.mergeAll (ds.filter (·.hasChanges))).dated
      ((ds.getLast?.map (·.timestamp)).getD s.timestamp)) ∧
    (∀ d, (s.merge d).wasUpdated = false ↔ d = .quiet d.timestamp) ∧
    (∀ t, s.merge (.quiet t) = ⟨false, s.dated t⟩) ∧
    ∀ ds, s.drawn s ds = (s.mergeAll ds).dated (s.drawn s ds).timestamp := by
  refine ⟨mergeAll_filter, fun d => ?_, fun t => merge_quiet, drawn_eq dated_timestamp.symm⟩
  rw [wasUpdated_merge, Delta.hasChanges_eq_false_iff]

end Snapshot
end ChatBridge
