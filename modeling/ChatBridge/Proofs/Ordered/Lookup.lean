import ChatBridge.Ordered.KeyMap
import Mathlib.Data.List.Induction
import Mathlib.Data.List.Nodup

/-!
# What maps and sets hold

A map is known by what it holds at each key. These lemmas say so for every way to make one, so that
nothing later looks at the lists.
-/

namespace ChatBridge

namespace Entries

variable {α β : Type} [KeyOrder α] {k j : α} {v : β} {es : List (α × β)}

theorem lt_or_lt_of_ne (h : k ≠ j) : k < j ∨ j < k := by
  rcases Std.lt_trichotomy k j with hlt | heq | hlt
  · exact .inl hlt
  · exact absurd heq h
  · exact .inr hlt

theorem find?_cons_self : find? k ((k, v) :: es) = some v := by
  rw [find?, if_neg]
  rintro (h | h)
  · exact Std.lt_irrefl h
  · exact Std.lt_irrefl h

theorem find?_cons_of_ne (h : k ≠ j) : find? k ((j, v) :: es) = find? k es := by
  rw [find?, if_pos (lt_or_lt_of_ne h)]

theorem find?_put_self : find? k (put k v es) = some v := by
  induction es with
  | nil => exact find?_cons_self
  | cons e es ih =>
    unfold put
    split
    · exact find?_cons_self
    · split
      · rename_i hlt
        rw [find?_cons_of_ne (fun h => Std.lt_irrefl (h ▸ hlt)), ih]
      · exact find?_cons_self

theorem find?_put_of_ne (h : j ≠ k) : find? j (put k v es) = find? j es := by
  induction es with
  | nil => exact find?_cons_of_ne h
  | cons e es ih =>
    unfold put
    split
    · exact find?_cons_of_ne h
    · split
      · by_cases hj : j = e.1
        · subst hj; rw [find?_cons_self, find?_cons_self]
        · rw [find?_cons_of_ne hj, find?_cons_of_ne hj, ih]
      · rename_i h₁ h₂
        cases not_lt_and_not_lt h₁ h₂
        rw [find?_cons_of_ne h, find?_cons_of_ne h]

theorem mem_of_find? (h : find? k es = some v) : (k, v) ∈ es := by
  induction es with
  | nil => cases h
  | cons e es ih =>
    by_cases hk : k = e.1
    · subst hk
      rw [find?_cons_self] at h
      cases h
      exact List.mem_cons_self
    · rw [find?_cons_of_ne hk] at h
      exact List.mem_cons_of_mem _ (ih h)

theorem find?_of_mem (hr : Rising es) (h : (k, v) ∈ es) : find? k es = some v := by
  induction es with
  | nil => cases h
  | cons e es ih =>
    obtain ⟨hlt, hr⟩ := List.pairwise_cons.mp hr
    rcases List.mem_cons.mp h with rfl | h
    · exact find?_cons_self
    · have hne : k ≠ e.1 := fun hk => Std.lt_irrefl (hk ▸ hlt _ h)
      rw [find?_cons_of_ne hne, ih hr h]

theorem find?_eq_some_iff (hr : Rising es) : find? k es = some v ↔ (k, v) ∈ es :=
  ⟨mem_of_find?, find?_of_mem hr⟩

/-! ## Putting entries in -/

theorem Rising.nodup (h : Rising es) : (es.map Prod.fst).Nodup := by
  refine List.pairwise_map.mpr (List.Pairwise.imp (fun hlt heq => ?_) h)
  rw [heq] at hlt
  exact Std.lt_irrefl hlt

theorem put_perm (h : k ∉ es.map Prod.fst) : (put k v es).Perm ((k, v) :: es) := by
  induction es with
  | nil => exact .refl _
  | cons e es ih =>
    rw [List.map_cons, List.mem_cons, not_or] at h
    unfold put
    split
    · exact .refl _
    · split
      · exact ((ih h.2).cons e).trans (.swap ..)
      · rename_i h₁ h₂
        exact absurd (not_lt_and_not_lt h₁ h₂) h.1

theorem foldl_put_perm {fs : List (α × β)} (h : ((es ++ fs).map Prod.fst).Nodup) :
    (fs.foldl (fun acc e => put e.1 e.2 acc) es).Perm (es ++ fs) := by
  induction fs generalizing es with
  | nil => rw [List.append_nil]; exact .refl _
  | cons f fs ih =>
    have hswap : (es ++ f :: fs).Perm (f :: es ++ fs) := List.perm_middle
    have hn : ((f :: es ++ fs).map Prod.fst).Nodup := (hswap.map Prod.fst).nodup_iff.mp h
    have hf : f.1 ∉ es.map Prod.fst := by
      rw [List.cons_append, List.map_cons, List.nodup_cons, List.map_append] at hn
      exact fun hm => hn.1 (List.mem_append_left _ hm)
    have hput := (put_perm (v := f.2) hf).append_right fs
    exact (ih ((hput.map Prod.fst).nodup_iff.mpr hn)).trans (hput.trans hswap.symm)

theorem ofList_perm (h : (es.map Prod.fst).Nodup) : (ofList es).Perm es := foldl_put_perm h

theorem eq_of_perm {fs : List (α × β)} (hes : Rising es) (hfs : Rising fs) (h : es.Perm fs) :
    es = fs :=
  h.eq_of_pairwise (fun _ _ _ _ hab hba => absurd (Std.lt_trans hab hba) Std.lt_irrefl) hes hfs

/-- Entries in key order are made again from any order of them. -/
theorem ofList_eq_of_perm {fs : List (α × β)} (hfs : Rising fs) (h : es.Perm fs) : ofList es = fs :=
  eq_of_perm (rising_ofList es) hfs
    ((ofList_perm ((h.map Prod.fst).nodup_iff.mpr hfs.nodup)).trans h)

end Entries

namespace KeyMap

variable {α β : Type} [KeyOrder α] {k j : α} {v : β} {m : KeyMap α β}

theorem get?_eq_some_iff : m.get? k = some v ↔ (k, v) ∈ m.toList := Entries.find?_eq_some_iff m.rising

@[simp] theorem get?_empty : (∅ : KeyMap α β).get? k = none := rfl

@[simp] theorem get?_insert_self : (m.insert k v).get? k = some v := Entries.find?_put_self

theorem get?_insert_of_ne (h : j ≠ k) : (m.insert k v).get? j = m.get? j := Entries.find?_put_of_ne h

@[simp] theorem get?_erase_self : (m.erase k).get? k = none := by
  rw [Option.eq_none_iff_forall_ne_some]
  intro v h
  have hm := (List.mem_filter.mp (get?_eq_some_iff.mp h)).2
  rcases of_decide_eq_true hm with hlt | hlt
  · exact Std.lt_irrefl hlt
  · exact Std.lt_irrefl hlt

theorem get?_erase_of_ne (h : j ≠ k) : (m.erase k).get? j = m.get? j := by
  have he : ∀ v, (m.erase k).get? j = some v ↔ m.get? j = some v := by
    intro v
    rw [get?_eq_some_iff, get?_eq_some_iff]
    refine ⟨fun hv => (List.mem_filter.mp hv).1, fun hv => List.mem_filter.mpr ⟨hv, ?_⟩⟩
    exact decide_eq_true (Entries.lt_or_lt_of_ne h)
  cases hm : m.get? j with
  | none =>
    rw [Option.eq_none_iff_forall_ne_some]
    intro v hv
    rw [he, hm] at hv
    cases hv
  | some v => exact (he v).mpr hm

theorem eq_of_get? {n : KeyMap α β} (h : ∀ k, m.get? k = n.get? k) : m = n := by
  have hmem : ∀ e, e ∈ m.toList ↔ e ∈ n.toList := by
    rintro ⟨k, v⟩
    rw [← get?_eq_some_iff, ← get?_eq_some_iff, h]
  have hperm : m.toList.Perm n.toList :=
    (List.perm_ext_iff_of_nodup (List.Nodup.of_map _ m.rising.nodup)
      (List.Nodup.of_map _ n.rising.nodup)).mpr hmem
  exact KeyMap.ext (Entries.eq_of_perm m.rising n.rising hperm)

theorem ofList_snoc (es : List (α × β)) (e : α × β) :
    ofList (es ++ [e]) = (ofList es).insert e.1 e.2 := by
  apply KeyMap.ext
  simp [ofList, insert, Entries.ofList]

section
variable [DecidableEq α]

theorem get?_insert : (m.insert k v).get? j = if j = k then some v else m.get? j := by
  by_cases h : j = k
  · subst h; rw [get?_insert_self, if_pos rfl]
  · rw [get?_insert_of_ne h, if_neg h]

theorem get?_erase : (m.erase k).get? j = if j = k then none else m.get? j := by
  by_cases h : j = k
  · subst h; rw [get?_erase_self, if_pos rfl]
  · rw [get?_erase_of_ne h, if_neg h]

theorem get?_ofList (es : List (α × β)) :
    (ofList es).get? k = (es.reverse.find? (·.1 = k)).map Prod.snd := by
  induction es using List.reverseRecOn with
  | nil => rfl
  | append_singleton es e ih =>
    rw [ofList_snoc, get?_insert, List.reverse_append, List.reverse_singleton, List.singleton_append,
      List.find?_cons]
    by_cases h : k = e.1
    · subst h; simp
    · rw [if_neg h, ih, decide_eq_false (Ne.symm h)]

end
theorem ofList_eq_of_perm {es : List (α × β)} (h : es.Perm m.toList) : ofList es = m :=
  KeyMap.ext (Entries.ofList_eq_of_perm m.rising h)

end KeyMap

namespace KeySet

variable {α : Type} [KeyOrder α] {a b : α} {s : KeySet α}

theorem contains_iff_mem : s.contains a = true ↔ a ∈ s.toList := by
  unfold contains KeyMap.contains toList KeyMap.keys
  rw [Option.isSome_iff_exists]
  constructor
  · rintro ⟨v, hv⟩
    exact List.mem_map.mpr ⟨_, KeyMap.get?_eq_some_iff.mp hv, rfl⟩
  · intro h
    obtain ⟨⟨b, v⟩, hv, rfl⟩ := List.mem_map.mp h
    exact ⟨v, KeyMap.get?_eq_some_iff.mpr hv⟩

@[simp] theorem contains_insert_self : (s.insert a).contains a = true := by
  simp [contains, insert, KeyMap.contains]

theorem contains_insert (h : s.contains b = true) : (s.insert a).contains b = true := by
  unfold contains KeyMap.contains at h ⊢
  by_cases hb : b = a
  · subst hb; simp [insert]
  · rwa [insert, KeyMap.get?_insert_of_ne hb]

theorem contains_foldl_insert {l : List α} (h : s.contains a = true ∨ a ∈ l) :
    (l.foldl insert s).contains a = true := by
  induction l generalizing s with
  | nil => exact h.resolve_right List.not_mem_nil
  | cons b l ih =>
    rw [List.foldl_cons]
    rcases h with h | h
    · exact ih (.inl (contains_insert h))
    · rcases List.mem_cons.mp h with rfl | h
      · exact ih (.inl contains_insert_self)
      · exact ih (.inr h)

theorem toList_foldl_insert_ne_nil {l : List α} (h : l ≠ []) : (l.foldl insert s).toList ≠ [] := by
  obtain ⟨a, ha⟩ := List.exists_mem_of_ne_nil l h
  exact List.ne_nil_of_mem (contains_iff_mem.mp (contains_foldl_insert (.inr ha)))

theorem ofList_toList : ofList s.toList = s := by
  have h : s.toList.map (fun a => (a, ())) = s.entries.toList := by
    rw [toList, KeyMap.keys, List.map_map]
    exact List.map_id _
  rw [ofList, h, KeyMap.ofList_eq_of_perm (.refl _)]

end KeySet
end ChatBridge
