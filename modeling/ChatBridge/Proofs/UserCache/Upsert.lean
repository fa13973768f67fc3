import ChatBridge.Proofs.Ordered.Lookup
import ChatBridge.UserCache.Basic

/-!
# Taking summaries in

A summary that is taken in is known afterwards, or a younger one of the same user is, and it stays
so: what comes later never brings back an older one. Where nothing changed the count says so.
-/

namespace ChatBridge

/-- Of each of these users a summary is known that is not older. -/
def UserLookup.Reflects (users : UserLookup) (us : List UserSummary) : Prop :=
  ∀ u ∈ us, ∃ known, users.get? u.userId = some known ∧ u.updated ≤ known.updated

namespace UserCache

variable {c : UserCache} {u : UserSummary} {us vs : List UserSummary}

/-! ## One summary -/

theorem insert_of_replaces (h : u.replaces (c.get? u.userId) = true) :
    c.insert u = ({ c with users := c.users.insert u.userId u }, true) := if_pos h

theorem insert_of_not_replaces (h : u.replaces (c.get? u.userId) = false) :
    c.insert u = (c, false) :=
  if_neg (by rw [h]; exact Bool.false_ne_true)

theorem onDisk_insert : (c.insert u).1.onDisk = c.onDisk := by
  cases h : u.replaces (c.get? u.userId) with
  | true => rw [insert_of_replaces h]
  | false => rw [insert_of_not_replaces h]

theorem known_of_not_replaces (h : u.replaces (c.get? u.userId) = false) :
    ∃ known, c.get? u.userId = some known ∧ u.updated ≤ known.updated := by
  cases hk : c.get? u.userId with
  | none =>
    rw [hk] at h
    cases h
  | some known =>
    refine ⟨known, rfl, ?_⟩
    rw [hk] at h
    by_cases hle : known.updated ≤ u.updated
    · have heq : known = u := by
        by_contra hne
        simp [UserSummary.replaces, hle, hne] at h
      rw [heq]
      exact UInt64.le_refl _
    · exact UInt64.le_of_lt (UInt64.not_le.mp hle)

theorem reflects_insert_self :
    ∃ known, (c.insert u).1.users.get? u.userId = some known ∧ u.updated ≤ known.updated := by
  cases h : u.replaces (c.get? u.userId) with
  | true =>
    rw [insert_of_replaces h]
    exact ⟨u, KeyMap.get?_insert_self, UInt64.le_refl _⟩
  | false =>
    rw [insert_of_not_replaces h]
    exact known_of_not_replaces h

theorem Reflects.insert (h : c.users.Reflects vs) (u : UserSummary) :
    (c.insert u).1.users.Reflects vs := by
  intro v hv
  obtain ⟨known, hk, hle⟩ := h v hv
  cases hr : u.replaces (c.get? u.userId) with
  | false =>
    rw [insert_of_not_replaces hr]
    exact ⟨known, hk, hle⟩
  | true =>
    rw [insert_of_replaces hr]
    by_cases hid : v.userId = u.userId
    · have hyounger : known.updated ≤ u.updated := by
        rw [show c.get? u.userId = some known from hid ▸ hk] at hr
        simp only [UserSummary.replaces, Bool.and_eq_true, decide_eq_true_eq] at hr
        exact hr.1
      refine ⟨u, ?_, UInt64.le_trans hle hyounger⟩
      rw [hid]
      exact KeyMap.get?_insert_self
    · exact ⟨known, (KeyMap.get?_insert_of_ne hid).trans hk, hle⟩

theorem contains_insert {k : UserId} (h : c.users.contains k = true) (u : UserSummary) :
    (c.insert u).1.users.contains k = true := by
  cases hr : u.replaces (c.get? u.userId) with
  | false => rwa [insert_of_not_replaces hr]
  | true =>
    rw [insert_of_replaces hr]
    show ((c.users.insert u.userId u).get? k).isSome = true
    by_cases hk : k = u.userId
    · rw [hk, KeyMap.get?_insert_self]
      rfl
    · rw [KeyMap.get?_insert_of_ne hk]
      exact h

/-! ## A list of them -/

theorem upsert_cons : c.upsert (u :: us) = (((c.insert u).1.upsert us).1,
    if (c.insert u).2 then ((c.insert u).1.upsert us).2 + 1 else ((c.insert u).1.upsert us).2) := rfl

theorem onDisk_upsert : (c.upsert us).1.onDisk = c.onDisk := by
  induction us generalizing c with
  | nil => rfl
  | cons u us ih => rw [upsert_cons, ih, onDisk_insert]

theorem upsert_of_count_eq_zero (h : (c.upsert us).2 = 0) : (c.upsert us).1 = c := by
  induction us generalizing c with
  | nil => rfl
  | cons u us ih =>
    rw [upsert_cons] at h ⊢
    cases hr : u.replaces (c.get? u.userId) with
    | true =>
      rw [insert_of_replaces hr] at h
      cases h
    | false =>
      rw [insert_of_not_replaces hr] at h ⊢
      exact ih h

theorem Reflects.upsert (h : c.users.Reflects vs) (us : List UserSummary) :
    (c.upsert us).1.users.Reflects vs := by
  induction us generalizing c with
  | nil => exact h
  | cons u us ih => exact ih (Reflects.insert h u)

theorem reflects_upsert (c : UserCache) (us : List UserSummary) :
    (c.upsert us).1.users.Reflects us := by
  induction us generalizing c with
  | nil => nofun
  | cons u us ih =>
    intro v hv
    rcases List.mem_cons.mp hv with rfl | hv
    · have hone : (c.insert v).1.users.Reflects [v] := by
        intro x hx
        cases List.mem_singleton.mp hx
        exact reflects_insert_self
      exact Reflects.upsert hone us v List.mem_cons_self
    · exact ih _ v hv

theorem contains_upsert {k : UserId} (h : c.users.contains k = true) (us : List UserSummary) :
    (c.upsert us).1.users.contains k = true := by
  induction us generalizing c with
  | nil => exact h
  | cons u us ih => exact ih (contains_insert h u)

theorem contains_upsert_of_mem (hu : u ∈ us) : (c.upsert us).1.users.contains u.userId = true := by
  obtain ⟨known, hk, _⟩ := reflects_upsert c us u hu
  exact Option.isSome_iff_exists.mpr ⟨known, hk⟩

end UserCache
end ChatBridge
