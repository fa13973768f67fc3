import ChatBridge.Proofs.UserCache.Reopening

/-!
# Which summary of a user stays

Of all summaries of a user, the one known before in front, the last of the youngest is known in the
end. So a cache can be read off what it has been given: how the summaries were cut into lists has no
part in it, nor has their order, except among summaries of one user that are equally young.
-/

namespace ChatBridge

/-- The last of the youngest summaries in a list. -/
def Latest (us : List UserSummary) (u : UserSummary) : Prop :=
  ∃ before after, us = before ++ u :: after ∧ (∀ v ∈ before, v.updated ≤ u.updated) ∧
    ∀ v ∈ after, v.updated < u.updated

section
variable {us vs : List UserSummary} {u v : UserSummary}

theorem latest_singleton : Latest [u] v ↔ v = u := by
  constructor
  · rintro ⟨before, after, h, _, _⟩
    obtain ⟨_, h⟩ | ⟨_, h⟩ := List.singleton_eq_append_iff.mp h
    · exact (List.cons.inj h).1
    · cases h
  · rintro rfl
    exact ⟨[], [], rfl, nofun, nofun⟩

theorem Latest.mem (h : Latest us u) : u ∈ us := by
  obtain ⟨before, after, rfl, _, _⟩ := h
  simp

theorem Latest.le (h : Latest us u) (hv : v ∈ us) : v.updated ≤ u.updated := by
  obtain ⟨before, after, rfl, hb, ha⟩ := h
  rcases List.mem_append.mp hv with hv | hv
  · exact hb v hv
  · rcases List.mem_cons.mp hv with rfl | hv
    · exact UInt64.le_refl _
    · exact UInt64.le_of_lt (ha v hv)

theorem latest_append (us vs : List UserSummary) : Latest (us ++ vs) u ↔
    Latest vs u ∧ (∀ x ∈ us, x.updated ≤ u.updated) ∨
      Latest us u ∧ ∀ x ∈ vs, x.updated < u.updated := by
  constructor
  · rintro ⟨before, after, h, hb, ha⟩
    rcases List.append_eq_append_iff.mp h with ⟨rest, rfl, rfl⟩ | ⟨rest, rfl, hrest⟩
    · refine .inl ⟨⟨rest, after, rfl, fun x hx => ?_, ha⟩, fun x hx => ?_⟩
      · exact hb x (List.mem_append_right _ hx)
      · exact hb x (List.mem_append_left _ hx)
    · cases rest with
      | nil =>
        obtain rfl : vs = u :: after := hrest.symm
        refine .inl ⟨⟨[], after, rfl, nofun, ha⟩, fun x hx => hb x ?_⟩
        simpa using hx
      | cons w rest =>
        obtain ⟨rfl, rfl⟩ := List.cons.inj hrest
        refine .inr ⟨⟨before, rest, rfl, hb, fun x hx => ?_⟩, fun x hx => ?_⟩
        · exact ha x (List.mem_append_left _ hx)
        · exact ha x (List.mem_append_right _ hx)
  · rintro (⟨⟨before, after, rfl, hb, ha⟩, hus⟩ | ⟨⟨before, after, rfl, hb, ha⟩, hvs⟩)
    · refine ⟨us ++ before, after, (List.append_assoc ..).symm, fun x hx => ?_, ha⟩
      exact (List.mem_append.mp hx).elim (hus x) (hb x)
    · refine ⟨before, after ++ vs, by simp, hb, fun x hx => ?_⟩
      exact (List.mem_append.mp hx).elim (ha x) (hvs x)

theorem exists_latest (h : us ≠ []) : ∃ u, Latest us u := by
  induction us with
  | nil => exact absurd rfl h
  | cons x us ih =>
    by_cases hus : us = []
    · subst hus
      exact ⟨x, latest_singleton.mpr rfl⟩
    · obtain ⟨u, hu⟩ := ih hus
      by_cases hx : x.updated ≤ u.updated
      · refine ⟨u, (latest_append [x] us).mpr (.inl ⟨hu, fun y hy => ?_⟩)⟩
        cases List.mem_singleton.mp hy
        exact hx
      · refine ⟨x, (latest_append [x] us).mpr (.inr ⟨latest_singleton.mpr rfl, fun y hy => ?_⟩)⟩
        exact UInt64.lt_of_le_of_lt (hu.le hy) (UInt64.not_le.mp hx)

theorem Latest.unique (hu : Latest us u) (hv : Latest us v) : u = v := by
  induction us with
  | nil => cases hu.mem
  | cons x us ih =>
    rcases (latest_append [x] us).mp hu with ⟨hu, hxu⟩ | ⟨hu, hxu⟩
    · rcases (latest_append [x] us).mp hv with ⟨hv, _⟩ | ⟨hv, hxv⟩
      · exact ih hu hv
      · have hvu := hxu v (List.mem_singleton.mpr (latest_singleton.mp hv))
        exact absurd (hxv u hu.mem) (UInt64.not_lt.mpr hvu)
    · rcases (latest_append [x] us).mp hv with ⟨hv, hxv⟩ | ⟨hv, _⟩
      · have huv := hxv u (List.mem_singleton.mpr (latest_singleton.mp hu))
        exact absurd (hxu v hv.mem) (UInt64.not_lt.mpr huv)
      · rw [latest_singleton.mp hu, latest_singleton.mp hv]

theorem latest_cons_of_latest (h : Latest us u) : Latest (u :: vs) v ↔ Latest (us ++ vs) v := by
  have hmax : (∀ x ∈ [u], x.updated ≤ v.updated) ↔ ∀ x ∈ us, x.updated ≤ v.updated := by
    constructor
    · intro hv x hx
      exact UInt64.le_trans (h.le hx) (hv u List.mem_cons_self)
    · intro hv x hx
      cases List.mem_singleton.mp hx
      exact hv u h.mem
  have hsame : Latest [u] v ↔ Latest us v := by
    rw [latest_singleton]
    constructor
    · rintro rfl; exact h
    · intro hv; exact hv.unique h
  rw [← List.singleton_append, latest_append, latest_append, hmax, hsame]

theorem latest_append_self : Latest (us ++ vs ++ vs) u ↔ Latest (us ++ vs) u := by
  rw [latest_append (us ++ vs), latest_append us]
  constructor
  · rintro (⟨hu, hle⟩ | ⟨hu, _⟩)
    · exact .inl ⟨hu, fun x hx => hle x (List.mem_append_left _ hx)⟩
    · exact hu
  · rintro (⟨hu, hle⟩ | ⟨hu, hlt⟩)
    · exact .inl ⟨hu, fun x hx => (List.mem_append.mp hx).elim (hle x) hu.le⟩
    · exact .inr ⟨.inr ⟨hu, hlt⟩, hlt⟩

theorem latest_append_of_swap (h : ∀ x ∈ us, ∀ y ∈ vs, x.updated = y.updated → x = y)
    (hu : Latest (us ++ vs) u) : Latest (vs ++ us) u := by
  rw [latest_append] at hu ⊢
  rcases hu with ⟨hu, hle⟩ | ⟨hu, hlt⟩
  · by_cases hall : ∀ x ∈ us, x.updated < u.updated
    · exact .inr ⟨hu, hall⟩
    · refine .inl ⟨?_, fun x hx => hu.le hx⟩
      obtain ⟨x, hx, hge⟩ : ∃ x ∈ us, u.updated ≤ x.updated := by
        simpa [UInt64.not_lt] using hall
      obtain ⟨w, hw⟩ := exists_latest (List.ne_nil_of_mem hx)
      have hwu : w.updated = u.updated :=
        UInt64.le_antisymm (hle w hw.mem) (UInt64.le_trans hge (hw.le hx))
      rwa [h w hw.mem u hu.mem hwu] at hw
  · exact .inl ⟨hu, fun x hx => UInt64.le_of_lt (hlt x hx)⟩

end

namespace UserCache

variable {c : UserCache} {us vs : List UserSummary} {u : UserSummary} {k : UserId}

def candidates (c : UserCache) (us : List UserSummary) (k : UserId) : List UserSummary :=
  (c.get? k).toList ++ us.filter (·.userId = k)

theorem get?_insert_of_ne (h : u.userId ≠ k) : (c.insert u).1.get? k = c.get? k := by
  cases hr : u.replaces (c.get? u.userId) with
  | true => rw [insert_of_replaces hr]; exact KeyMap.get?_insert_of_ne (Ne.symm h)
  | false => rw [insert_of_not_replaces hr]

/-- The cache keeps the latest of what it knows and what it is given. -/
theorem latest_insert : ∃ w, (c.insert u).1.get? u.userId = some w ∧
    Latest ((c.get? u.userId).toList ++ [u]) w := by
  cases hr : u.replaces (c.get? u.userId) with
  | true =>
    refine ⟨u, by rw [insert_of_replaces hr]; exact KeyMap.get?_insert_self, ?_⟩
    refine (latest_append _ _).mpr (.inl ⟨latest_singleton.mpr rfl, fun x hx => ?_⟩)
    cases hk : c.get? u.userId with
    | none => rw [hk] at hx; cases hx
    | some known =>
      rw [hk] at hx hr
      cases List.mem_singleton.mp hx
      simp only [UserSummary.replaces, Bool.and_eq_true, decide_eq_true_eq] at hr
      exact hr.1
  | false =>
    obtain ⟨known, hk, hle⟩ := known_of_not_replaces hr
    refine ⟨known, by rw [insert_of_not_replaces hr, hk], ?_⟩
    rw [hk, Option.toList_some, latest_append, latest_singleton, latest_singleton]
    rw [hk] at hr
    by_cases hlt : u.updated < known.updated
    · refine .inr ⟨rfl, fun x hx => ?_⟩
      cases List.mem_singleton.mp hx
      exact hlt
    · have hge := UInt64.not_lt.mp hlt
      have heq : known = u := by
        by_contra hne
        simp [UserSummary.replaces, hge, hne] at hr
      subst heq
      refine .inl ⟨rfl, fun x hx => ?_⟩
      cases List.mem_singleton.mp hx
      exact hle

theorem get?_upsert : (c.upsert us).1.get? k = some u ↔ Latest (c.candidates us k) u := by
  induction us generalizing c with
  | nil =>
    rw [candidates, List.filter_nil, List.append_nil]
    show c.get? k = some u ↔ _
    cases c.get? k with
    | none => exact ⟨nofun, fun h => absurd h.mem List.not_mem_nil⟩
    | some known => rw [Option.toList_some, latest_singleton, Option.some_inj, eq_comm]
  | cons v us ih =>
    rw [upsert_cons, ih, candidates, candidates]
    by_cases hv : v.userId = k
    · subst hv
      obtain ⟨w, hw, hlatest⟩ := latest_insert (c := c) (u := v)
      rw [hw, Option.toList_some, List.singleton_append, latest_cons_of_latest hlatest,
        List.filter_cons_of_pos (by simp), List.append_assoc, List.singleton_append]
    · rw [get?_insert_of_ne hv, List.filter_cons_of_neg (by simpa using hv)]

theorem upsert_append : (c.upsert (us ++ vs)).1 = ((c.upsert us).1.upsert vs).1 := by
  induction us generalizing c with
  | nil => rfl
  | cons u us ih => rw [List.cons_append, upsert_cons, upsert_cons]; exact ih

theorem upsert_eq_of_latest
    (h : ∀ k u, Latest (c.candidates us k) u ↔ Latest (c.candidates vs k) u) :
    (c.upsert us).1 = (c.upsert vs).1 := by
  have husers : (c.upsert us).1.users = (c.upsert vs).1.users := by
    refine KeyMap.eq_of_get? fun k => Option.ext fun u => ?_
    show (c.upsert us).1.get? k = some u ↔ (c.upsert vs).1.get? k = some u
    rw [get?_upsert, get?_upsert, h]
  have hdisk : (c.upsert us).1.onDisk = (c.upsert vs).1.onDisk := by
    rw [onDisk_upsert, onDisk_upsert]
  cases h₁ : (c.upsert us).1
  cases h₂ : (c.upsert vs).1
  rw [h₁, h₂] at husers hdisk
  cases husers
  cases hdisk
  rfl

theorem upsert_upsert : ((c.upsert us).1.upsert us).1 = (c.upsert us).1 := by
  rw [← upsert_append]
  refine upsert_eq_of_latest fun k u => ?_
  rw [candidates, candidates, List.filter_append, ← List.append_assoc, latest_append_self]

theorem upsert_comm (h : ∀ u ∈ us, ∀ v ∈ vs, u.userId = v.userId → u.updated = v.updated → u = v) :
    ((c.upsert us).1.upsert vs).1 = ((c.upsert vs).1.upsert us).1 := by
  rw [← upsert_append, ← upsert_append]
  refine upsert_eq_of_latest fun k u => ?_
  have same (x y : UserSummary) (hx : x ∈ us.filter (·.userId = k))
      (hy : y ∈ vs.filter (·.userId = k)) (hxy : x.updated = y.updated) : x = y := by
    obtain ⟨hx, hxk⟩ := List.mem_filter.mp hx
    obtain ⟨hy, hyk⟩ := List.mem_filter.mp hy
    exact h x hx y hy ((of_decide_eq_true hxk).trans (of_decide_eq_true hyk).symm) hxy
  have swap (w : UserSummary) : Latest (us.filter (·.userId = k) ++ vs.filter (·.userId = k)) w ↔
      Latest (vs.filter (·.userId = k) ++ us.filter (·.userId = k)) w :=
    ⟨latest_append_of_swap fun x hx y hy => same x y hx hy,
      latest_append_of_swap fun x hx y hy hxy => (same y x hy hx hxy.symm).symm⟩
  rw [candidates, candidates, List.filter_append, List.filter_append]
  rw [latest_append, latest_append _ (_ ++ _), swap]
  simp only [List.mem_append, or_comm]

/-! ## Caches that have come about by themselves -/

/-- The caches that come from an empty one by taking summaries in, saving and opening again what was
saved. A save leaves the cache itself as it is. -/
inductive Reached : UserCache → Prop
  | inMemory : Reached .inMemory
  | opened {d : DataDir} {now : UInt64} (h : (openIn d now).users = ∅) : Reached (openIn d now)
  | upsert {c : UserCache} (us : List UserSummary) (h : Reached c) : Reached (c.upsert us).1
  | reopened {c : UserCache} {d d' d'' : DataDir} {now : UInt64} (later : UInt64) (h : Reached c)
      (hd : c.onDisk = true) (hf : (c.toFile now).Fits) (hs : c.Saved now d d')
      (hd'' : d''.cacheBytes? = d'.cacheBytes?) : Reached (openIn d'' later)

def Keyed (c : UserCache) : Prop := ∀ k u, c.get? k = some u → u.userId = k

theorem keyed_of_users_eq_empty (h : c.users = ∅) : c.Keyed := by
  intro k u hu
  rw [get?, h] at hu
  cases hu

theorem keyed_upsert (h : c.Keyed) (us : List UserSummary) : (c.upsert us).1.Keyed := by
  intro k u hu
  rcases List.mem_append.mp (get?_upsert.mp hu).mem with hk | hk
  · exact h k u (Option.mem_toList.mp hk)
  · exact of_decide_eq_true (List.mem_filter.mp hk).2

theorem keyed_of_reached (h : Reached c) : c.Keyed := by
  induction h with
  | inMemory => exact keyed_of_users_eq_empty rfl
  | opened h => exact keyed_of_users_eq_empty h
  | upsert us _ ih => exact keyed_upsert ih us
  | reopened later _ hd hf hs hd'' ih =>
    rw [hs.openIn_eq hd hf hd'' later]
    split
    · exact ih
    · exact keyed_of_users_eq_empty rfl

/-! ## Main statement -/

/-- After taking summaries in, what is known of a user is the last of the youngest among what was
known before and the new summaries; whoever has no new one is left alone, and nobody is forgotten or
gets an older one. To take the same in again changes nothing, nor does what counts as no change, and
of two lists either may come first if no two summaries of one user tell different things about the
same moment. A cache that has come from an empty one lists each user under their own id. -/
theorem latest_of_upsert (c : UserCache) (us : List UserSummary) :
    (∀ k u, (c.upsert us).1.get? k = some u ↔ Latest (c.candidates us k) u) ∧
    (∀ k, (∀ u ∈ us, u.userId ≠ k) → (c.upsert us).1.get? k = c.get? k) ∧
    (∀ k u, c.get? k = some u →
      ∃ v, (c.upsert us).1.get? k = some v ∧ u.updated ≤ v.updated) ∧
    ((c.upsert us).1.upsert us).1 = (c.upsert us).1 ∧
    ((c.upsert us).2 = 0 → (c.upsert us).1 = c) ∧
    (∀ vs, (∀ u ∈ us, ∀ v ∈ vs, u.userId = v.userId → u.updated = v.updated → u = v) →
      ((c.upsert us).1.upsert vs).1 = ((c.upsert vs).1.upsert us).1) ∧
    (Reached c → ∀ k u, c.get? k = some u → u.userId = k) := by
  refine ⟨fun k u => get?_upsert, fun k hk => ?_, fun k u hu => ?_, upsert_upsert,
    upsert_of_count_eq_zero, fun vs => upsert_comm, keyed_of_reached⟩
  · have hnone : us.filter (·.userId = k) = [] := by simpa using hk
    refine Option.ext fun u => ?_
    rw [get?_upsert, candidates, hnone, ← List.filter_nil, ← candidates, ← get?_upsert]
    rfl
  · obtain ⟨v, hv⟩ := exists_latest (show c.candidates us k ≠ [] by simp [candidates, hu])
    exact ⟨v, get?_upsert.mpr hv, hv.le (by simp [candidates, hu])⟩

/-- A cache that was saved and opened again takes in two summaries of one user from the same second;
the later of them stays. What is older than that changes nothing, and a third user may come first. -/
theorem latest_of_upsert_of_reopened :
    ∃ c us vs olds, Reached c ∧ c.get? "a" = some ⟨"a", none, 0, 5⟩ ∧
      (c.upsert us).1.get? "a" = some ⟨"a", some "Zoë", 0, 7⟩ ∧
      (c.upsert us).1.get? "b" = c.get? "b" ∧
      (∃ u, (c.upsert us).1.get? "a" = some u ∧ 5 ≤ u.updated) ∧
      ((c.upsert us).1.upsert us).1 = (c.upsert us).1 ∧
      (c.upsert olds).2 = 0 ∧ olds ≠ [] ∧ (c.upsert olds).1 = c ∧
      ((c.upsert us).1.upsert vs).1 = ((c.upsert vs).1.upsert us).1 ∧
      ∀ k u, c.get? k = some u → u.userId = k := by
  let known : UserSummary := ⟨"a", none, 0, 5⟩
  let c : UserCache := ⟨.ofList [("a", known)], true⟩
  let us : List UserSummary := [⟨"a", some "Ann", 0, 7⟩, ⟨"a", some "Zoë", 0, 7⟩]
  let vs : List UserSummary := [⟨"c", none, 1, 7⟩]
  let olds : List UserSummary := [⟨"a", some "Ann", 3, 4⟩]
  have husers : c.users.toList = [("a", known)] := rfl
  have hfits : (c.toFile 1000).Fits := by
    refine ⟨by rw [toFile, husers]; decide, by rw [toFile, husers]; decide, ?_⟩
    rw [toFile, husers]
    intro e he
    cases List.mem_singleton.mp he
    exact ⟨by decide, fun name hn => by cases hn⟩
  have hsaved : c.Saved 1000 .absent
      (.folder (.file (fileOf [("a", known)] 1000).encode) none) := .byKey rfl
  have hfirst : Reached c := by
    have hempty : Reached (openIn .absent 0) := .opened rfl
    exact hempty.upsert [known]
  have hopened : Reached c := by
    have hagain := hfirst.reopened 1005 rfl hfits hsaved rfl
    rwa [hsaved.openIn_eq rfl hfits rfl 1005, if_pos (by decide)] at hagain
  have hknown : c.get? "a" = some known := by decide
  obtain ⟨hlatest, huntouched, hgrows, hagain, _, hswap, hkeyed⟩ := latest_of_upsert c us
  refine ⟨c, us, vs, olds, hopened, hknown, ?_, huntouched "b" (by decide), hgrows "a" known hknown,
    hagain, by decide, List.cons_ne_nil _ _, (latest_of_upsert c olds).2.2.2.2.1 (by decide),
    hswap vs (by decide), hkeyed hopened⟩
  exact (hlatest _ _).mpr ⟨[known, ⟨"a", some "Ann", 0, 7⟩], [], by decide, by decide, by decide⟩

end UserCache
end ChatBridge
