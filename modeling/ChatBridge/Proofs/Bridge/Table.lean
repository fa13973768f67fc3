import ChatBridge.Proofs.Bridge.Moves

/-!
# The table of waiting calls

`Table` ties the table to the calls: it has one entry for each call that an answer can still reach,
and no other. Every step keeps it.
-/

namespace ChatBridge

def CallPhase.isOpen : CallPhase → Bool
  | .registered => true
  | .sent => true
  | .expired => true
  | _ => false

/-- An answer can still reach the call. -/
def Call.Awaits (call : Call) : Prop := call.phase.isOpen = true ∧ call.slot = .empty

/-- What the phase of a call says of its id and its slot. -/
def Call.Shaped (call : Call) : Prop :=
  match call.phase with
  | .waiting => call.id = none ∧ call.slot = .empty
  | .registered => call.id.isSome ∧ call.errand.message?.isSome
  | .sent => call.id.isSome ∧ call.errand.message?.isSome
  | .expired => call.id.isSome ∧ call.errand.message?.isSome
  | .late => call.id.isSome ∧ call.errand.message?.isSome ∧ call.slot ≠ .empty
  | .finished _ => True
  | .cancelled => True

theorem Call.Shaped.exists_request {call : Call} (hs : call.Shaped)
    (hp : call.phase.isOpen = true) :
    ∃ id kind payload, call.id = some id ∧ call.errand.message? = some (kind, payload) := by
  have hsome : call.id.isSome ∧ call.errand.message?.isSome := by
    unfold Call.Shaped at hs
    cases hphase : call.phase with
    | registered => simpa only [hphase] using hs
    | sent => simpa only [hphase] using hs
    | expired => simpa only [hphase] using hs
    | _ => rw [hphase] at hp; cases hp
  obtain ⟨id, hid⟩ := Option.isSome_iff_exists.mp hsome.1
  obtain ⟨⟨kind, payload⟩, hm⟩ := Option.isSome_iff_exists.mp hsome.2
  exact ⟨id, kind, payload, hid, hm⟩

theorem shaped_of_awaits {call call' : Call} (hs : call.Shaped) (ha : call.Awaits)
    (hid : call'.id = call.id) (he : call'.errand = call.errand) (hp : call'.phase = call.phase) :
    call'.Shaped := by
  obtain ⟨ha, -⟩ := ha
  unfold Call.Shaped at hs ⊢
  rw [hp, hid, he]
  cases h : call.phase with
  | registered => simpa only [h] using hs
  | sent => simpa only [h] using hs
  | expired => simpa only [h] using hs
  | waiting => rw [h] at ha; cases ha
  | late => rw [h] at ha; cases ha
  | finished r => trivial
  | cancelled => trivial

theorem not_awaits {call : Call} (h : call.phase.isOpen = false) : ¬ call.Awaits := by
  intro ha
  rw [ha.1] at h
  cases h

theorem id_of_awaits {call : Call} (hs : call.Shaped) (ha : call.Awaits) : call.id.isSome := by
  obtain ⟨ha, -⟩ := ha
  unfold Call.Shaped at hs
  split at hs
  · rename_i h; rw [h] at ha; cases ha
  · exact hs.1
  · exact hs.1
  · exact hs.1
  · exact hs.1
  · rename_i h; rw [h] at ha; cases ha
  · rename_i h; rw [h] at ha; cases ha

structure Table (calls : List Call) (pending : List (String × Nat)) : Prop where
  shaped : ∀ {n : Nat} {call : Call}, calls[n]? = some call → call.Shaped
  distinct : ∀ {m n : Nat} {cm cn : Call} {id : String}, calls[m]? = some cm → cm.id = some id →
    calls[n]? = some cn → cn.id = some id → m = n
  keys : (pending.map Prod.fst).Nodup
  entries : ∀ {id : String} {n : Nat}, (id, n) ∈ pending ↔
    ∃ call, calls[n]? = some call ∧ call.id = some id ∧ call.Awaits

theorem lookup_eq_some_iff {id : String} {n : Nat} :
    ∀ {es : List (String × Nat)}, (es.map Prod.fst).Nodup → (es.lookup id = some n ↔ (id, n) ∈ es)
  | [], _ => by simp
  | (k, m) :: es, h => by
    obtain ⟨hk, hes⟩ := List.nodup_cons.mp h
    rw [List.lookup_cons]
    by_cases hid : id = k
    · subst hid
      have hn : (id, n) ∉ es := fun hm => hk (List.mem_map.mpr ⟨_, hm, rfl⟩)
      simp [hn, eq_comm]
    · rw [beq_false_of_ne hid, List.mem_cons, Prod.mk.injEq]
      simp [hid, lookup_eq_some_iff hes]

namespace Table

variable {calls calls' : List Call} {pending : List (String × Nat)} {n : Nat} {call call' : Call}
  {id : String}

theorem start (e : Errand) : Table [⟨e, none, .waiting, .empty⟩] [] where
  shaped {n call} h := by
    cases n with
    | zero => cases h; exact ⟨rfl, rfl⟩
    | succ n => simp at h
  distinct {m n cm cn id} hm hid _ _ := by
    cases m with
    | zero => cases hm; cases hid
    | succ m => simp at hm
  keys := List.nodup_nil
  entries {id n} := by
    cases n with
    | zero => simp
    | succ n => simp

theorem lookup (t : Table calls pending) : pending.lookup id = some n ↔ (id, n) ∈ pending :=
  lookup_eq_some_iff t.keys

theorem mem_of_lookup (t : Table calls pending) (h : pending.lookup id = some n) :
    ∃ call, calls[n]? = some call ∧ call.id = some id ∧ call.Awaits :=
  t.entries.mp (t.lookup.mp h)

theorem lookup_of_id (t : Table calls pending) (h : calls[n]? = some call) (hid : call.id = some id)
    (hl : (pending.lookup id).isSome) : pending.lookup id = some n := by
  obtain ⟨m, hm⟩ := Option.isSome_iff_exists.mp hl
  obtain ⟨other, ho, hoid, _⟩ := t.mem_of_lookup hm
  rw [hm, t.distinct ho hoid h hid]

theorem awaits_of_lookup (t : Table calls pending) (h : calls[n]? = some call)
    (hl : pending.lookup id = some n) : call.id = some id ∧ call.Awaits := by
  obtain ⟨other, ho, hid, ha⟩ := t.mem_of_lookup hl
  cases h.symm.trans ho
  exact ⟨hid, ha⟩

theorem awaits_iff (t : Table calls pending) (h : calls[n]? = some call) (hid : call.id = some id) :
    call.Awaits ↔ (id, n) ∈ pending := by
  rw [t.entries]
  constructor
  · intro ha; exact ⟨call, h, hid, ha⟩
  · rintro ⟨other, ho, _, ha⟩
    cases h.symm.trans ho
    exact ha

theorem slot_of_no_entry (t : Table calls pending) (h : calls[n]? = some call)
    (hid : call.id = some id) (hp : call.phase.isOpen = true) (hl : pending.lookup id = none) :
    call.slot ≠ .empty := by
  intro hs
  have hmem := (t.awaits_iff h hid).mp ⟨hp, hs⟩
  rw [t.lookup.mpr hmem] at hl
  cases hl

/-! ## Changes of one call -/

section
variable (t : Table calls pending)
  (hset : ∀ m, calls'[m]? = if m = n then some call' else calls[m]?)
include t hset

theorem shaped_set (hs : call'.Shaped) {m : Nat} {cm : Call} (hm : calls'[m]? = some cm) :
    cm.Shaped := by
  rw [hset] at hm
  split at hm
  · cases hm; exact hs
  · exact t.shaped hm

variable (h : calls[n]? = some call)
include h

theorem distinct_set (hid : call'.id = call.id) {k m : Nat} {ck cm : Call} {id : String}
    (hk : calls'[k]? = some ck) (hkid : ck.id = some id) (hm : calls'[m]? = some cm)
    (hmid : cm.id = some id) : k = m := by
  have old : ∀ {j : Nat} {cj : Call}, calls'[j]? = some cj → cj.id = some id →
      ∃ cj', calls[j]? = some cj' ∧ cj'.id = some id := by
    intro j cj hj hjid
    rw [hset] at hj
    split at hj
    · rename_i hjn; cases hj; subst hjn; exact ⟨call, h, hid ▸ hjid⟩
    · exact ⟨cj, hj, hjid⟩
  obtain ⟨ck', hk', hkid'⟩ := old hk hkid
  obtain ⟨cm', hm', hmid'⟩ := old hm hmid
  exact t.distinct hk' hkid' hm' hmid'

theorem set_kept (hid : call'.id = call.id) (hs : call'.Shaped) (ha : call'.Awaits ↔ call.Awaits) :
    Table calls' pending where
  shaped := t.shaped_set hset hs
  distinct := t.distinct_set hset h hid
  keys := t.keys
  entries {id m} := by
    rw [t.entries, hset]
    by_cases hm : m = n
    · subst hm; simp [h, hid, ha]
    · simp [hm]

theorem set_struck (hid : call.id = some id) (hid' : call'.id = call.id) (hs : call'.Shaped)
    (ha : ¬ call'.Awaits) : Table calls' (pending.filter (·.1 ≠ id)) where
  shaped := t.shaped_set hset hs
  distinct := t.distinct_set hset h hid'
  keys := (List.filter_sublist.map Prod.fst).nodup t.keys
  entries {k m} := by
    rw [List.mem_filter, t.entries, hset]
    by_cases hm : m = n
    · subst hm
      have hne : ∀ other, calls[m]? = some other → other.id = some k → ¬ k ≠ id := by
        rintro other ho hok hne
        cases h.symm.trans ho
        exact hne (Option.some.inj (hok.symm.trans hid))
      constructor
      · rintro ⟨⟨other, ho, hok, _⟩, hne'⟩
        exact absurd (by simpa using hne') (hne other ho hok)
      · rintro ⟨other, ho, _, hw⟩
        rw [if_pos rfl] at ho
        cases ho
        exact absurd hw ha
    · rw [if_neg hm]
      constructor
      · exact fun hc => hc.1
      · rintro ⟨other, ho, hok, hw⟩
        refine ⟨⟨other, ho, hok, hw⟩, decide_eq_true fun he => hm ?_⟩
        exact t.distinct ho (he ▸ hok) h hid

theorem set_registered (hid : call.id = none) (hfresh : ∀ other ∈ calls, other.id ≠ some id)
    (hid' : call'.id = some id) (hs : call'.Shaped) (ha : call'.Awaits) :
    Table calls' (pending ++ [(id, n)]) where
  shaped := t.shaped_set hset hs
  distinct {k m ck cm i} hk hki hm hmi := by
    rw [hset] at hk hm
    split at hk <;> split at hm
    · rename_i hkn hmn; exact hkn.trans hmn.symm
    · cases hk
      cases hid'.symm.trans hki
      exact absurd hmi (hfresh cm (List.mem_of_getElem? hm))
    · cases hm
      cases hid'.symm.trans hmi
      exact absurd hki (hfresh ck (List.mem_of_getElem? hk))
    · exact t.distinct hk hki hm hmi
  keys := by
    rw [List.map_append, List.nodup_append]
    refine ⟨t.keys, by simp, fun k hk j hj hkj => ?_⟩
    obtain ⟨⟨i, m⟩, hm, rfl⟩ := List.mem_map.mp hk
    obtain ⟨other, ho, hoi, _⟩ := t.entries.mp hm
    have hi : i = id := hkj.trans (by simpa using hj)
    exact hfresh other (List.mem_of_getElem? ho) (hi ▸ hoi)
  entries {k m} := by
    rw [List.mem_append, t.entries, hset, List.mem_singleton, Prod.mk.injEq]
    by_cases hm : m = n
    · subst hm
      rw [if_pos rfl]
      constructor
      · rintro (⟨other, ho, hk, _⟩ | ⟨rfl, -⟩)
        · cases h.symm.trans ho
          cases hid.symm.trans hk
        · exact ⟨call', rfl, hid', ha⟩
      · rintro ⟨other, ho, hk, _⟩
        cases ho
        exact .inr ⟨Option.some.inj (hk.symm.trans hid'), rfl⟩
    · simp [hm]

end

/-! ## Other changes -/

theorem snoc (t : Table calls pending) (e : Errand) :
    Table (calls ++ [⟨e, none, .waiting, .empty⟩]) pending := by
  have old : ∀ {m : Nat} {cm : Call}, (calls ++ [⟨e, none, .waiting, .empty⟩])[m]? = some cm →
      calls[m]? = some cm ∨ cm = ⟨e, none, .waiting, .empty⟩ := by
    intro m cm hm
    rw [List.getElem?_append] at hm
    split at hm
    · exact .inl hm
    · exact .inr (by simpa using List.mem_of_getElem? hm)
  have kept : ∀ {m : Nat} {cm : Call}, calls[m]? = some cm →
      (calls ++ [⟨e, none, .waiting, .empty⟩])[m]? = some cm := by
    intro m cm hm
    rw [List.getElem?_append_left (List.getElem?_eq_some_iff.mp hm).1, hm]
  refine ⟨fun hm => ?_, fun {k m ck cm i} hk hki hm hmi => ?_, t.keys, fun {i m} => ?_⟩
  · rcases old hm with hm | rfl
    · exact t.shaped hm
    · exact ⟨rfl, rfl⟩
  · rcases old hk with hk | rfl
    · rcases old hm with hm | rfl
      · exact t.distinct hk hki hm hmi
      · cases hmi
    · cases hki
  · rw [t.entries]
    constructor
    · rintro ⟨other, ho, hid, ha⟩; exact ⟨other, kept ho, hid, ha⟩
    · rintro ⟨other, ho, hid, ha⟩
      rcases old ho with ho | rfl
      · exact ⟨other, ho, hid, ha⟩
      · cases hid

/-- At the end of the table every call in it is told. -/
theorem cleared (t : Table calls pending) :
    Table (calls.mapIdx fun n call =>
      if (pending.map (·.2)).contains n then { call with slot := .dropped } else call) [] := by
  have old : ∀ {m : Nat} {cm : Call}, (calls.mapIdx fun n call =>
      if (pending.map (·.2)).contains n then { call with slot := .dropped } else call)[m]? =
        some cm → ∃ cm', calls[m]? = some cm' ∧ cm.id = cm'.id ∧
          (cm = { cm' with slot := .dropped } ∧ cm'.Awaits ∨ cm = cm' ∧ ∀ i, (i, m) ∉ pending) := by
    intro m cm hm
    rw [List.getElem?_mapIdx] at hm
    obtain ⟨cm', hm', rfl⟩ := Option.map_eq_some_iff.mp hm
    refine ⟨cm', hm', ?_, ?_⟩
    · split <;> rfl
    · split
      · rename_i hc
        obtain ⟨⟨i, k⟩, hk, rfl⟩ := List.mem_map.mp (List.contains_iff_mem.mp hc)
        obtain ⟨other, ho, _, ha⟩ := t.entries.mp hk
        cases hm'.symm.trans ho
        exact .inl ⟨rfl, ha⟩
      · rename_i hc
        exact .inr ⟨rfl, fun i hi => hc (List.contains_iff_mem.mpr (List.mem_map.mpr ⟨_, hi, rfl⟩))⟩
  refine ⟨fun hm => ?_, fun hk hki hm hmi => ?_, List.nodup_nil, fun {i m} => ?_⟩
  · obtain ⟨cm', hm', _, ⟨rfl, ha⟩ | ⟨rfl, _⟩⟩ := old hm
    · exact shaped_of_awaits (t.shaped hm') ha rfl rfl rfl
    · exact t.shaped hm'
  · obtain ⟨ck', hk', hke, _⟩ := old hk
    obtain ⟨cm', hm', hme, _⟩ := old hm
    exact t.distinct hk' (hke ▸ hki) hm' (hme ▸ hmi)
  · constructor
    · intro h; cases h
    rintro ⟨cm, hm, hid, ha⟩
    obtain ⟨cm', hm', _, ⟨rfl, _⟩ | ⟨rfl, hn⟩⟩ := old hm
    · cases ha.2
    · exact absurd (t.entries.mpr ⟨cm, hm', hid, ha⟩) (hn i)

end Table

/-! ## Steps -/

namespace Client

variable {c c' : Client} {a : Action}

theorem table_of_receive {e : Envelope} (t : Table c.calls c.pending) :
    Table (c.receive e).calls (c.receive e).pending := by
  cases he : e.answer? with
  | none =>
    obtain ⟨hc, hp, _⟩ := receive_of_answer?_eq_none (c := c) he
    rw [hc, hp]
    exact t
  | some p =>
    obtain ⟨id, r⟩ := p
    rw [receive_of_answer?_eq_some he]
    cases hent : c.entry? id with
    | none => rw [complete_of_no_entry r hent]; exact t
    | some n =>
      rw [complete_of_entry r hent]
      obtain ⟨call, hc, hid, ha⟩ := t.mem_of_lookup hent
      have hset : ∀ m, (c.calls.modify n fun call => { call with slot := .answer r })[m]? =
          if m = n then some { call with slot := .answer r } else c.calls[m]? := by
        intro m
        rw [List.getElem?_modify]
        by_cases hm : n = m
        · subst hm; simp [hc]
        · simp [hm, Ne.symm hm]
      exact t.set_struck hset hc hid rfl (shaped_of_awaits (t.shaped hc) ha rfl rfl rfl)
        (by simp [Call.Awaits])

theorem table_of_cancelled (t : Table c.calls c.pending) {n : Nat} {call : Call}
    (hc : c.calls[n]? = some call) :
    Table (c.calls.set n { call with phase := .cancelled }) (c.strikeOf call).pending := by
  have hset : ∀ m, (c.calls.set n { call with phase := .cancelled })[m]? = _ :=
    getElem?_set_of_getElem? hc
  rcases Option.eq_none_or_eq_some call.id with hid | ⟨id, hid⟩
  · have ha : ¬ call.Awaits := by
      intro ha
      have := id_of_awaits (t.shaped hc) ha
      simp [hid] at this
    have hk : c.strikeOf call = c := by simp [strikeOf, hid]
    rw [hk]
    exact t.set_kept hset hc rfl trivial (iff_of_false (not_awaits rfl) ha)
  · rw [pending_strikeOf c call id hid]
    exact t.set_struck hset hc hid rfl trivial (not_awaits rfl)

theorem table_of_step (t : Table c.calls c.pending) (h : c.step? a = some c') :
    Table c'.calls c'.pending := by
  cases a with
  | call e =>
    simp only [step?] at h
    split at h
    · cases h
    · cases h; exact t.snoc e
  | dismiss n =>
    obtain ⟨call, hc, h⟩ := withCall_eq_some h
    obtain ⟨hp, r, _, rfl⟩ := dismiss?_eq_some h
    rw [calls_finish, pending_finish]
    exact t.set_kept (getElem?_set_of_getElem? hc) hc rfl trivial
      (iff_of_false (not_awaits rfl) (not_awaits (by rw [hp]; rfl)))
  | register n id =>
    obtain ⟨call, hc, h⟩ := withCall_eq_some h
    obtain ⟨hm, hf, rfl⟩ := register?_eq_some h
    have hp := phase_of_mayRegister hm
    have hmsg := message?_of_mayRegister hm
    have hs := t.shaped hc
    simp only [Call.Shaped, hp] at hs
    refine t.set_registered (getElem?_set_of_getElem? hc) hc hs.1 hf rfl ?_ ?_
    · exact ⟨rfl, hmsg⟩
    · exact ⟨rfl, hs.2⟩
  | send n =>
    obtain ⟨call, hc, h⟩ := withCall_eq_some h
    obtain ⟨hp, id, kind, payload, hid, hm, ⟨ho, rfl⟩ | ⟨ho, rfl⟩⟩ := send?_eq_some h
    · have hs := t.shaped hc
      refine t.set_kept (getElem?_set_of_getElem? hc) hc rfl ?_ ?_
      · simpa [Call.Shaped, hp] using hs
      · simp [Call.Awaits, CallPhase.isOpen, hp]
    · rw [calls_finish, pending_finish]
      exact t.set_struck (getElem?_set_of_getElem? hc) hc hid rfl trivial (not_awaits rfl)
  | take n =>
    obtain ⟨call, hc, h⟩ := withCall_eq_some h
    obtain ⟨hp, r, hr, rfl⟩ := take?_eq_some h
    have hs := t.shaped hc
    simp only [Call.Shaped, hp, Option.isSome_iff_exists] at hs
    obtain ⟨⟨id, hid⟩, _⟩ := hs
    rw [calls_finish, pending_finish, calls_strikeOf, pending_strikeOf c call id hid]
    exact t.set_struck (getElem?_set_of_getElem? hc) hc hid rfl trivial (not_awaits rfl)
  | expire n =>
    obtain ⟨call, hc, h⟩ := withCall_eq_some h
    obtain ⟨hp, rfl⟩ := expire?_eq_some h
    have hs := t.shaped hc
    refine t.set_kept (getElem?_set_of_getElem? hc) hc rfl ?_ ?_
    · simpa [Call.Shaped, hp] using hs
    · simp [Call.Awaits, CallPhase.isOpen, hp]
  | withdraw n =>
    obtain ⟨call, hc, h⟩ := withCall_eq_some h
    obtain ⟨hp, id, kind, payload, hid, hm, ⟨he, rfl⟩ | ⟨he, rfl⟩⟩ := withdraw?_eq_some h
    · rw [calls_finish, pending_finish]
      exact t.set_struck (getElem?_set_of_getElem? hc) hc hid rfl trivial (not_awaits rfl)
    · have hslot := t.slot_of_no_entry hc hid (by rw [hp]; rfl) he
      refine t.set_kept (getElem?_set_of_getElem? hc) hc rfl ?_ ?_
      · exact ⟨by simp [hid], by simp [hm], hslot⟩
      · simp [Call.Awaits, hslot]
  | takeLate n =>
    obtain ⟨call, hc, h⟩ := withCall_eq_some h
    obtain ⟨hp, rfl⟩ := takeLate?_eq_some h
    rw [calls_finish, pending_finish]
    exact t.set_kept (getElem?_set_of_getElem? hc) hc rfl trivial
      (iff_of_false (not_awaits rfl) (not_awaits (by rw [hp]; rfl)))
  | cancel n =>
    obtain ⟨call, hc, h⟩ := withCall_eq_some h
    obtain ⟨_, _, _, rfl⟩ := cancel?_eq_some h
    rw [calls_setCall, calls_strikeOf]
    exact table_of_cancelled t hc
  | handle =>
    obtain ⟨_, e, rest, _, rfl⟩ := handle?_eq_some h
    exact table_of_receive (c := { c with inbox := rest }) t
  | endListening =>
    obtain ⟨_, _, _, rfl⟩ := endListening?_eq_some h
    exact t.cleared
  | deliver e =>
    simp only [step?] at h
    split at h
    · cases h; exact t
    · cases h
  | closeInbox => cases h; exact t
  | closeOutbox => cases h; exact t
  | subscribe name => cases h; exact t
  | unsubscribe name => cases h; exact t

end Client
end ChatBridge
