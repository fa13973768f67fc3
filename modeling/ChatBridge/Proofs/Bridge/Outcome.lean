import ChatBridge.Proofs.Bridge.Table

/-!
# How a call ends

The slot of a call holds what the run has handed to it: the first answer with its id that was handled
while the call stood in the table, or the news that none will come. A call ends with what its slot
holds or because its time is over, and nothing that comes later changes that.
-/

namespace ChatBridge.Client

abbrev History := List (Step Client Action)

def handled? (s : Step Client Action) : Option (String × Except Fault Json) :=
  match s.action with
  | .handle => s.before.inbox.head?.bind Envelope.answer?
  | _ => none

def idOf? (c : Client) (n : Nat) : Option String := (c.calls[n]?).bind (·.id)

def Waits (c : Client) (n : Nat) (id : String) : Prop := c.idOf? n = some id ∧ (id, n) ∈ c.pending

instance (c : Client) (n : Nat) (id : String) : Decidable (c.Waits n id) :=
  inferInstanceAs (Decidable (_ ∧ _))

/-- The answer that a step handles while the call waits for it. -/
def handledFor? (n : Nat) (s : Step Client Action) : Option (Except Fault Json) :=
  (handled? s).bind fun (id, r) => if s.before.Waits n id then some r else none

def firstAnswer? (ss : History) (n : Nat) : Option (Except Fault Json) := ss.findSome? (handledFor? n)

def TimedOut (ss : History) (n : Nat) (call : Call) (r : CallResult) : Prop :=
  ∃ s ∈ ss, s.action = .withdraw n ∧ ∃ id kind payload, s.before.Waits n id ∧
    ¬ s.after.Waits n id ∧ call.id = some id ∧ call.errand.message? = some (kind, payload) ∧
    r = .error (.timeout kind id s.before.timeout)

/-- The call stood in the table when the client stopped listening. -/
def CutOff (ss : History) (n : Nat) (call : Call) : Prop :=
  ∃ s ∈ ss, s.action = .endListening ∧ ∃ id, call.id = some id ∧ s.before.Waits n id

def Outcome (ss : History) (n : Nat) (call : Call) (r : CallResult) : Prop :=
  match firstAnswer? ss n with
  | some (.ok v) => r = .ok v
  | some (.error f) => r = .error (.worker f)
  | none => TimedOut ss n call r ∨ r = .error .disconnected ∧ CutOff ss n call

def SlotOf (ss : History) (n : Nat) (call : Call) : Prop :=
  match call.slot with
  | .empty => firstAnswer? ss n = none
  | .answer r => firstAnswer? ss n = some r
  | .dropped => firstAnswer? ss n = none ∧ CutOff ss n call

/-- Where a call stands whose request was put, or could not be put, into the outbox. -/
def SentAs (ss : History) (n : Nat) (call : Call) (taken : Bool) : Prop :=
  match call.phase with
  | .waiting => False
  | .registered => False
  | .finished r => if taken then Outcome ss n call r else r = .error .disconnected
  | _ => taken = true

structure Traced (ss : History) (c : Client) : Prop where
  table : Table c.calls c.pending
  slots : ∀ {n : Nat} {call : Call}, c.calls[n]? = some call → SlotOf ss n call
  fresh : ∀ {n : Nat}, c.calls[n]? = none → firstAnswer? ss n = none
  once : ∀ n, (ss.filterMap (handledFor? n)).length ≤ 1
  sends : ∀ s ∈ ss, ∀ n, s.action = .send n →
    ∃ call, c.calls[n]? = some call ∧ SentAs ss n call s.before.outboxOpen

section
variable {c c' : Client} {a : Action} {n : Nat} {call : Call} {ss : History} {r : CallResult}

/-! ## One more step -/

theorem waits_iff (hc : c.calls[n]? = some call) {id : String} :
    c.Waits n id ↔ call.id = some id ∧ (id, n) ∈ c.pending := by
  simp [Waits, idOf?, hc]

theorem handledFor?_of_spares (t : Table c.calls c.pending) (hs : Spares c a n) :
    handledFor? n ⟨c, a, c'⟩ = none := by
  unfold handledFor? handled?
  cases a with
  | handle =>
    cases hi : c.inbox.head? with
    | none => simp
    | some e =>
      cases he : e.answer? with
      | none => simp [he]
      | some p =>
        have hw : ¬ c.Waits n p.1 := fun hw => hs e p.1 p.2 hi he (t.lookup.mpr hw.2)
        simp [he, hw]
  | _ => rfl

theorem handledFor?_of_action (s : Step Client Action) (hs : s.action ≠ .handle) :
    handledFor? n s = none := by
  unfold handledFor? handled?
  split
  · rename_i ha; exact absurd ha hs
  · rfl

theorem handledFor?_of_entry (t : Table c.calls c.pending) {e : Envelope} {id : String}
    {r : Except Fault Json} (hi : c.inbox.head? = some e) (he : e.answer? = some (id, r))
    (hn : c.entry? id = some n) : handledFor? n ⟨c, .handle, c'⟩ = some r := by
  obtain ⟨call, hc, hid, _⟩ := t.mem_of_lookup hn
  have hw : c.Waits n id := (waits_iff hc).mpr ⟨hid, t.lookup.mp hn⟩
  simp [handledFor?, handled?, hi, he, hw]

theorem awaits_of_handledFor? (t : Table c.calls c.pending) {x : Except Fault Json}
    (h : handledFor? n ⟨c, a, c'⟩ = some x) :
    ∃ call, c.calls[n]? = some call ∧ call.Awaits := by
  obtain ⟨⟨id, y⟩, _, hw⟩ := Option.bind_eq_some_iff.mp h
  dsimp only at hw
  split at hw
  · rename_i hwaits
    obtain ⟨call, hc, _, ha⟩ := t.entries.mp hwaits.2
    exact ⟨call, hc, ha⟩
  · cases hw

theorem firstAnswer?_snoc (s : Step Client Action) :
    firstAnswer? (ss ++ [s]) n = (firstAnswer? ss n).or (handledFor? n s) := by
  simp [firstAnswer?, List.findSome?_append]

theorem firstAnswer?_of_none {s : Step Client Action} (h : handledFor? n s = none) :
    firstAnswer? (ss ++ [s]) n = firstAnswer? ss n := by
  rw [firstAnswer?_snoc, h, Option.or_none]

theorem TimedOut.snoc (h : TimedOut ss n call r) (s : Step Client Action) :
    TimedOut (ss ++ [s]) n call r := by
  obtain ⟨x, hx, h⟩ := h
  exact ⟨x, List.mem_append_left _ hx, h⟩

theorem CutOff.snoc (h : CutOff ss n call) (s : Step Client Action) : CutOff (ss ++ [s]) n call := by
  obtain ⟨x, hx, h⟩ := h
  exact ⟨x, List.mem_append_left _ hx, h⟩

theorem Outcome.snoc {s : Step Client Action} (h : Outcome ss n call r)
    (hs : handledFor? n s = none) : Outcome (ss ++ [s]) n call r := by
  unfold Outcome at h ⊢
  rw [firstAnswer?_of_none hs]
  split
  · rename_i hf; simpa only [hf] using h
  · rename_i hf; simpa only [hf] using h
  · rename_i hf
    simp only [hf] at h
    exact h.imp (·.snoc s) fun h => ⟨h.1, h.2.snoc s⟩

theorem SentAs.snoc {s : Step Client Action} {taken : Bool} (h : SentAs ss n call taken)
    (hs : handledFor? n s = none) : SentAs (ss ++ [s]) n call taken := by
  unfold SentAs at h ⊢
  cases hp : call.phase with
  | finished r =>
    simp only [hp] at h ⊢
    by_cases ht : taken = true
    · rw [if_pos ht] at h ⊢; exact h.snoc hs
    · rw [if_neg ht] at h ⊢; exact h
  | _ => rw [hp] at h; exact h

theorem SlotOf.snoc {s : Step Client Action} (h : SlotOf ss n call) (hs : handledFor? n s = none) :
    SlotOf (ss ++ [s]) n call := by
  unfold SlotOf at h ⊢
  rw [firstAnswer?_of_none hs]
  split
  · rename_i hf; simpa only [hf] using h
  · rename_i hf; simpa only [hf] using h
  · rename_i hf
    simp only [hf] at h
    exact ⟨h.1, h.2.snoc s⟩

theorem outcome_of_slot (h : SlotOf ss n call) (hr : call.slot.result? = some r) :
    Outcome ss n call r := by
  unfold SlotOf at h
  unfold Outcome
  cases hslot : call.slot with
  | empty => rw [hslot] at hr; cases hr
  | answer x =>
    rw [hslot] at h hr
    rw [h]
    cases x with
    | ok v => exact (Option.some.inj hr).symm
    | error f => exact (Option.some.inj hr).symm
  | dropped =>
    rw [hslot] at h hr
    rw [h.1]
    exact .inr ⟨(Option.some.inj hr).symm, h.2⟩

theorem firstAnswer?_of_awaits (t : Traced ss c) (hc : c.calls[n]? = some call)
    (ha : call.Awaits) : firstAnswer? ss n = none := by
  have h := t.slots hc
  unfold SlotOf at h
  rw [ha.2] at h
  exact h

theorem slotOf_step (t : Traced ss c) (h : c.step? a = some c') (hc' : c'.calls[n]? = some call) :
    SlotOf (ss ++ [⟨c, a, c'⟩]) n call := by
  have hch := change_of_step h n
  rw [hc'] at hch
  generalize hx : c.calls[n]? = x at hch
  -- only an answer and the end of the table touch a slot
  have keep : ∀ {old : Call} {p : CallPhase}, c.calls[n]? = some old → a ≠ .handle →
      SlotOf (ss ++ [⟨c, a, c'⟩]) n { old with phase := p } := by
    intro old p ho hne
    have hk := (t.slots ho).snoc (handledFor?_of_action ⟨c, a, c'⟩ hne)
    exact hk
  cases hch with
  | kept _ hs => exact (t.slots hx).snoc (handledFor?_of_spares t.table hs)
  | made e ha =>
    show firstAnswer? _ n = none
    rw [firstAnswer?_of_none (handledFor?_of_action ⟨c, a, c'⟩ (by simp [ha]))]
    exact t.fresh hx
  | registered old id ha hm _ =>
    have hs := t.table.shaped hx
    simp only [Call.Shaped, phase_of_mayRegister hm] at hs
    have hk := (t.slots hx).snoc (handledFor?_of_action ⟨c, a, c'⟩ (by simp [ha]))
    unfold SlotOf at hk ⊢
    simp only [hs.2] at hk ⊢
    exact hk
  | answered old e id r ha hl hi he hn =>
    subst ha
    obtain ⟨_, haw⟩ := t.table.awaits_of_lookup hx hn
    show firstAnswer? _ n = some r
    rw [firstAnswer?_snoc, firstAnswer?_of_awaits t hx haw, handledFor?_of_entry t.table hi he hn]
    rfl
  | dropped old id ha hn =>
    obtain ⟨hid, haw⟩ := t.table.awaits_of_lookup hx (t.table.lookup.mpr hn)
    refine ⟨?_, ⟨c, a, c'⟩, by simp, ha, id, hid, (waits_iff hx).mpr ⟨hid, hn⟩⟩
    rw [firstAnswer?_of_none (handledFor?_of_action ⟨c, a, c'⟩ (by simp [ha]))]
    exact firstAnswer?_of_awaits t hx haw
  | dismissed _ _ ha _ _ => exact keep hx (by simp [ha])
  | sent _ _ ha _ _ _ => exact keep hx (by simp [ha])
  | unsent _ ha _ _ => exact keep hx (by simp [ha])
  | took _ _ ha _ _ => exact keep hx (by simp [ha])
  | expired _ ha _ => exact keep hx (by simp [ha])
  | timedOut _ _ _ _ ha _ _ _ _ => exact keep hx (by simp [ha])
  | late _ _ ha _ _ _ => exact keep hx (by simp [ha])
  | tookLate _ ha _ => exact keep hx (by simp [ha])
  | cancelled _ ha _ _ => exact keep hx (by simp [ha])

theorem firstAnswer?_step (t : Traced ss c) (h : c.step? a = some c') (hc' : c'.calls[n]? = none) :
    firstAnswer? (ss ++ [⟨c, a, c'⟩]) n = none := by
  have hch := change_of_step h n
  rw [hc'] at hch
  generalize hx : c.calls[n]? = x at hch
  cases hch with
  | absent =>
    rw [firstAnswer?_snoc, t.fresh hx, Option.none_or, Option.eq_none_iff_forall_ne_some]
    intro r hr
    obtain ⟨call, hc, _⟩ := awaits_of_handledFor? t.table hr
    cases hx.symm.trans hc

theorem once_step (t : Traced ss c) (a : Action) (c' : Client) (n : Nat) :
    ((ss ++ [Step.mk c a c']).filterMap (handledFor? n)).length ≤ 1 := by
  rw [List.filterMap_append, List.length_append]
  cases hr : handledFor? n ⟨c, a, c'⟩ with
  | none => simpa [hr] using t.once n
  | some r =>
    obtain ⟨call, hc, ha⟩ := awaits_of_handledFor? t.table hr
    have hnone : ss.filterMap (handledFor? n) = [] := by
      rw [List.filterMap_eq_nil_iff]
      exact List.findSome?_eq_none_iff.mp (firstAnswer?_of_awaits t hc ha)
    simp [hnone, hr]

theorem not_waits_of_withdraw {id : String} (h : c.step? (.withdraw n) = some c')
    (hc : c.calls[n]? = some call) (hid : call.id = some id) (he : (c.entry? id).isSome) :
    ¬ c'.Waits n id := by
  obtain ⟨old, hold, h⟩ := withCall_eq_some h
  cases hc.symm.trans hold
  obtain ⟨_, i, kind, payload, hi, _, ⟨_, rfl⟩ | ⟨he', _⟩⟩ := withdraw?_eq_some h
  · cases hi.symm.trans hid
    intro hw
    simpa using hw.2
  · cases hi.symm.trans hid
    rw [he'] at he
    cases he

theorem result?_of_ne_empty {s : Slot} (h : s ≠ .empty) : ∃ r, s.result? = some r := by
  cases s with
  | empty => exact absurd rfl h
  | answer x =>
    cases x with
    | ok v => exact ⟨_, rfl⟩
    | error f => exact ⟨_, rfl⟩
  | dropped => exact ⟨_, rfl⟩

theorem sentAs_of_isOpen {call' : Call} {ss' : History} {taken : Bool}
    (ho : call.phase.isOpen = true) (hp : call'.phase = call.phase) (hs : SentAs ss n call taken) :
    SentAs ss' n call' taken := by
  unfold SentAs at hs ⊢
  rw [hp]
  cases h : call.phase with
  | registered => rw [h] at hs; exact hs
  | sent => rw [h] at hs; exact hs
  | expired => rw [h] at hs; exact hs
  | waiting => rw [h] at ho; cases ho
  | late => rw [h] at ho; cases ho
  | finished r => rw [h] at ho; cases ho
  | cancelled => rw [h] at ho; cases ho

theorem sentAs_step (t : Traced ss c) (h : c.step? a = some c') (hc : c.calls[n]? = some call)
    {taken : Bool} (hs : SentAs ss n call taken) :
    ∃ call', c'.calls[n]? = some call' ∧ SentAs (ss ++ [⟨c, a, c'⟩]) n call' taken := by
  have hch := change_of_step h n
  rw [hc] at hch
  generalize hy : c'.calls[n]? = y at hch
  have hsent := hs
  unfold SentAs at hs
  cases hch with
  | kept _ hsp =>
    exact ⟨call, rfl, hsent.snoc (handledFor?_of_spares t.table hsp)⟩
  | dismissed _ _ _ hp _ => rw [hp] at hs; exact hs.elim
  | registered _ _ _ hm _ => rw [phase_of_mayRegister hm] at hs; exact hs.elim
  | sent _ _ _ hp _ _ => rw [hp] at hs; exact hs.elim
  | unsent _ _ hp _ => rw [hp] at hs; exact hs.elim
  | took _ r ha hp hr =>
    rw [hp] at hs
    have ho : Outcome (ss ++ [⟨c, a, c'⟩]) n call r :=
      (outcome_of_slot (t.slots hc) hr).snoc (handledFor?_of_action ⟨c, a, c'⟩ (by simp [ha]))
    refine ⟨_, rfl, ?_⟩
    show if taken then Outcome _ n call r else _
    rw [if_pos hs]
    exact ho
  | expired _ _ hp => rw [hp] at hs; exact ⟨_, rfl, hs⟩
  | timedOut _ id kind payload ha hp hid hm he =>
    rw [hp] at hs
    subst ha
    have hl := t.table.lookup_of_id hc hid he
    have hnone := firstAnswer?_of_awaits t hc (t.table.awaits_of_lookup hc hl).2
    refine ⟨_, rfl, ?_⟩
    show if taken then Outcome _ n call _ else _
    rw [if_pos hs]
    unfold Outcome
    rw [firstAnswer?_of_none (handledFor?_of_action ⟨c, .withdraw n, c'⟩ (by simp)), hnone]
    refine .inl ⟨_, List.mem_append_right _ (List.mem_singleton.mpr rfl), rfl, id, kind, payload, ?_⟩
    exact ⟨(waits_iff hc).mpr ⟨hid, t.table.lookup.mp hl⟩, not_waits_of_withdraw h hc hid he, hid, hm,
      rfl⟩
  | late _ _ _ hp _ _ => rw [hp] at hs; exact ⟨_, rfl, hs⟩
  | tookLate _ ha hp =>
    have hsh := t.table.shaped hc
    simp only [Call.Shaped, hp] at hsh
    obtain ⟨r, hr⟩ := result?_of_ne_empty hsh.2.2
    have ho : Outcome (ss ++ [⟨c, a, c'⟩]) n call r :=
      (outcome_of_slot (t.slots hc) hr).snoc (handledFor?_of_action ⟨c, a, c'⟩ (by simp [ha]))
    rw [hp] at hs
    refine ⟨_, rfl, ?_⟩
    show if taken then Outcome _ n call (call.slot.result?.getD _) else _
    rw [if_pos hs, hr]
    exact ho
  | cancelled _ _ hp _ =>
    refine ⟨_, rfl, ?_⟩
    show taken = true
    split at hs
    · exact hs.elim
    · exact hs.elim
    · rename_i r hf; exact absurd hf (hp r)
    · exact hs
  | answered _ e id r _ _ _ _ hn =>
    exact ⟨_, rfl, sentAs_of_isOpen (t.table.awaits_of_lookup hc hn).2.1 rfl hsent⟩
  | dropped _ id _ hn =>
    have hopen := (t.table.awaits_of_lookup hc (t.table.lookup.mpr hn)).2.1
    exact ⟨_, rfl, sentAs_of_isOpen hopen rfl hsent⟩

theorem sentAs_send (h : c.step? (.send n) = some c') :
    ∃ call', c'.calls[n]? = some call' ∧ SentAs (ss ++ [⟨c, .send n, c'⟩]) n call' c.outboxOpen := by
  obtain ⟨call, hc, h⟩ := withCall_eq_some h
  have hn := (List.getElem?_eq_some_iff.mp hc).1
  obtain ⟨_, id, kind, payload, _, _, ⟨ho, rfl⟩ | ⟨ho, rfl⟩⟩ := send?_eq_some h
  · exact ⟨{ call with phase := .sent }, by simp [hn], ho⟩
  · refine ⟨{ call with phase := .finished (.error .disconnected) }, by simp [hn], ?_⟩
    show if c.outboxOpen then _ else _
    rw [ho]
    exact rfl

theorem Traced.step (t : Traced ss c) (h : c.step? a = some c') : Traced (ss ++ [⟨c, a, c'⟩]) c' where
  table := table_of_step t.table h
  slots := slotOf_step t h
  fresh := firstAnswer?_step t h
  once := once_step t a c'
  sends s hs n ha := by
    rcases List.mem_append.mp hs with hs | hs
    · obtain ⟨call, hc, hsent⟩ := t.sends s hs n ha
      exact sentAs_step t h hc hsent
    · cases List.mem_singleton.mp hs
      dsimp only at ha
      subst ha
      exact sentAs_send h

theorem traced_of_run {config : AgentConfig} {timeout : Nat}
    (run : Run step? (connect config timeout) ss c) : Traced ss c := by
  induction run with
  | nil =>
    refine ⟨Table.start _, fun {n call} hc => ?_, fun _ => rfl, fun n => by simp, fun s hs => ?_⟩
    · cases n with
      | zero => cases hc; rfl
      | succ n => simp [connect] at hc
    · cases hs
  | snoc _ h ih => exact ih.step h

/-! ## What stays -/

theorem result?_step (h : c.step? a = some c') (hr : c.result? n = some r) :
    c'.result? n = some r := by
  obtain ⟨call, hc, hp⟩ := Option.bind_eq_some_iff.mp hr
  have hphase : call.phase = .finished r := by
    unfold Call.result? at hp
    split at hp
    · rename_i x hx; rw [hx, Option.some.inj hp]
    · cases hp
  have hch := change_of_step h n
  rw [hc] at hch
  unfold result?
  generalize c'.calls[n]? = y at hch
  cases hch with
  | kept _ _ => exact hp
  | dismissed _ _ _ hq _ => cases hphase.symm.trans hq
  | registered _ _ _ hm _ => cases hphase.symm.trans (phase_of_mayRegister hm)
  | sent _ _ _ hq _ _ => cases hphase.symm.trans hq
  | unsent _ _ hq _ => cases hphase.symm.trans hq
  | took _ _ _ hq _ => cases hphase.symm.trans hq
  | expired _ _ hq => cases hphase.symm.trans hq
  | timedOut _ _ _ _ _ hq _ _ _ => cases hphase.symm.trans hq
  | late _ _ _ hq _ _ => cases hphase.symm.trans hq
  | tookLate _ _ hq => cases hphase.symm.trans hq
  | cancelled _ _ hq _ => exact absurd hphase (hq r)
  | answered _ _ _ _ _ _ _ _ _ => exact hp
  | dropped _ _ _ _ => exact hp

theorem idOf?_step (t : Table c.calls c.pending) (h : c.step? a = some c') {id : String}
    (hid : c.idOf? n = some id) : c'.idOf? n = some id := by
  obtain ⟨call, hc, hcid⟩ := Option.bind_eq_some_iff.mp hid
  have hch := change_of_step h n
  rw [hc] at hch
  unfold idOf?
  generalize c'.calls[n]? = y at hch
  cases hch with
  | registered _ _ _ hm _ =>
    have hs := t.shaped hc
    simp only [Call.Shaped, phase_of_mayRegister hm] at hs
    cases hs.1.symm.trans hcid
  | _ => exact hcid

theorem result?_of_mem {start : Client} (run : Run step? start ss c) {s : Step Client Action}
    (hs : s ∈ ss) (hr : s.after.result? n = some r) : c.result? n = some r := by
  induction run with
  | nil => cases hs
  | snoc _ h ih =>
    rcases List.mem_append.mp hs with hs | hs
    · exact result?_step h (ih hs)
    · cases List.mem_singleton.mp hs
      exact hr

theorem idOf?_of_mem {config : AgentConfig} {timeout : Nat}
    (run : Run step? (connect config timeout) ss c) {s : Step Client Action} (hs : s ∈ ss)
    {id : String} (hid : s.before.idOf? n = some id) : c.idOf? n = some id := by
  induction run with
  | nil => cases hs
  | snoc run h ih =>
    refine idOf?_step (traced_of_run run).table h ?_
    rcases List.mem_append.mp hs with hs | hs
    · exact ih hs
    · cases List.mem_singleton.mp hs
      exact hid

theorem call_of_handle (t : Table c.calls c.pending) (h : c.step? .handle = some c')
    (hn : handledFor? n ⟨c, .handle, c'⟩ = none) : c'.calls[n]? = c.calls[n]? := by
  have hch := change_of_step h n
  generalize c.calls[n]? = x at hch
  generalize c'.calls[n]? = y at hch
  cases hch with
  | absent => rfl
  | kept _ _ => rfl
  | answered _ e id r _ _ hi he hent =>
    rw [handledFor?_of_entry t hi he hent] at hn
    cases hn
  | _ => contradiction

/-! ## Coming to an end -/

/-- Steps of the call alone bring it to its end. -/
def CanEnd (c : Client) (n : Nat) : Prop :=
  ∃ ss c', Run step? c ss c' ∧ (∀ s ∈ ss, s.action.caller? = some n) ∧ (c'.result? n).isSome

theorem canEnd_of_step (h : c.step? a = some c') (ha : a.caller? = some n) (hend : CanEnd c' n) :
    CanEnd c n := by
  obtain ⟨ss, d, run, hss, hd⟩ := hend
  refine ⟨[⟨c, a, c'⟩] ++ ss, d, (Run.single h).append run, fun s hs => ?_, hd⟩
  rcases List.mem_append.mp hs with hs | hs
  · cases List.mem_singleton.mp hs
    exact ha
  · exact hss s hs

theorem canEnd_of_result? (h : (c.result? n).isSome) : CanEnd c n :=
  ⟨[], c, .nil, fun _ hs => absurd hs List.not_mem_nil, h⟩

theorem result?_finish (hc : c.calls[n]? = some call) :
    ((c.finish n call r).result? n).isSome := by
  have hn := (List.getElem?_eq_some_iff.mp hc).1
  simp [result?, hn, Call.result?]

theorem canEnd_of_late (hc : c.calls[n]? = some call) (hp : call.phase = .late) : CanEnd c n := by
  have h : c.step? (.takeLate n) =
      some (c.finish n call (call.slot.result?.getD (.error .disconnected))) := by
    simp only [step?, withCall, hc, Option.bind_some, takeLate?, hp]
  exact canEnd_of_step h rfl (canEnd_of_result? (result?_finish hc))

theorem canEnd_of_expired (t : Table c.calls c.pending) (hc : c.calls[n]? = some call)
    (hp : call.phase = .expired) : CanEnd c n := by
  have hn := (List.getElem?_eq_some_iff.mp hc).1
  obtain ⟨id, kind, payload, hid, hm⟩ := (t.shaped hc).exists_request (by rw [hp]; rfl)
  have h : c.step? (.withdraw n) = c.withdraw? n call := by
    simp only [step?, withCall, hc, Option.bind_some]
  simp only [withdraw?, hp, hid, hm] at h
  split at h
  · exact canEnd_of_step h rfl (canEnd_of_result? (result?_finish hc))
  · exact canEnd_of_step h rfl (canEnd_of_late (by simp [hn]; rfl) rfl)

theorem canEnd_of_sent (t : Table c.calls c.pending) (hc : c.calls[n]? = some call)
    (hp : call.phase = .sent) : CanEnd c n := by
  have hn := (List.getElem?_eq_some_iff.mp hc).1
  cases hr : call.slot.result? with
  | some r =>
    have h : c.step? (.take n) = some ((c.strikeOf call).finish n call r) := by
      simp only [step?, withCall, hc, Option.bind_some, take?, hp, hr, Option.map_some]
    refine canEnd_of_step h rfl (canEnd_of_result? (result?_finish ?_))
    rw [calls_strikeOf, hc]
  | none =>
    have h : c.step? (.expire n) = some (c.setCall n { call with phase := .expired }) := by
      simp only [step?, withCall, hc, Option.bind_some, expire?, hp]
    exact canEnd_of_step h rfl (canEnd_of_expired (table_of_step t h) (by simp [hn]; rfl) rfl)

theorem canEnd_of_sentAs (t : Table c.calls c.pending) (hc : c.calls[n]? = some call)
    (hs : SentAs ss n call true) : call.phase = .cancelled ∨ CanEnd c n := by
  unfold SentAs at hs
  cases hp : call.phase with
  | waiting => rw [hp] at hs; exact hs.elim
  | registered => rw [hp] at hs; exact hs.elim
  | sent => exact .inr (canEnd_of_sent t hc hp)
  | expired => exact .inr (canEnd_of_expired t hc hp)
  | late => exact .inr (canEnd_of_late hc hp)
  | finished r => exact .inr (canEnd_of_result? (by simp [result?, hc, Call.result?, hp]))
  | cancelled => exact .inl rfl

end

/-! ## Main statement -/

/-- A call under the id `id` ends as the first answer with that id says that was handled while it
waited; without such an answer it was taken off the table by its time or by the end of the table. No
other envelope leaves a trace in it, and its end is final. -/
theorem outcome_of_run {config : AgentConfig} {timeout : Nat} {ss : History} {c : Client} {n : Nat}
    {call : Call} {id : String} (run : Run step? (connect config timeout) ss c)
    (hc : c.calls[n]? = some call) (hid : call.id = some id) :
    (∀ s ∈ ss, s.action = .send n → s.before.outboxOpen = false →
      call.phase = .finished (.error .disconnected)) ∧
    (∀ s ∈ ss, s.action = .send n → s.before.outboxOpen = true →
      (∀ r, call.phase = .finished r → Outcome ss n call r) ∧
      (call.phase = .cancelled ∨ CanEnd c n)) ∧
    (∀ s ∈ ss, ∀ x, handledFor? n s = some x → handled? s = some (id, x)) ∧
    (ss.filterMap (handledFor? n)).length ≤ 1 ∧
    (∀ s ∈ ss, s.action = .handle → handledFor? n s = none →
      s.after.calls[n]? = s.before.calls[n]?) ∧
    (∀ s ∈ ss, ∀ r, s.after.result? n = some r → call.phase = .finished r) := by
  have t := traced_of_run run
  refine ⟨fun s hs ha ho => ?_, fun s hs ha ho => ?_, fun s hs x hx => ?_, t.once n,
    fun s hs ha hn => ?_, fun s hs r hr => ?_⟩
  · obtain ⟨other, hother, hsent⟩ := t.sends s hs n ha
    cases hc.symm.trans hother
    unfold SentAs at hsent
    rw [ho] at hsent
    split at hsent <;> simp_all
  · obtain ⟨other, hother, hsent⟩ := t.sends s hs n ha
    cases hc.symm.trans hother
    rw [ho] at hsent
    refine ⟨fun r hp => ?_, canEnd_of_sentAs t.table hc hsent⟩
    simpa [SentAs, hp] using hsent
  · obtain ⟨⟨i, y⟩, hh, hw⟩ := Option.bind_eq_some_iff.mp hx
    dsimp only at hw
    split at hw
    · rename_i hwaits
      have hi := idOf?_of_mem run hs hwaits.1
      rw [idOf?, hc, Option.bind_some, hid] at hi
      cases hi
      cases hw
      exact hh
    · cases hw
  · obtain ⟨pre, hpre, hstep⟩ := run.before_of_mem hs
    obtain ⟨before, action, after⟩ := s
    dsimp only at ha
    subst ha
    exact call_of_handle (traced_of_run hpre).table hstep hn
  · have := result?_of_mem run hs hr
    rw [result?, hc, Option.bind_some, Call.result?] at this
    split at this
    · rename_i hp; rw [hp, Option.some.inj this]
    · cases this

/-- The answer to another id comes first, and the answer to the call comes twice. -/
theorem outcome_of_answered_run :
    ∃ ss c call, Run step? (connect .standard 1000) ss c ∧ c.calls[0]? = some call ∧
      call.id = some "a" ∧ call.phase = .finished (.ok (.bool true)) ∧
      Outcome ss 0 call (.ok (.bool true)) := by
  have run : ∃ ss c call, Run step? (connect .standard 1000) ss c ∧ c.calls[0]? = some call ∧
      call.id = some "a" ∧ call.phase = .finished (.ok (.bool true)) ∧
      ∃ s ∈ ss, s.action = .send 0 ∧ s.before.outboxOpen = true := by
    refine ⟨_, _, _, .of_play [.register 0 "a", .send 0, .deliver (.response "b" .null),
      .deliver (.response "a" (.bool true)), .deliver (.error "a" .agentNotInitialized), .handle,
      .handle, .handle, .take 0] rfl, rfl, rfl, rfl, ?_⟩
    exact ⟨_, List.mem_cons_of_mem _ List.mem_cons_self, rfl, rfl⟩
  obtain ⟨ss, c, call, run, hc, hid, hp, s, hs, ha, ho⟩ := run
  have h := outcome_of_run run hc hid
  exact ⟨ss, c, call, run, hc, hid, hp, (h.2.1 s hs ha ho).1 _ hp⟩

end ChatBridge.Client
