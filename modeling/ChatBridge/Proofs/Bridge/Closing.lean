import ChatBridge.Proofs.Bridge.Audience
import ChatBridge.Proofs.Bridge.Entries

/-!
# How a client comes to rest

Every step that a call takes brings it nearer to its end, and what has come in grows less. So a
client to which nothing more happens comes to rest, and at rest no call is in progress: the first
one has ended and has decided for those that waited for it, and all others have what they end with.

A client whose outbox is closed sends nothing any more. Once it has stopped listening too, only
calls that have not tried to send their request stand in its table.
-/

namespace ChatBridge

def CallPhase.rank : CallPhase → Nat
  | .waiting => 5
  | .registered => 4
  | .sent => 3
  | .expired => 2
  | .late => 1
  | .finished _ => 0
  | .cancelled => 0

def CallPhase.IsBarred : CallPhase → Prop
  | .waiting => True
  | .registered => True
  | .cancelled => True
  | .finished r => r = .error .disconnected ∨ r = .error .notReady
  | _ => False

namespace Client

/-- Whether a call goes on or something that has come in is taken notice of; where `timed` holds,
the time of calls may run out. -/
def Action.isProgress (timed : Bool) : Action → Bool
  | .dismiss _ => true
  | .register _ _ => true
  | .send _ => true
  | .take _ => true
  | .expire _ => timed
  | .withdraw _ => true
  | .takeLate _ => true
  | .handle => true
  | .endListening => true
  | _ => false

def Action.isCall : Action → Bool
  | .call _ => true
  | _ => false

variable {c c₁ c' : Client} {a : Action} {n : Nat} {call call' : Call} {r : CallResult}
  {id : String}

/-! ## Channels that close -/

@[simp] theorem inboxOpen_finish : (c.finish n call r).inboxOpen = c.inboxOpen := by
  unfold finish
  cases call.errand <;> cases r <;> rfl

@[simp] theorem outboxOpen_finish : (c.finish n call r).outboxOpen = c.outboxOpen := by
  unfold finish
  cases call.errand <;> cases r <;> rfl

@[simp] theorem inboxOpen_strikeOf : (c.strikeOf call).inboxOpen = c.inboxOpen := by
  unfold strikeOf
  cases call.id <;> rfl

@[simp] theorem outboxOpen_strikeOf : (c.strikeOf call).outboxOpen = c.outboxOpen := by
  unfold strikeOf
  cases call.id <;> rfl

structure SameEnds (c c' : Client) : Prop where
  inboxOpen : c'.inboxOpen = c.inboxOpen
  outboxOpen : c'.outboxOpen = c.outboxOpen
  listening : c'.listening = c.listening

theorem sameEnds_finish (h : SameEnds c c₁) : SameEnds c (c₁.finish n call r) :=
  ⟨inboxOpen_finish.trans h.inboxOpen, outboxOpen_finish.trans h.outboxOpen,
    listening_finish.trans h.listening⟩

theorem sameEnds_strikeOf : SameEnds c (c.strikeOf call) :=
  ⟨inboxOpen_strikeOf, outboxOpen_strikeOf, listening_strikeOf⟩

theorem sameEnds_complete (x : Except Fault Json) : SameEnds c (c.complete id x) := by
  unfold complete
  cases c.entry? id with
  | none => exact ⟨rfl, rfl, rfl⟩
  | some n => exact ⟨rfl, rfl, rfl⟩

theorem sameEnds_receive (e : Envelope) : SameEnds c (c.receive e) := by
  cases e with
  | request id kind payload => exact ⟨rfl, rfl, rfl⟩
  | response id v => exact sameEnds_complete _
  | error id f => exact sameEnds_complete _
  | event e => exact ⟨rfl, rfl, rfl⟩

theorem sameEnds_of_step (h : c.step? a = some c') (hi : a ≠ .closeInbox) (ho : a ≠ .closeOutbox)
    (hl : a ≠ .endListening) : SameEnds c c' := by
  cases a with
  | call e =>
    simp only [step?] at h
    split at h
    · cases h
    · cases h; exact ⟨rfl, rfl, rfl⟩
  | dismiss n =>
    obtain ⟨call, _, h⟩ := withCall_eq_some h
    obtain ⟨_, r, _, rfl⟩ := dismiss?_eq_some h
    exact sameEnds_finish ⟨rfl, rfl, rfl⟩
  | register n id =>
    obtain ⟨call, _, h⟩ := withCall_eq_some h
    obtain ⟨_, _, rfl⟩ := register?_eq_some h
    exact ⟨rfl, rfl, rfl⟩
  | send n =>
    obtain ⟨call, _, h⟩ := withCall_eq_some h
    obtain ⟨_, id, _, _, _, _, ⟨_, rfl⟩ | ⟨_, rfl⟩⟩ := send?_eq_some h
    · exact ⟨rfl, rfl, rfl⟩
    · exact sameEnds_finish ⟨rfl, rfl, rfl⟩
  | take n =>
    obtain ⟨call, _, h⟩ := withCall_eq_some h
    obtain ⟨_, r, _, rfl⟩ := take?_eq_some h
    exact sameEnds_finish sameEnds_strikeOf
  | expire n =>
    obtain ⟨call, _, h⟩ := withCall_eq_some h
    obtain ⟨_, rfl⟩ := expire?_eq_some h
    exact ⟨rfl, rfl, rfl⟩
  | withdraw n =>
    obtain ⟨call, _, h⟩ := withCall_eq_some h
    obtain ⟨_, id, _, _, _, _, ⟨_, rfl⟩ | ⟨_, rfl⟩⟩ := withdraw?_eq_some h
    · exact sameEnds_finish ⟨rfl, rfl, rfl⟩
    · exact ⟨rfl, rfl, rfl⟩
  | takeLate n =>
    obtain ⟨call, _, h⟩ := withCall_eq_some h
    obtain ⟨_, rfl⟩ := takeLate?_eq_some h
    exact sameEnds_finish ⟨rfl, rfl, rfl⟩
  | cancel n =>
    obtain ⟨call, _, h⟩ := withCall_eq_some h
    obtain ⟨_, _, _, rfl⟩ := cancel?_eq_some h
    have hs : SameEnds c (c.strikeOf call) := sameEnds_strikeOf
    exact ⟨hs.inboxOpen, hs.outboxOpen, hs.listening⟩
  | handle =>
    obtain ⟨_, e, rest, _, rfl⟩ := handle?_eq_some h
    have hs : SameEnds { c with inbox := rest } ({ c with inbox := rest }.receive e) :=
      sameEnds_receive e
    exact ⟨hs.inboxOpen, hs.outboxOpen, hs.listening⟩
  | endListening => exact absurd rfl hl
  | deliver e =>
    simp only [step?] at h
    split at h
    · cases h; exact ⟨rfl, rfl, rfl⟩
    · cases h
  | closeInbox => exact absurd rfl hi
  | closeOutbox => exact absurd rfl ho
  | subscribe name => cases h; exact ⟨rfl, rfl, rfl⟩
  | unsubscribe name => cases h; exact ⟨rfl, rfl, rfl⟩

theorem inboxOpen_of_step (h : c.step? a = some c') (ha : a ≠ .closeInbox) :
    c'.inboxOpen = c.inboxOpen := by
  by_cases ho : a = .closeOutbox
  · subst ho
    cases h
    rfl
  · by_cases hl : a = .endListening
    · subst hl
      obtain ⟨_, _, _, rfl⟩ := endListening?_eq_some h
      rfl
    · exact (sameEnds_of_step h ha ho hl).inboxOpen

theorem outboxOpen_stays (h : c.step? a = some c') (ho : c.outboxOpen = false) :
    c'.outboxOpen = false := by
  by_cases hc : a = .closeOutbox
  · subst hc
    cases h
    rfl
  · by_cases hi : a = .closeInbox
    · subst hi
      cases h
      exact ho
    · by_cases hl : a = .endListening
      · subst hl
        obtain ⟨_, _, _, rfl⟩ := endListening?_eq_some h
        exact ho
      · rw [(sameEnds_of_step h hi hc hl).outboxOpen, ho]

/-! ## What is left to do -/

def stepsLeft : List Call → Nat
  | [] => 0
  | call :: calls => call.phase.rank + stepsLeft calls

/-- How many steps the calls may still take, and how much there is to take notice of. -/
def remaining (c : Client) : Nat :=
  c.inbox.length + c.inboxOpen.toNat + c.listening.toNat + stepsLeft c.calls

theorem stepsLeft_snoc (calls : List Call) (call : Call) :
    stepsLeft (calls ++ [call]) = stepsLeft calls + call.phase.rank := by
  induction calls with
  | nil => exact Nat.add_comm _ _
  | cons other calls ih =>
    rw [List.cons_append, stepsLeft, stepsLeft, ih, Nat.add_assoc]

theorem stepsLeft_set {calls : List Call} (hc : calls[n]? = some call)
    (hr : call'.phase.rank < call.phase.rank) :
    stepsLeft (calls.set n call') < stepsLeft calls := by
  induction calls generalizing n with
  | nil => cases hc
  | cons other calls ih =>
    cases n with
    | zero =>
      cases hc
      simpa [stepsLeft] using hr
    | succ n =>
      have hlt := ih hc
      simpa [stepsLeft] using hlt

theorem stepsLeft_congr {calls calls' : List Call}
    (h : calls'.map (·.phase) = calls.map (·.phase)) : stepsLeft calls' = stepsLeft calls := by
  induction calls generalizing calls' with
  | nil => rw [List.map_eq_nil_iff.mp h]
  | cons call calls ih =>
    obtain ⟨call', rest, rfl, hphase, hrest⟩ := List.map_eq_cons_iff.mp h
    rw [stepsLeft, stepsLeft, hphase, ih hrest]

theorem remaining_of_set (h : c.step? a = some c') (ha : a.caller? = some n)
    (hc : c.calls[n]? = some call) (hc' : c'.calls = c.calls.set n call')
    (hr : call'.phase.rank < call.phase.rank) : c'.remaining < c.remaining := by
  have hheard : a.isHeard = false := by
    cases a with
    | handle => cases ha
    | deliver e => cases ha
    | subscribe name => cases ha
    | unsubscribe name => cases ha
    | _ => rfl
  have hin := (subscribers_of_step h hheard).2
  have hends : SameEnds c c' := sameEnds_of_step h (by rintro rfl; cases ha)
    (by rintro rfl; cases ha) (by rintro rfl; cases ha)
  have hsum := stepsLeft_set hc hr
  unfold remaining
  rw [hin, hends.inboxOpen, hends.listening, hc']
  omega

theorem phases_receive (e : Envelope) :
    (c.receive e).calls.map (·.phase) = c.calls.map (·.phase) := by
  cases he : e.answer? with
  | none => rw [(receive_of_answer?_eq_none he).1]
  | some p =>
    obtain ⟨id, x⟩ := p
    rw [receive_of_answer?_eq_some he]
    cases hent : c.entry? id with
    | none => rw [complete_of_no_entry x hent]
    | some m =>
      rw [complete_of_entry x hent]
      refine List.ext_getElem? fun k => ?_
      rw [List.getElem?_map, List.getElem?_map, List.getElem?_modify]
      split
      · cases c.calls[k]? <;> rfl
      · cases c.calls[k]? <;> rfl

/-- Whatever a client does of itself, less is left to do. -/
theorem remaining_of_step (h : c.step? a = some c') (timed : Bool)
    (ha : a.isProgress timed = true) : c'.remaining < c.remaining := by
  have hstep := h
  cases a with
  | dismiss n =>
    obtain ⟨call, hc, h⟩ := withCall_eq_some h
    obtain ⟨hp, r, _, rfl⟩ := dismiss?_eq_some h
    exact remaining_of_set hstep rfl hc (calls_finish ..) (by simp [hp, CallPhase.rank])
  | register n id =>
    obtain ⟨call, hc, h⟩ := withCall_eq_some h
    obtain ⟨hm, _, rfl⟩ := register?_eq_some h
    exact remaining_of_set hstep rfl hc rfl (by simp [phase_of_mayRegister hm, CallPhase.rank])
  | send n =>
    obtain ⟨call, hc, h⟩ := withCall_eq_some h
    obtain ⟨hp, _, _, _, _, _, ⟨_, rfl⟩ | ⟨_, rfl⟩⟩ := send?_eq_some h
    · exact remaining_of_set hstep rfl hc rfl (by simp [hp, CallPhase.rank])
    · exact remaining_of_set hstep rfl hc (calls_finish ..) (by simp [hp, CallPhase.rank])
  | take n =>
    obtain ⟨call, hc, h⟩ := withCall_eq_some h
    obtain ⟨hp, r, _, rfl⟩ := take?_eq_some h
    have hcalls : ((c.strikeOf call).finish n call r).calls =
        c.calls.set n { call with phase := .finished r } := by simp
    exact remaining_of_set hstep rfl hc hcalls (by simp [hp, CallPhase.rank])
  | expire n =>
    obtain ⟨call, hc, h⟩ := withCall_eq_some h
    obtain ⟨hp, rfl⟩ := expire?_eq_some h
    exact remaining_of_set hstep rfl hc rfl (by simp [hp, CallPhase.rank])
  | withdraw n =>
    obtain ⟨call, hc, h⟩ := withCall_eq_some h
    obtain ⟨hp, _, _, _, _, _, ⟨_, rfl⟩ | ⟨_, rfl⟩⟩ := withdraw?_eq_some h
    · exact remaining_of_set hstep rfl hc (calls_finish ..) (by simp [hp, CallPhase.rank])
    · exact remaining_of_set hstep rfl hc rfl (by simp [hp, CallPhase.rank])
  | takeLate n =>
    obtain ⟨call, hc, h⟩ := withCall_eq_some h
    obtain ⟨hp, rfl⟩ := takeLate?_eq_some h
    exact remaining_of_set hstep rfl hc (calls_finish ..) (by simp [hp, CallPhase.rank])
  | handle =>
    have hends := sameEnds_of_step h nofun nofun nofun
    obtain ⟨_, e, rest, hi, rfl⟩ := handle?_eq_some h
    have hin := (still_receive { c with inbox := rest } e).inbox
    have hleft : stepsLeft (({ c with inbox := rest } : Client).receive e).calls =
        stepsLeft c.calls := stepsLeft_congr (phases_receive e)
    unfold remaining
    rw [hleft, hends.inboxOpen, hends.listening, hin, hi, List.length_cons]
    show rest.length + _ + _ + _ < _
    omega
  | endListening =>
    obtain ⟨hl, _, _, rfl⟩ := endListening?_eq_some h
    have hleft : stepsLeft (c.calls.mapIdx fun n call => if (c.pending.map (·.2)).contains n then
        { call with slot := .dropped } else call) = stepsLeft c.calls := by
      refine stepsLeft_congr (List.ext_getElem? fun k => ?_)
      rw [List.getElem?_map, List.getElem?_map, List.getElem?_mapIdx]
      cases c.calls[k]? with
      | none => rfl
      | some call =>
        simp only [Option.map_some]
        split <;> rfl
    unfold remaining
    dsimp only
    rw [hleft, hl]
    simp
  | _ => cases ha

theorem remaining_le_of_step (h : c.step? a = some c') (hi : ∀ e, a ≠ .deliver e) (timed : Bool) :
    c'.remaining + (a.isProgress timed).toNat ≤ c.remaining + 5 * a.isCall.toNat := by
  have less (hlt : c'.remaining < c.remaining) :
      c'.remaining + (a.isProgress timed).toNat ≤ c.remaining + 5 * a.isCall.toNat := by
    have hle := Bool.toNat_le (a.isProgress timed)
    omega
  cases a with
  | call e =>
    simp only [step?] at h
    split at h
    · cases h
    · cases h
      simp only [remaining, stepsLeft_snoc, CallPhase.rank, Action.isProgress, Action.isCall,
        Bool.toNat_false, Bool.toNat_true]
      omega
  | expire n => exact less (remaining_of_step h true rfl)
  | cancel n =>
    refine less ?_
    obtain ⟨call, hc, hcancel⟩ := withCall_eq_some h
    obtain ⟨hp, hp', _, rfl⟩ := cancel?_eq_some hcancel
    have hcalls : ((c.strikeOf call).setCall n { call with phase := .cancelled }).calls =
        c.calls.set n { call with phase := .cancelled } := by simp
    refine remaining_of_set h rfl hc hcalls ?_
    cases hphase : call.phase with
    | finished r => exact absurd hphase (hp r)
    | cancelled => exact absurd hphase hp'
    | _ => exact Nat.succ_pos _
  | deliver e => exact absurd rfl (hi e)
  | closeInbox => cases h; simp [remaining, Action.isProgress, Action.isCall]
  | closeOutbox => cases h; exact Nat.le_refl _
  | subscribe name => cases h; exact Nat.le_refl _
  | unsubscribe name => cases h; exact Nat.le_refl _
  | _ => exact less (remaining_of_step h timed rfl)

/-! ## Calls that are given up -/

theorem cancelled_of_change {x : Option Call} (h : Change c a n x (some call'))
    (hp : call'.phase = .cancelled) :
    a = .cancel n ∨ ∃ call, x = some call ∧ call.phase = .cancelled := by
  cases h with
  | kept _ _ => exact .inr ⟨_, rfl, hp⟩
  | answered _ _ _ _ _ _ _ _ _ => exact .inr ⟨_, rfl, hp⟩
  | dropped _ _ _ _ => exact .inr ⟨_, rfl, hp⟩
  | cancelled _ ha _ _ => exact .inl ha
  | _ => cases hp

theorem cancelled_of_run {config : AgentConfig} {timeout : Nat} {ss : History}
    (run : Run step? (connect config timeout) ss c) (hc : c.calls[n]? = some call)
    (hp : call.phase = .cancelled) : ∃ s ∈ ss, s.action = .cancel n := by
  induction run generalizing call with
  | nil =>
    cases n with
    | zero => cases hc; cases hp
    | succ n => cases hc
  | @snoc ss d a d' run h ih =>
    have hch := change_of_step h n
    rw [hc] at hch
    rcases cancelled_of_change hch hp with rfl | ⟨old, hx, hpold⟩
    · exact ⟨_, List.mem_append_right _ (List.mem_singleton.mpr rfl), rfl⟩
    · obtain ⟨s, hs, ha⟩ := ih hx hpold
      exact ⟨s, List.mem_append_left _ hs, ha⟩

/-! ## At rest -/

section
variable {config : AgentConfig} {ss : History} {first : Call} {timed : Bool}
  (hrest : ∀ a : Action, a.isProgress timed = true → c.step? a = none)
include hrest

theorem phase_ne_late (hc : c.calls[n]? = some call) : call.phase ≠ .late := by
  intro hp
  have h := hrest (.takeLate n) rfl
  simp [step?, withCall, hc, takeLate?, hp] at h

theorem phase_ne_expired (t : Table c.calls c.pending) (hc : c.calls[n]? = some call) :
    call.phase ≠ .expired := by
  intro hp
  obtain ⟨id, kind, payload, hid, hm⟩ := (t.shaped hc).exists_request (by rw [hp]; rfl)
  have h := hrest (.withdraw n) rfl
  simp only [step?, withCall, hc, Option.bind_some, withdraw?, hp, hid, hm] at h
  split at h
  · cases h
  · cases h

theorem phase_ne_registered (t : Table c.calls c.pending) (hc : c.calls[n]? = some call) :
    call.phase ≠ .registered := by
  intro hp
  obtain ⟨id, kind, payload, hid, hm⟩ := (t.shaped hc).exists_request (by rw [hp]; rfl)
  have h := hrest (.send n) rfl
  simp only [step?, withCall, hc, Option.bind_some, send?, hp, hid, hm] at h
  split at h
  · cases h
  · cases h

theorem mayRegister_at_rest (hc : c.calls[n]? = some call) : c.mayRegister call = false := by
  obtain ⟨id, hid⟩ := exists_fresh c
  have hany : c.calls.any (·.id == some id) = false := by
    rw [List.any_eq_false]
    intro other ho
    simpa using hid other ho
  have h := hrest (.register n id) rfl
  simpa [step?, withCall, hc, register?, hany] using h

theorem inProgress_at_rest (t : Table c.calls c.pending) (hc : c.calls[n]? = some call)
    (hp : call.InProgress) : call.phase = .sent ∨ call.phase = .waiting := by
  cases hphase : call.phase with
  | sent => exact .inl rfl
  | waiting => exact .inr rfl
  | registered => exact absurd hphase (phase_ne_registered hrest t hc)
  | expired => exact absurd hphase (phase_ne_expired hrest t hc)
  | late => exact absurd hphase (phase_ne_late hrest hc)
  | finished r => exact absurd hphase (hp.1 r)
  | cancelled => exact absurd hphase hp.2

theorem phase_ne_waiting (hf : First config ss c first) (t : Table c.calls c.pending)
    (hsent : ∀ (n : Nat) (call : Call), c.calls[n]? = some call → call.phase ≠ .sent)
    (hc : c.calls[n]? = some call) : call.phase ≠ .waiting := by
  intro hp
  have hmay := mayRegister_at_rest hrest hc
  have hended : ∃ r, first.phase = .finished r := by
    by_contra hnot
    have hprog : first.InProgress := ⟨fun r hr => hnot ⟨r, hr⟩, hf.kept⟩
    rcases inProgress_at_rest hrest t hf.at_zero hprog with hs | hw
    · exact hsent 0 first hf.at_zero hs
    · have hfirst := mayRegister_at_rest hrest hf.at_zero
      simp [mayRegister, hw, hf.errand] at hfirst
  obtain ⟨r, hr⟩ := hended
  have hready : c.readiness = readinessAfter r := by rw [hf.readiness, hr]; rfl
  have h := hrest (.dismiss n) rfl
  simp only [step?, withCall, hc, Option.bind_some, dismiss?, hp] at h
  simp only [mayRegister, hp] at hmay
  cases he : call.errand with
  | setUp config => simp [he] at hmay
  | awaitReady => cases r <;> simp [he, hready, readinessAfter] at h
  | request kind payload =>
    cases r with
    | ok v => simp [he, hready, readinessAfter] at hmay
    | error b => simp [he, hready, readinessAfter] at h

theorem over_at_rest (hf : First config ss c first) (t : Table c.calls c.pending)
    (hsent : ∀ (n : Nat) (call : Call), c.calls[n]? = some call → call.phase ≠ .sent)
    (hmem : call ∈ c.calls) : ¬ call.InProgress := by
  intro hp
  obtain ⟨n, hc⟩ := List.getElem?_of_mem hmem
  rcases inProgress_at_rest hrest t hc hp with hs | hw
  · exact hsent n call hc hs
  · exact phase_ne_waiting hrest hf t hsent hc hw

end

theorem phase_ne_sent (hrest : ∀ a : Action, a.isProgress true = true → c.step? a = none)
    (hc : c.calls[n]? = some call) : call.phase ≠ .sent := by
  intro hp
  have h := hrest (.expire n) rfl
  simp [step?, withCall, hc, expire?, hp] at h

theorem pending_of_over (t : Table c.calls c.pending) (h : ∀ call ∈ c.calls, ¬ call.InProgress) :
    c.pending = [] := by
  rw [List.eq_nil_iff_forall_not_mem]
  rintro ⟨id, n⟩ hmem
  obtain ⟨call, hc, _, ha⟩ := t.entries.mp hmem
  exact h call (List.mem_of_getElem? hc) (inProgress_of_isOpen ha.1)

/-! ## When all has ended -/

/-- Once the client has stopped listening, no call that has sent its request waits for an answer. -/
structure Deaf (c : Client) : Prop where
  listening : c.listening = false
  outboxOpen : c.outboxOpen = false
  unsent : ∀ {n : Nat} {call : Call}, c.calls[n]? = some call → call.Awaits →
    call.phase = .registered

theorem deaf_of_endListening (t : Table c.calls c.pending) (h : c.step? .endListening = some c')
    (ho : c.outboxOpen = false) : c'.Deaf where
  listening := by
    obtain ⟨_, _, _, rfl⟩ := endListening?_eq_some h
    rfl
  outboxOpen := outboxOpen_stays h ho
  unsent {n call} hc ha := by
    have t' := table_of_step t h
    obtain ⟨id, hid⟩ := Option.isSome_iff_exists.mp (id_of_awaits (t'.shaped hc) ha)
    have hmem := (t'.awaits_iff hc hid).mp ha
    obtain ⟨_, _, _, rfl⟩ := endListening?_eq_some h
    cases hmem

theorem Deaf.step (f : c.Deaf) (h : c.step? a = some c') : c'.Deaf where
  listening := by
    cases hl : c'.listening with
    | false => rfl
    | true =>
      have hold := (listening_of_step h hl).1
      rw [f.listening] at hold
      cases hold
  outboxOpen := outboxOpen_stays h f.outboxOpen
  unsent {n call'} hc' ha := by
    have hch := change_of_step h n
    rw [hc'] at hch
    generalize hx : c.calls[n]? = x at hch
    have before {call : Call} (hc : c.calls[n]? = some call) (hp : call.phase.isOpen = true)
        (hs : call.slot = .empty) : call.phase = .registered := f.unsent hc ⟨hp, hs⟩
    obtain ⟨hopen, hslot⟩ := ha
    cases hch with
    | kept _ _ => exact before hx hopen hslot
    | registered _ _ _ _ _ => rfl
    | sent _ _ _ _ _ ho => rw [f.outboxOpen] at ho; cases ho
    | expired call _ hp =>
      have hreg := before hx (by rw [hp]; rfl) hslot
      rw [hp] at hreg
      cases hreg
    | answered _ _ _ _ _ _ _ _ _ => cases hslot
    | dropped _ _ _ _ => cases hslot
    | _ => cases hopen

theorem Deaf.phase_ne_sent (f : c.Deaf)
    (hrest : ∀ a : Action, a.isProgress false = true → c.step? a = none)
    (hc : c.calls[n]? = some call) : call.phase ≠ .sent := by
  intro hp
  have hslot : call.slot ≠ .empty := by
    intro hs
    have hreg := f.unsent hc ⟨by rw [hp]; rfl, hs⟩
    rw [hp] at hreg
    cases hreg
  obtain ⟨r, hr⟩ := result?_of_ne_empty hslot
  have h := hrest (.take n) rfl
  simp [step?, withCall, hc, take?, hp, hr] at h

/-! ## Calls that come too late -/

/-- The call is a request that can only end without an answer. -/
structure Barred (c : Client) (n : Nat) : Prop where
  outboxOpen : c.outboxOpen = false
  call : ∃ call, c.calls[n]? = some call ∧ call.errand ≠ .awaitReady ∧ call.phase.IsBarred

theorem barred_of_call {kind : String} {payload : Json}
    (h : c.step? (.call (.request kind payload)) = some c') (ho : c.outboxOpen = false) :
    c'.Barred c.calls.length := by
  cases h
  refine ⟨ho, ⟨.request kind payload, none, .waiting, .empty⟩, ?_, nofun, trivial⟩
  simp

theorem Barred.step (f : c.Barred n) (h : c.step? a = some c') : c'.Barred n := by
  obtain ⟨call, hc, he, hp⟩ := f.call
  refine ⟨outboxOpen_stays h f.outboxOpen, ?_⟩
  have hch := change_of_step h n
  rw [hc] at hch
  generalize c'.calls[n]? = y at hch
  cases hch with
  | kept _ _ => exact ⟨call, rfl, he, hp⟩
  | dismissed _ r _ _ hr =>
    refine ⟨_, rfl, he, ?_⟩
    rcases hr with ⟨_, hwait⟩ | rfl
    · exact absurd hwait he
    · exact .inr rfl
  | registered _ _ _ _ _ => exact ⟨_, rfl, he, trivial⟩
  | sent _ _ _ _ _ ho => rw [f.outboxOpen] at ho; cases ho
  | unsent _ _ _ _ => exact ⟨_, rfl, he, .inl rfl⟩
  | took _ _ _ hq _ => rw [hq] at hp; exact hp.elim
  | expired _ _ hq => rw [hq] at hp; exact hp.elim
  | timedOut _ _ _ _ _ hq _ _ _ => rw [hq] at hp; exact hp.elim
  | late _ _ _ hq _ _ => rw [hq] at hp; exact hp.elim
  | tookLate _ _ hq => rw [hq] at hp; exact hp.elim
  | cancelled _ _ _ _ => exact ⟨_, rfl, he, trivial⟩
  | answered _ _ _ _ _ _ _ _ _ => exact ⟨_, rfl, he, hp⟩
  | dropped _ _ _ _ => exact ⟨_, rfl, he, hp⟩

theorem Barred.ends (f : c.Barred n) (t : Table c.calls c.pending) :
    ∃ call, c.calls[n]? = some call ∧
      (∀ r, call.phase = .finished r → r = .error .disconnected ∨ r = .error .notReady) ∧
      (¬ call.InProgress → ∀ id, (id, n) ∉ c.pending) := by
  obtain ⟨call, hc, _, hp⟩ := f.call
  refine ⟨call, hc, fun r hr => ?_, fun hover id hmem => ?_⟩
  · rw [hr] at hp
    exact hp
  · obtain ⟨other, ho, _, haw⟩ := t.entries.mp hmem
    cases hc.symm.trans ho
    exact hover (inProgress_of_isOpen haw.1)

/-! ## Calls that were never registered -/

def Unregistered (call : Call) : Prop :=
  call.id = none → ∀ r, call.phase = .finished r →
    r = .error .notReady ∨ call.errand = .awaitReady ∧ r = .ok .null

theorem unregistered_of_change {x : Option Call} (h : Change c a n x (some call'))
    (hs : ∀ call, x = some call → call.Shaped) (hu : ∀ call, x = some call → Unregistered call) :
    Unregistered call' := by
  intro hid r hr
  have registered {call : Call} (hx : x = some call) (hnone : call.id = none)
      (hp : call.phase.isOpen = true ∨ call.phase = .late) : False := by
    have hsome := id_of_shaped (hs call hx) hp
    rw [hnone] at hsome
    cases hsome
  cases h with
  | kept _ _ => exact hu _ rfl hid r hr
  | dismissed call _ _ _ hd =>
    cases hr
    exact hd.symm.imp_right fun hd => ⟨hd.2, hd.1⟩
  | unsent call _ hp _ => exact (registered rfl hid (.inl (by rw [hp]; rfl))).elim
  | took call _ _ hp _ => exact (registered rfl hid (.inl (by rw [hp]; rfl))).elim
  | timedOut call _ _ _ _ hp _ _ _ => exact (registered rfl hid (.inl (by rw [hp]; rfl))).elim
  | tookLate call _ hp => exact (registered rfl hid (.inr hp)).elim
  | answered call _ _ _ _ _ _ _ _ => exact hu call rfl hid r hr
  | dropped call _ _ _ => exact hu call rfl hid r hr
  | _ => cases hr

theorem unregistered_of_run {config : AgentConfig} {timeout : Nat} {ss : History}
    (run : Run step? (connect config timeout) ss c) (hc : c.calls[n]? = some call) :
    Unregistered call := by
  induction run generalizing n call with
  | nil =>
    cases n with
    | zero => cases hc; nofun
    | succ n => cases hc
  | @snoc ss d a d' run h ih =>
    have hch := change_of_step h n
    rw [hc] at hch
    exact unregistered_of_change hch (fun _ => (traced_of_run run).table.shaped) fun _ => ih

end Client
end ChatBridge
