import ChatBridge.Proofs.Bridge.Outcome

/-!
# What passes between a client and its channels

A step of the client puts the request of one call into the outbox, takes one envelope from the inbox,
or leaves both alone. The end of the first call alone decides whether the client is ready. What a call
has gone out with it keeps, and it is handed answers only while it stands in the table.
-/

namespace ChatBridge

def CallPhase.isOut : CallPhase → Bool
  | .waiting => false
  | .registered => false
  | _ => true

def answerOf? : CallResult → Option (Except Fault Json)
  | .ok v => some (.ok v)
  | .error (.worker f) => some (.error f)
  | .error _ => none

/-- What the end of the first call makes of the readiness. -/
def readinessAfter : CallResult → Readiness
  | .ok _ => .ready
  | .error _ => .failed

/-- The call holds this answer, or has ended with it. -/
def Call.Has (call : Call) (x : Except Fault Json) : Prop :=
  call.slot = .answer x ∨ ∃ r, call.phase = .finished r ∧ answerOf? r = some x

namespace Client

variable {c c₁ c' : Client} {a : Action} {n : Nat} {call call' : Call} {r : CallResult}

/-! ## The channels -/

structure Still (c c' : Client) : Prop where
  outbox : c'.outbox = c.outbox
  inbox : c'.inbox = c.inbox
  readiness : c'.readiness = c.readiness

inductive Passing (c : Client) (a : Action) (c' : Client) : Prop
  | nothing (hs : Still c c')
  | request (n : Nat) (call : Call) (id kind : String) (payload : Json)
      (hc : c.calls[n]? = some call) (hp : call.phase = .registered) (hid : call.id = some id)
      (hm : call.errand.message? = some (kind, payload))
      (hc' : c'.calls[n]? = some { call with phase := .sent })
      (ho : c'.outbox = c.outbox ++ [.request id kind payload]) (hi : c'.inbox = c.inbox)
      (hr : c'.readiness = c.readiness)
  | taken (e : Envelope) (ho : c'.outbox = c.outbox) (hi : c.inbox = e :: c'.inbox)
      (hr : c'.readiness = c.readiness)
  | given (e : Envelope) (ha : a = .deliver e) (ho : c'.outbox = c.outbox)
      (hi : c'.inbox = c.inbox ++ [e]) (hr : c'.readiness = c.readiness)
  | decided (n : Nat) (call : Call) (config : AgentConfig) (r : CallResult)
      (he : call.errand = .setUp config)
      (hc' : c'.calls[n]? = some { call with phase := .finished r })
      (ho : c'.outbox = c.outbox) (hi : c'.inbox = c.inbox)
      (hr : c'.readiness = readinessAfter r)

theorem still_strikeOf (c : Client) (call : Call) : Still c (c.strikeOf call) := by
  unfold strikeOf
  cases call.id with
  | none => exact ⟨rfl, rfl, rfl⟩
  | some id => exact ⟨rfl, rfl, rfl⟩

theorem still_complete (c : Client) (id : String) (x : Except Fault Json) :
    Still c (c.complete id x) := by
  unfold complete
  split
  · exact ⟨rfl, rfl, rfl⟩
  · exact ⟨rfl, rfl, rfl⟩

theorem still_receive (c : Client) (e : Envelope) : Still c (c.receive e) := by
  cases e with
  | request id kind payload => exact ⟨rfl, rfl, rfl⟩
  | response id v => exact still_complete c id _
  | error id f => exact still_complete c id _
  | event e => exact ⟨rfl, rfl, rfl⟩

@[simp] theorem outbox_finish (c : Client) (n : Nat) (call : Call) (r : CallResult) :
    (c.finish n call r).outbox = c.outbox := by
  unfold finish
  cases call.errand <;> cases r <;> rfl

@[simp] theorem inbox_finish (c : Client) (n : Nat) (call : Call) (r : CallResult) :
    (c.finish n call r).inbox = c.inbox := by
  unfold finish
  cases call.errand <;> cases r <;> rfl

theorem readiness_finish (c : Client) (n : Nat) (call : Call) (r : CallResult) :
    (c.finish n call r).readiness = match call.errand with
      | .setUp _ => readinessAfter r
      | _ => c.readiness := by
  unfold finish
  cases call.errand <;> cases r <;> rfl

theorem passing_of_finish (hs : Still c c₁) (hc : c₁.calls[n]? = some call) :
    Passing c a (c₁.finish n call r) := by
  have hn := (List.getElem?_eq_some_iff.mp hc).1
  have ho : (c₁.finish n call r).outbox = c.outbox := by rw [outbox_finish, hs.outbox]
  have hi : (c₁.finish n call r).inbox = c.inbox := by rw [inbox_finish, hs.inbox]
  have hr := readiness_finish c₁ n call r
  cases he : call.errand with
  | setUp config =>
    rw [he] at hr
    exact .decided n call config r he (by simp [hn]) ho hi hr
  | awaitReady =>
    rw [he] at hr
    exact .nothing ⟨ho, hi, hr.trans hs.readiness⟩
  | request kind payload =>
    rw [he] at hr
    exact .nothing ⟨ho, hi, hr.trans hs.readiness⟩

theorem passing_of_step (h : c.step? a = some c') : Passing c a c' := by
  cases a with
  | call e =>
    simp only [step?] at h
    split at h
    · cases h
    · cases h; exact .nothing ⟨rfl, rfl, rfl⟩
  | dismiss n =>
    obtain ⟨call, hc, h⟩ := withCall_eq_some h
    obtain ⟨_, r, _, rfl⟩ := dismiss?_eq_some h
    exact passing_of_finish ⟨rfl, rfl, rfl⟩ hc
  | register n id =>
    obtain ⟨call, hc, h⟩ := withCall_eq_some h
    obtain ⟨_, _, rfl⟩ := register?_eq_some h
    exact .nothing ⟨rfl, rfl, rfl⟩
  | send n =>
    obtain ⟨call, hc, h⟩ := withCall_eq_some h
    obtain ⟨hp, id, kind, payload, hid, hm, ⟨_, rfl⟩ | ⟨_, rfl⟩⟩ := send?_eq_some h
    · have hn := (List.getElem?_eq_some_iff.mp hc).1
      exact .request n call id kind payload hc hp hid hm (by simp [hn]) rfl rfl rfl
    · exact passing_of_finish ⟨rfl, rfl, rfl⟩ hc
  | take n =>
    obtain ⟨call, hc, h⟩ := withCall_eq_some h
    obtain ⟨_, r, _, rfl⟩ := take?_eq_some h
    exact passing_of_finish (still_strikeOf c call) (by rw [calls_strikeOf, hc])
  | expire n =>
    obtain ⟨call, hc, h⟩ := withCall_eq_some h
    obtain ⟨_, rfl⟩ := expire?_eq_some h
    exact .nothing ⟨rfl, rfl, rfl⟩
  | withdraw n =>
    obtain ⟨call, hc, h⟩ := withCall_eq_some h
    obtain ⟨_, id, kind, payload, _, _, ⟨_, rfl⟩ | ⟨_, rfl⟩⟩ := withdraw?_eq_some h
    · exact passing_of_finish ⟨rfl, rfl, rfl⟩ hc
    · exact .nothing ⟨rfl, rfl, rfl⟩
  | takeLate n =>
    obtain ⟨call, hc, h⟩ := withCall_eq_some h
    obtain ⟨_, rfl⟩ := takeLate?_eq_some h
    exact passing_of_finish ⟨rfl, rfl, rfl⟩ hc
  | cancel n =>
    obtain ⟨call, hc, h⟩ := withCall_eq_some h
    obtain ⟨_, _, _, rfl⟩ := cancel?_eq_some h
    have hs := still_strikeOf c call
    exact .nothing ⟨hs.outbox, hs.inbox, hs.readiness⟩
  | handle =>
    obtain ⟨_, e, rest, hi, rfl⟩ := handle?_eq_some h
    have hs := still_receive { c with inbox := rest } e
    exact .taken e hs.outbox (by rw [hi, hs.inbox]) hs.readiness
  | endListening =>
    obtain ⟨_, _, _, rfl⟩ := endListening?_eq_some h
    exact .nothing ⟨rfl, rfl, rfl⟩
  | deliver e =>
    simp only [step?] at h
    split at h
    · cases h; exact .given e rfl rfl rfl rfl
    · cases h
  | closeInbox => cases h; exact .nothing ⟨rfl, rfl, rfl⟩
  | closeOutbox => cases h; exact .nothing ⟨rfl, rfl, rfl⟩
  | subscribe name => cases h; exact .nothing ⟨rfl, rfl, rfl⟩
  | unsubscribe name => cases h; exact .nothing ⟨rfl, rfl, rfl⟩

/-! ## What stays of a call -/

theorem out_of_change {y : Option Call} (h : Change c a n (some call) y)
    (hp : call.phase.isOut = true) :
    ∃ call', y = some call' ∧ call'.id = call.id ∧ call'.errand = call.errand ∧
      call'.phase.isOut = true := by
  cases h with
  | kept _ _ => exact ⟨call, rfl, rfl, rfl, hp⟩
  | registered _ id _ hm _ => rw [phase_of_mayRegister hm] at hp; cases hp
  | answered _ _ _ _ _ _ _ _ _ => exact ⟨_, rfl, rfl, rfl, hp⟩
  | dropped _ _ _ _ => exact ⟨_, rfl, rfl, rfl, hp⟩
  | _ => exact ⟨_, rfl, rfl, rfl, rfl⟩

theorem out_of_step (h : c.step? a = some c') (hc : c.calls[n]? = some call)
    (hp : call.phase.isOut = true) :
    ∃ call', c'.calls[n]? = some call' ∧ call'.id = call.id ∧ call'.errand = call.errand ∧
      call'.phase.isOut = true := by
  have hch := change_of_step h n
  rw [hc] at hch
  exact out_of_change hch hp

theorem finished_of_step (h : c.step? a = some c') (hc : c.calls[n]? = some call)
    (hp : call.phase = .finished r) :
    ∃ call', c'.calls[n]? = some call' ∧ call'.errand = call.errand ∧ call'.phase = .finished r := by
  obtain ⟨call', hc', _, he, _⟩ := out_of_step h hc (by rw [hp]; rfl)
  refine ⟨call', hc', he, ?_⟩
  have hr := result?_step h (n := n) (r := r) (by simp [result?, hc, Call.result?, hp])
  rw [result?, hc', Option.bind_some, Call.result?] at hr
  split at hr
  · rename_i hp'; rw [hp', Option.some.inj hr]
  · cases hr

theorem id_of_change {x : Option Call} (h : Change c a n x (some call')) {id : String}
    (hid : call'.id = some id) :
    (∃ call, x = some call ∧ call.id = some id ∧ call'.errand = call.errand) ∨
    (∃ call, x = some call ∧ c.mayRegister call = true ∧ call'.errand = call.errand) := by
  cases h with
  | made e _ => cases hid
  | registered call i _ hm _ => exact .inr ⟨call, rfl, hm, rfl⟩
  | _ => exact .inl ⟨_, rfl, hid, rfl⟩

theorem answerOf?_of_slot {s : Slot} (h : s.result? = some r) {x : Except Fault Json}
    (hx : answerOf? r = some x) : s = .answer x := by
  cases s with
  | empty => cases h
  | answer y =>
    cases y with
    | ok v => cases h; cases hx; rfl
    | error f => cases h; cases hx; rfl
  | dropped => cases h; cases hx

theorem has_of_phase {p : CallPhase} (hp : ∀ r, p ≠ .finished r) {x : Except Fault Json}
    (h : Call.Has { call with phase := p } x) : call.slot = .answer x := by
  rcases h with h | ⟨r, h, _⟩
  · exact h
  · exact absurd h (hp r)

theorem has_of_finished {x : Except Fault Json}
    (h : Call.Has { call with phase := .finished r } x) :
    call.slot = .answer x ∨ answerOf? r = some x := by
  rcases h with h | ⟨r', h, hx⟩
  · exact .inl h
  · cases h; exact .inr hx

theorem has_of_change {y : Option Call} (h : Change c a n y (some call'))
    (hs : ∀ call, y = some call → call.Shaped) (hm : call'.errand ≠ .awaitReady)
    {x : Except Fault Json} (hx : call'.Has x) :
    ∃ call, y = some call ∧ call.id = call'.id ∧ call.errand = call'.errand ∧
      (call.Has x ∨ a = .handle ∧ ∃ e id, c.inbox.head? = some e ∧ e.answer? = some (id, x) ∧
        c.entry? id = some n) := by
  cases h with
  | kept _ _ => exact ⟨call', rfl, rfl, rfl, .inl hx⟩
  | made e _ =>
    rcases hx with hx | ⟨r, hr, _⟩
    · cases hx
    · cases hr
  | dismissed call r _ _ hr =>
    refine ⟨call, rfl, rfl, rfl, .inl ?_⟩
    rcases has_of_finished hx with hx | hx
    · exact .inl hx
    · rcases hr with ⟨_, he⟩ | rfl
      · exact absurd he hm
      · cases hx
  | registered call id _ hmay _ =>
    have hsh := hs call rfl
    simp only [Call.Shaped, phase_of_mayRegister hmay] at hsh
    rcases hx with hx | ⟨r, hr, _⟩
    · cases hsh.2.symm.trans hx
    · cases hr
  | sent call _ _ _ _ _ => exact ⟨call, rfl, rfl, rfl, .inl (.inl (has_of_phase (by simp) hx))⟩
  | unsent call _ _ _ =>
    rcases has_of_finished hx with hx | hx
    · exact ⟨call, rfl, rfl, rfl, .inl (.inl hx)⟩
    · cases hx
  | took call r _ _ hr =>
    refine ⟨call, rfl, rfl, rfl, .inl (.inl ?_)⟩
    rcases has_of_finished hx with hx | hx
    · exact hx
    · exact answerOf?_of_slot hr hx
  | expired call _ _ => exact ⟨call, rfl, rfl, rfl, .inl (.inl (has_of_phase (by simp) hx))⟩
  | timedOut call _ _ _ _ _ _ _ _ =>
    rcases has_of_finished hx with hx | hx
    · exact ⟨call, rfl, rfl, rfl, .inl (.inl hx)⟩
    · cases hx
  | late call _ _ _ _ _ => exact ⟨call, rfl, rfl, rfl, .inl (.inl (has_of_phase (by simp) hx))⟩
  | tookLate call _ _ =>
    refine ⟨call, rfl, rfl, rfl, .inl (.inl ?_)⟩
    rcases has_of_finished hx with hx | hx
    · exact hx
    · cases hr : call.slot.result? with
      | none => rw [hr] at hx; cases hx
      | some r => rw [hr] at hx; exact answerOf?_of_slot hr hx
  | cancelled call _ _ _ => exact ⟨call, rfl, rfl, rfl, .inl (.inl (has_of_phase (by simp) hx))⟩
  | answered call e id r ha _ hi he hn =>
    refine ⟨call, rfl, rfl, rfl, ?_⟩
    rcases hx with hx | hx
    · cases hx
      exact .inr ⟨ha, e, id, hi, he, hn⟩
    · exact .inl (.inr hx)
  | dropped call _ _ _ =>
    refine ⟨call, rfl, rfl, rfl, .inl ?_⟩
    rcases hx with hx | hx
    · cases hx
    · exact .inr hx

theorem readable_of_change {y : Option Call} (h : Change c a n y (some call'))
    (hr : ∀ call k x, y = some call → call.phase ≠ .finished (.error (.undecodable k x)))
    (k : String) (x : Refusal) : call'.phase ≠ .finished (.error (.undecodable k x)) := by
  have hslot : ∀ (s : Slot), s.result? ≠ some (.error (.undecodable k x)) := by
    intro s hs
    cases s with
    | empty => cases hs
    | answer r => cases r <;> cases hs
    | dropped => cases hs
  intro hp
  cases h with
  | kept _ _ => exact hr _ k x rfl hp
  | dismissed _ _ _ _ h =>
    rcases h with ⟨rfl, _⟩ | rfl
    · cases hp
    · cases hp
  | took call r _ _ h => cases hp; exact hslot _ h
  | tookLate call _ _ =>
    have hp := CallPhase.finished.inj hp
    cases h : call.slot.result? with
    | none => rw [h] at hp; cases hp
    | some r => rw [h] at hp; cases hp; exact hslot _ h
  | answered call _ _ _ _ _ _ _ _ => exact hr call k x rfl hp
  | dropped call _ _ _ => exact hr call k x rfl hp
  | _ => cases hp

end Client
end ChatBridge
