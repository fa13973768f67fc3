import ChatBridge.Bridge.Client
import ChatBridge.Proofs.Runs

/-!
# What a step of the client does

`change_of_step` says for each call all that a step can make of it. Steps are taken by one call at a
time, so a call changes by a step of its own, by an answer that finds its entry in the table, or by
the end of the table.
-/

namespace ChatBridge

def Envelope.answer? : Envelope → Option (String × Except Fault Json)
  | .response id v => some (id, .ok v)
  | .error id f => some (id, .error f)
  | _ => none

namespace Client

/-! ## Parts of a step -/

section
variable (c : Client) (n : Nat) (call : Call) (r : CallResult) (id : String)

@[simp] theorem calls_setCall : (c.setCall n call).calls = c.calls.set n call := rfl

@[simp] theorem pending_setCall : (c.setCall n call).pending = c.pending := rfl

@[simp] theorem calls_finish :
    (c.finish n call r).calls = c.calls.set n { call with phase := .finished r } := by
  unfold finish
  cases call.errand <;> cases r <;> rfl

@[simp] theorem pending_finish : (c.finish n call r).pending = c.pending := by
  unfold finish
  cases call.errand <;> cases r <;> rfl

@[simp] theorem calls_strike : (c.strike id).calls = c.calls := rfl

@[simp] theorem pending_strike : (c.strike id).pending = c.pending.filter (·.1 ≠ id) := rfl

@[simp] theorem calls_strikeOf : (c.strikeOf call).calls = c.calls := by
  unfold strikeOf
  cases call.id <;> rfl

theorem pending_strikeOf (h : call.id = some id) :
    (c.strikeOf call).pending = c.pending.filter (·.1 ≠ id) := by
  simp [strikeOf, h]

@[simp] theorem calls_remember : (c.remember id).calls = c.calls := rfl

@[simp] theorem pending_remember : (c.remember id).pending = c.pending := rfl

end

/-! ## Changes of a call -/

/-- A step `a` from `c` has nothing to do with the call `n`. -/
def Spares (c : Client) (a : Action) (n : Nat) : Prop :=
  match a with
  | .handle => ∀ e id r, c.inbox.head? = some e → e.answer? = some (id, r) → c.entry? id ≠ some n
  | .endListening => ∀ id, (id, n) ∉ c.pending
  | a => a.caller? ≠ some n

/-- What a step `a` from `c` makes of the call `n`. -/
inductive Change (c : Client) (a : Action) (n : Nat) : Option Call → Option Call → Prop
  | absent : Change c a n none none
  | kept (call : Call) (hs : Spares c a n) : Change c a n (some call) (some call)
  | made (e : Errand) (ha : a = .call e) : Change c a n none (some ⟨e, none, .waiting, .empty⟩)
  | dismissed (call : Call) (r : CallResult) (ha : a = .dismiss n) (hp : call.phase = .waiting)
      (hr : r = .ok .null ∧ call.errand = .awaitReady ∨ r = .error .notReady) :
      Change c a n (some call) (some { call with phase := .finished r })
  | registered (call : Call) (id : String) (ha : a = .register n id)
      (hm : c.mayRegister call = true) (hfresh : ∀ other ∈ c.calls, other.id ≠ some id) :
      Change c a n (some call) (some { call with id := some id, phase := .registered })
  | sent (call : Call) (id : String) (ha : a = .send n) (hp : call.phase = .registered)
      (hid : call.id = some id) (hopen : c.outboxOpen = true) :
      Change c a n (some call) (some { call with phase := .sent })
  | unsent (call : Call) (ha : a = .send n) (hp : call.phase = .registered)
      (hopen : c.outboxOpen = false) :
      Change c a n (some call) (some { call with phase := .finished (.error .disconnected) })
  | took (call : Call) (r : CallResult) (ha : a = .take n) (hp : call.phase = .sent)
      (hr : call.slot.result? = some r) :
      Change c a n (some call) (some { call with phase := .finished r })
  | expired (call : Call) (ha : a = .expire n) (hp : call.phase = .sent) :
      Change c a n (some call) (some { call with phase := .expired })
  | timedOut (call : Call) (id kind : String) (payload : Json) (ha : a = .withdraw n)
      (hp : call.phase = .expired) (hid : call.id = some id)
      (hm : call.errand.message? = some (kind, payload)) (he : (c.entry? id).isSome) :
      Change c a n (some call)
        (some { call with phase := .finished (.error (.timeout kind id c.timeout)) })
  | late (call : Call) (id : String) (ha : a = .withdraw n) (hp : call.phase = .expired)
      (hid : call.id = some id) (he : c.entry? id = none) :
      Change c a n (some call) (some { call with phase := .late })
  | tookLate (call : Call) (ha : a = .takeLate n) (hp : call.phase = .late) :
      Change c a n (some call)
        (some { call with phase := .finished (call.slot.result?.getD (.error .disconnected)) })
  | cancelled (call : Call) (ha : a = .cancel n) (hp : ∀ r, call.phase ≠ .finished r)
      (hp' : call.phase ≠ .cancelled) :
      Change c a n (some call) (some { call with phase := .cancelled })
  | answered (call : Call) (e : Envelope) (id : String) (r : Except Fault Json) (ha : a = .handle)
      (hl : c.listening = true) (hi : c.inbox.head? = some e) (he : e.answer? = some (id, r))
      (hn : c.entry? id = some n) :
      Change c a n (some call) (some { call with slot := .answer r })
  | dropped (call : Call) (id : String) (ha : a = .endListening) (hn : (id, n) ∈ c.pending) :
      Change c a n (some call) (some { call with slot := .dropped })

section
variable {c c' : Client} {a : Action} {n : Nat} {call call' : Call}

theorem withCall_eq_some {f : Call → Option Client} (h : c.withCall n f = some c') :
    ∃ call, c.calls[n]? = some call ∧ f call = some c' := Option.bind_eq_some_iff.mp h

theorem getElem?_set_of_getElem? (h : c.calls[n]? = some call) (m : Nat) :
    (c.calls.set n call')[m]? = if m = n then some call' else c.calls[m]? := by
  have hn : n < c.calls.length := (List.getElem?_eq_some_iff.mp h).1
  by_cases hm : m = n
  · subst hm; simp [hn]
  · rw [List.getElem?_set_ne (Ne.symm hm), if_neg hm]

theorem change_of_spares {x : Option Call} (h : x = c.calls[n]?) (hs : Spares c a n) :
    Change c a n c.calls[n]? x := by
  rw [h]
  cases c.calls[n]? with
  | none => exact .absent
  | some call => exact .kept call hs

theorem spares_of_caller {m : Nat} (ha : a.caller? = some n) (hm : m ≠ n) : Spares c a m := by
  have hne : a.caller? ≠ some m := fun h => hm (Option.some.inj (h.symm.trans ha))
  cases a with
  | handle => cases ha
  | endListening => cases ha
  | _ => exact hne

theorem change_of_set (ha : a.caller? = some n) (h : c.calls[n]? = some call)
    (h' : c'.calls = c.calls.set n call') (own : Change c a n (some call) (some call')) (m : Nat) :
    Change c a m c.calls[m]? c'.calls[m]? := by
  by_cases hm : m = n
  · subst hm
    rw [h', getElem?_set_of_getElem? h, if_pos rfl, h]
    exact own
  · refine change_of_spares ?_ (spares_of_caller ha hm)
    rw [h', getElem?_set_of_getElem? h, if_neg hm]

/-! ## One lemma for each action -/

theorem dismiss?_eq_some (h : c.dismiss? n call = some c') :
    call.phase = .waiting ∧ ∃ r, (r = .ok .null ∧ call.errand = .awaitReady ∨ r = .error .notReady) ∧
      c' = c.finish n call r := by
  unfold dismiss? at h
  split at h
  · rename_i hp he _; exact ⟨hp, _, .inl ⟨rfl, he⟩, (Option.some.inj h).symm⟩
  · rename_i hp _ _; exact ⟨hp, _, .inr rfl, (Option.some.inj h).symm⟩
  · rename_i hp _ _; exact ⟨hp, _, .inr rfl, (Option.some.inj h).symm⟩
  · cases h

theorem register?_eq_some {id : String} (h : c.register? n call id = some c') :
    c.mayRegister call = true ∧ (∀ other ∈ c.calls, other.id ≠ some id) ∧
      c' = { c with pending := c.pending ++ [(id, n)] }.setCall n
        { call with id := some id, phase := .registered } := by
  unfold register? at h
  split at h
  · rename_i hc
    simp only [Bool.and_eq_true, Bool.not_eq_true', List.any_eq_false, beq_iff_eq] at hc
    exact ⟨hc.1, hc.2, (Option.some.inj h).symm⟩
  · cases h

theorem phase_of_mayRegister (h : c.mayRegister call = true) : call.phase = .waiting := by
  unfold mayRegister at h
  split at h
  · assumption
  · assumption
  · cases h

theorem message?_of_mayRegister (h : c.mayRegister call = true) :
    call.errand.message?.isSome = true := by
  unfold mayRegister at h
  split at h
  · rename_i he; rw [he]; rfl
  · rename_i he; rw [he]; rfl
  · cases h

theorem send?_eq_some (h : c.send? n call = some c') :
    call.phase = .registered ∧ ∃ id kind payload, call.id = some id ∧
      call.errand.message? = some (kind, payload) ∧
      (c.outboxOpen = true ∧
          c' = { c with outbox := c.outbox ++ [Envelope.request id kind payload] }.setCall n
            { call with phase := .sent } ∨
        c.outboxOpen = false ∧ c' = (c.strike id).finish n call (.error .disconnected)) := by
  unfold send? at h
  split at h
  · rename_i id kind payload hp hid hm
    refine ⟨hp, id, kind, payload, hid, hm, ?_⟩
    split at h
    · rename_i ho; exact .inl ⟨ho, (Option.some.inj h).symm⟩
    · rename_i ho; exact .inr ⟨by simpa using ho, (Option.some.inj h).symm⟩
  · cases h

theorem take?_eq_some (h : c.take? n call = some c') :
    call.phase = .sent ∧ ∃ r, call.slot.result? = some r ∧
      c' = (c.strikeOf call).finish n call r := by
  unfold take? at h
  split at h
  · rename_i hp
    obtain ⟨r, hr, rfl⟩ := Option.map_eq_some_iff.mp h
    exact ⟨hp, r, hr, rfl⟩
  · cases h

theorem expire?_eq_some (h : c.expire? n call = some c') :
    call.phase = .sent ∧ c' = c.setCall n { call with phase := .expired } := by
  unfold expire? at h
  split at h
  · rename_i hp; exact ⟨hp, (Option.some.inj h).symm⟩
  · cases h

theorem withdraw?_eq_some (h : c.withdraw? n call = some c') :
    call.phase = .expired ∧ ∃ id kind payload, call.id = some id ∧
      call.errand.message? = some (kind, payload) ∧
      ((c.entry? id).isSome = true ∧ c' = ((c.strike id).remember id).finish n call
            (.error (.timeout kind id c.timeout)) ∨
        c.entry? id = none ∧ c' = c.setCall n { call with phase := .late }) := by
  unfold withdraw? at h
  split at h
  · rename_i id kind payload hp hid hm
    refine ⟨hp, id, kind, payload, hid, hm, ?_⟩
    split at h
    · rename_i he; exact .inl ⟨he, (Option.some.inj h).symm⟩
    · rename_i he; exact .inr ⟨by simpa using he, (Option.some.inj h).symm⟩
  · cases h

theorem takeLate?_eq_some (h : c.takeLate? n call = some c') :
    call.phase = .late ∧
      c' = c.finish n call (call.slot.result?.getD (.error .disconnected)) := by
  unfold takeLate? at h
  split at h
  · rename_i hp; exact ⟨hp, (Option.some.inj h).symm⟩
  · cases h

theorem cancel?_eq_some (h : c.cancel? n call = some c') :
    (∀ r, call.phase ≠ .finished r) ∧ call.phase ≠ .cancelled ∧
      (∀ config, call.errand ≠ .setUp config) ∧
      c' = (c.strikeOf call).setCall n { call with phase := .cancelled } := by
  unfold cancel? at h
  split at h
  · cases h
  · cases h
  · cases h
  · rename_i h₁ h₂ h₃
    exact ⟨h₁, h₂, h₃, (Option.some.inj h).symm⟩

theorem handle?_eq_some (h : c.handle? = some c') :
    c.listening = true ∧ ∃ e rest, c.inbox = e :: rest ∧ c' = { c with inbox := rest }.receive e := by
  unfold handle? at h
  split at h
  · rename_i e rest hl hi; exact ⟨hl, e, rest, hi, (Option.some.inj h).symm⟩
  · cases h

theorem receive_of_answer?_eq_none {e : Envelope} (h : e.answer? = none) :
    (c.receive e).calls = c.calls ∧ (c.receive e).pending = c.pending ∧
      (c.receive e).unresolved = c.unresolved := by
  cases e with
  | request id kind payload => exact ⟨rfl, rfl, rfl⟩
  | response id v => cases h
  | error id f => cases h
  | event e => exact ⟨rfl, rfl, rfl⟩

theorem receive_of_answer?_eq_some {e : Envelope} {id : String} {r : Except Fault Json}
    (h : e.answer? = some (id, r)) : c.receive e = c.complete id r := by
  cases e with
  | request id kind payload => cases h
  | response id v => cases h; rfl
  | error id f => cases h; rfl
  | event e => cases h

theorem endListening?_eq_some (h : c.endListening? = some c') :
    c.listening = true ∧ c.inbox = [] ∧ c.inboxOpen = false ∧ c' = { c with
      listening := false
      pending := []
      calls := c.calls.mapIdx fun n call =>
        if (c.pending.map (·.2)).contains n then { call with slot := .dropped } else call } := by
  unfold endListening? at h
  split at h
  · rename_i hc
    simp only [Bool.and_eq_true, List.isEmpty_iff, Bool.not_eq_true'] at hc
    exact ⟨hc.1.1, hc.1.2, hc.2, (Option.some.inj h).symm⟩
  · cases h

end

/-! ## All actions -/

section
variable {c c' : Client} {a : Action}

theorem complete_of_entry {c : Client} {id : String} {n : Nat} (r : Except Fault Json)
    (h : c.entry? id = some n) : c.complete id r =
      { c.strike id with calls := c.calls.modify n fun call => { call with slot := .answer r } } := by
  simp only [complete, h]

theorem complete_of_no_entry {c : Client} {id : String} (r : Except Fault Json)
    (h : c.entry? id = none) : c.complete id r = { c with unresolved := c.unresolved.erase id } := by
  simp only [complete, h]

theorem change_of_receive {e : Envelope} {rest : List Envelope} (n : Nat) (hl : c.listening = true)
    (hi : c.inbox = e :: rest) :
    Change c .handle n c.calls[n]? ({ c with inbox := rest }.receive e).calls[n]? := by
  have hhead : c.inbox.head? = some e := by rw [hi]; rfl
  cases he : e.answer? with
  | none =>
    refine change_of_spares (by rw [(receive_of_answer?_eq_none he).1]) fun _ _ _ h ha => ?_
    cases hhead.symm.trans h
    cases he.symm.trans ha
  | some p =>
    obtain ⟨id, r⟩ := p
    have spares : c.entry? id ≠ some n → Spares c .handle n := fun hne _ _ _ h ha => by
      cases hhead.symm.trans h
      cases he.symm.trans ha
      exact hne
    rw [receive_of_answer?_eq_some he]
    cases hent : c.entry? id with
    | none =>
      rw [complete_of_no_entry (c := { c with inbox := rest }) r hent]
      exact change_of_spares rfl (spares (by rw [hent]; exact nofun))
    | some m =>
      rw [complete_of_entry (c := { c with inbox := rest }) r hent]
      dsimp only [calls_strike]
      by_cases hm : m = n
      · subst hm
        rw [List.getElem?_modify]
        cases hc : c.calls[m]? with
        | none => exact .absent
        | some call => simpa using Change.answered call e id r rfl hl hhead he hent
      · refine change_of_spares ?_ (spares (by rw [hent]; exact fun h => hm (Option.some.inj h)))
        simp [hm]

theorem change_of_endListening {n : Nat} (ha : a = .endListening)
    (h : c'.calls = c.calls.mapIdx fun n call =>
      if (c.pending.map (·.2)).contains n then { call with slot := .dropped } else call) :
    Change c a n c.calls[n]? c'.calls[n]? := by
  subst ha
  rw [h, List.getElem?_mapIdx]
  cases hc : c.calls[n]? with
  | none => exact .absent
  | some call =>
    rw [Option.map_some]
    by_cases hn : (c.pending.map (·.2)).contains n = true
    · obtain ⟨⟨id, m⟩, hmem, rfl⟩ := List.mem_map.mp (List.contains_iff_mem.mp hn)
      rw [if_pos hn]
      exact .dropped call id rfl hmem
    · rw [if_neg hn]
      refine .kept call fun id hmem => hn ?_
      exact List.contains_iff_mem.mpr (List.mem_map.mpr ⟨_, hmem, rfl⟩)

theorem change_of_step (h : c.step? a = some c') (n : Nat) :
    Change c a n c.calls[n]? c'.calls[n]? := by
  cases a with
  | call e =>
    simp only [step?] at h
    split at h
    · cases h
    · cases h
      by_cases hn : n < c.calls.length
      · exact change_of_spares (List.getElem?_append_left hn) nofun
      · rw [List.getElem?_append_right (Nat.le_of_not_lt hn),
          List.getElem?_eq_none (Nat.le_of_not_lt hn)]
        cases n - c.calls.length with
        | zero => exact .made e rfl
        | succ k => exact .absent
  | dismiss m =>
    obtain ⟨call, hc, h⟩ := withCall_eq_some h
    obtain ⟨hp, r, hr, rfl⟩ := dismiss?_eq_some h
    exact change_of_set rfl hc (calls_finish ..) (.dismissed call r rfl hp hr) n
  | register m id =>
    obtain ⟨call, hc, h⟩ := withCall_eq_some h
    obtain ⟨hm, hf, rfl⟩ := register?_eq_some h
    exact change_of_set rfl hc rfl (.registered call id rfl hm hf) n
  | send m =>
    obtain ⟨call, hc, h⟩ := withCall_eq_some h
    obtain ⟨hp, id, kind, payload, hid, hm, ⟨ho, rfl⟩ | ⟨ho, rfl⟩⟩ := send?_eq_some h
    · exact change_of_set rfl hc rfl (.sent call id rfl hp hid ho) n
    · exact change_of_set rfl hc (by simp) (.unsent call rfl hp ho) n
  | take m =>
    obtain ⟨call, hc, h⟩ := withCall_eq_some h
    obtain ⟨hp, r, hr, rfl⟩ := take?_eq_some h
    exact change_of_set rfl hc (by simp) (.took call r rfl hp hr) n
  | expire m =>
    obtain ⟨call, hc, h⟩ := withCall_eq_some h
    obtain ⟨hp, rfl⟩ := expire?_eq_some h
    exact change_of_set rfl hc rfl (.expired call rfl hp) n
  | withdraw m =>
    obtain ⟨call, hc, h⟩ := withCall_eq_some h
    obtain ⟨hp, id, kind, payload, hid, hm, ⟨he, rfl⟩ | ⟨he, rfl⟩⟩ := withdraw?_eq_some h
    · exact change_of_set rfl hc (by simp) (.timedOut call id kind payload rfl hp hid hm he) n
    · exact change_of_set rfl hc rfl (.late call id rfl hp hid he) n
  | takeLate m =>
    obtain ⟨call, hc, h⟩ := withCall_eq_some h
    obtain ⟨hp, rfl⟩ := takeLate?_eq_some h
    exact change_of_set rfl hc (calls_finish ..) (.tookLate call rfl hp) n
  | cancel m =>
    obtain ⟨call, hc, h⟩ := withCall_eq_some h
    obtain ⟨hp, hp', _, rfl⟩ := cancel?_eq_some h
    exact change_of_set rfl hc (by simp) (.cancelled call rfl hp hp') n
  | handle =>
    obtain ⟨hl, e, rest, hi, rfl⟩ := handle?_eq_some h
    exact change_of_receive n hl hi
  | endListening =>
    obtain ⟨_, _, _, rfl⟩ := endListening?_eq_some h
    exact change_of_endListening rfl rfl
  | deliver e =>
    simp only [step?] at h
    split at h
    · cases h; exact change_of_spares rfl nofun
    · cases h
  | closeInbox => cases h; exact change_of_spares rfl nofun
  | closeOutbox => cases h; exact change_of_spares rfl nofun
  | subscribe name => cases h; exact change_of_spares rfl nofun
  | unsubscribe name => cases h; exact change_of_spares rfl nofun

end
end Client
end ChatBridge
