import ChatBridge.Proofs.Bridge.Readiness

/-!
# Replies at the deadline

A call whose time is over races the answer for its entry in the table, and one of the two takes it.
If the call does, it ends with a timeout and the answer reaches nobody. If the answer does, it stands
in the slot from then on, where the call finds it. Only the end of the table could leave the call with
nothing, so a client that still listens loses no answer.
-/

namespace ChatBridge

/-- The call has sent its request, or tried to, and is past that. -/
def Call.WasSent (call : Call) : Prop :=
  call.id.isSome ∧ call.phase.isOut = true ∧ call.phase ≠ .cancelled

namespace Client

section
variable {c c' : Client} {a : Action} {n : Nat} {call call' : Call} {ss : History} {r : CallResult}
  {id : String}

/-! ## Listening -/

@[simp] theorem listening_finish : (c.finish n call r).listening = c.listening := by
  unfold finish
  cases call.errand <;> cases r <;> rfl

@[simp] theorem listening_strikeOf : (c.strikeOf call).listening = c.listening := by
  unfold strikeOf
  cases call.id <;> rfl

theorem listening_of_step (h : c.step? a = some c') (hl : c'.listening = true) :
    c.listening = true ∧ a ≠ .endListening := by
  constructor
  · cases a with
    | call e =>
      simp only [step?] at h
      split at h
      · cases h
      · cases h; exact hl
    | dismiss n =>
      obtain ⟨call, _, h⟩ := withCall_eq_some h
      obtain ⟨_, r, _, rfl⟩ := dismiss?_eq_some h
      simpa using hl
    | register n id =>
      obtain ⟨call, _, h⟩ := withCall_eq_some h
      obtain ⟨_, _, rfl⟩ := register?_eq_some h
      exact hl
    | send n =>
      obtain ⟨call, _, h⟩ := withCall_eq_some h
      obtain ⟨_, id, kind, payload, _, _, ⟨_, rfl⟩ | ⟨_, rfl⟩⟩ := send?_eq_some h
      · exact hl
      · rw [listening_finish] at hl
        exact hl
    | take n =>
      obtain ⟨call, _, h⟩ := withCall_eq_some h
      obtain ⟨_, r, _, rfl⟩ := take?_eq_some h
      simpa using hl
    | expire n =>
      obtain ⟨call, _, h⟩ := withCall_eq_some h
      obtain ⟨_, rfl⟩ := expire?_eq_some h
      exact hl
    | withdraw n =>
      obtain ⟨call, _, h⟩ := withCall_eq_some h
      obtain ⟨_, id, kind, payload, _, _, ⟨_, rfl⟩ | ⟨_, rfl⟩⟩ := withdraw?_eq_some h
      · rw [listening_finish] at hl
        exact hl
      · exact hl
    | takeLate n =>
      obtain ⟨call, _, h⟩ := withCall_eq_some h
      obtain ⟨_, rfl⟩ := takeLate?_eq_some h
      simpa using hl
    | cancel n =>
      obtain ⟨call, _, h⟩ := withCall_eq_some h
      obtain ⟨_, _, _, rfl⟩ := cancel?_eq_some h
      have hs : (c.strikeOf call).listening = true := hl
      rw [listening_strikeOf] at hs
      exact hs
    | handle => exact (handle?_eq_some h).1
    | endListening =>
      obtain ⟨_, _, _, rfl⟩ := endListening?_eq_some h
      cases hl
    | deliver e =>
      simp only [step?] at h
      split at h
      · cases h; exact hl
      · cases h
    | _ => cases h; exact hl
  · rintro rfl
    obtain ⟨_, _, _, rfl⟩ := endListening?_eq_some h
    cases hl

theorem not_cutOff_of_listening {start : Client} (run : Run step? start ss c)
    (hl : c.listening = true) : ¬ CutOff ss n call := by
  have never : ∀ s ∈ ss, s.action ≠ .endListening := by
    induction run with
    | nil => intro s hs; cases hs
    | snoc _ h ih =>
      obtain ⟨hold, ha⟩ := listening_of_step h hl
      intro s hs
      rcases List.mem_append.mp hs with hs | hs
      · exact ih hold s hs
      · cases List.mem_singleton.mp hs
        exact ha
  rintro ⟨s, hs, ha, _⟩
  exact never s hs ha

/-! ## Calls that were sent -/

theorem send_of_change {x : Option Call} (h : Change c a n x (some call'))
    (hs : ∀ call, x = some call → call.Shaped) (hw : call'.WasSent) :
    a = .send n ∨ ∃ call, x = some call ∧ call.WasSent := by
  obtain ⟨hid, hout, hnot⟩ := hw
  cases h with
  | kept _ _ => exact .inr ⟨call', rfl, hid, hout, hnot⟩
  | made e _ => cases hid
  | dismissed call r _ hp _ =>
    have hsh := hs call rfl
    simp only [Call.Shaped, hp] at hsh
    rw [show call.id = none from hsh.1] at hid
    cases hid
  | registered call id _ _ _ => cases hout
  | sent call id ha _ _ _ => exact .inl ha
  | unsent call ha _ _ => exact .inl ha
  | took call r _ hp _ => exact .inr ⟨call, rfl, hid, by rw [hp]; rfl, by simp [hp]⟩
  | expired call _ hp => exact .inr ⟨call, rfl, hid, by rw [hp]; rfl, by simp [hp]⟩
  | timedOut call _ _ _ _ hp _ _ _ =>
    exact .inr ⟨call, rfl, hid, by rw [hp]; rfl, by simp [hp]⟩
  | late call _ _ hp _ _ => exact .inr ⟨call, rfl, hid, by rw [hp]; rfl, by simp [hp]⟩
  | tookLate call _ hp => exact .inr ⟨call, rfl, hid, by rw [hp]; rfl, by simp [hp]⟩
  | cancelled call _ _ _ => exact absurd rfl hnot
  | answered call _ _ _ _ _ _ _ _ => exact .inr ⟨call, rfl, hid, hout, hnot⟩
  | dropped call _ _ _ => exact .inr ⟨call, rfl, hid, hout, hnot⟩

section
variable {config : AgentConfig} {timeout : Nat} (run : Run step? (connect config timeout) ss c)
include run

theorem exists_send (hc : c.calls[n]? = some call) (hw : call.WasSent) :
    ∃ s ∈ ss, s.action = .send n := by
  induction run generalizing call with
  | nil =>
    cases n with
    | zero => cases hc; cases hw.1
    | succ n => cases hc
  | @snoc ss d a d' run h ih =>
    have hch := change_of_step h n
    rw [hc] at hch
    rcases send_of_change hch (fun _ => (traced_of_run run).table.shaped) hw with rfl | ⟨old, ho, hold⟩
    · exact ⟨_, List.mem_append_right _ (List.mem_singleton.mpr rfl), rfl⟩
    · obtain ⟨s, hs, ha⟩ := ih ho hold
      exact ⟨s, List.mem_append_left _ hs, ha⟩

theorem exists_sentAs (hc : c.calls[n]? = some call) (hw : call.WasSent) :
    ∃ s ∈ ss, s.action = .send n ∧ SentAs ss n call s.before.outboxOpen := by
  obtain ⟨s, hs, ha⟩ := exists_send run hc hw
  obtain ⟨other, ho, hsent⟩ := (traced_of_run run).sends s hs n ha
  cases hc.symm.trans ho
  exact ⟨s, hs, ha, hsent⟩

theorem outcome_or_unsent (hc : c.calls[n]? = some call) (hid : call.id = some id)
    (hp : call.phase = .finished r) : Outcome ss n call r ∨
      r = .error .disconnected ∧ ∃ s ∈ ss, s.action = .send n ∧ s.before.outboxOpen = false := by
  obtain ⟨s, hs, ha, hsent⟩ := exists_sentAs run hc ⟨by rw [hid]; rfl, by rw [hp]; rfl, by simp [hp]⟩
  unfold SentAs at hsent
  rw [hp] at hsent
  by_cases ho : s.before.outboxOpen = true
  · exact .inl (by simpa [ho] using hsent)
  · refine .inr ⟨by simpa [ho] using hsent, s, hs, ha, ?_⟩
    simpa using ho

theorem sentAs_of_expire (hc : c.calls[n]? = some call) {s : Step Client Action} (hs : s ∈ ss)
    (ha : s.action = .expire n) : SentAs ss n call true := by
  obtain ⟨pre, post, hss⟩ := List.append_of_mem hs
  obtain ⟨hpre, hstep⟩ := run.before_of_split hss
  rw [ha] at hstep
  obtain ⟨old, ho, hexp⟩ := withCall_eq_some hstep
  have hp := (expire?_eq_some hexp).1
  have hsh := (traced_of_run hpre).table.shaped ho
  simp only [Call.Shaped, hp] at hsh
  obtain ⟨x, hx, hsend, hsent⟩ :=
    exists_sentAs hpre ho ⟨hsh.1, by rw [hp]; rfl, by simp [hp]⟩
  have hopen : x.before.outboxOpen = true := by simpa only [SentAs, hp] using hsent
  have hmem : x ∈ ss := by
    rw [hss]
    exact List.mem_append_left _ hx
  obtain ⟨other, hother, hend⟩ := (traced_of_run run).sends x hmem n hsend
  cases hc.symm.trans hother
  rwa [hopen] at hend

end

/-! ## Leaving the table -/

theorem outcome_of_answer {x : Except Fault Json} (h : Outcome ss n call r)
    (hx : firstAnswer? ss n = some x) : r = x.mapError .worker := by
  unfold Outcome at h
  rw [hx] at h
  cases x with
  | ok v => exact h
  | error f => exact h

theorem leaves_of_step (t : Table c.calls c.pending) (h : c.step? a = some c')
    (hw : c.Waits n id) (hw' : ¬ c'.Waits n id) :
    a.caller? = some n ∨ a = .endListening ∨ ∃ x, handledFor? n ⟨c, a, c'⟩ = some x := by
  obtain ⟨call, hc, hid, hawaits⟩ := t.entries.mp hw.2
  have t' := table_of_step t h
  have hch := change_of_step h n
  rw [hc] at hch
  generalize hy : c'.calls[n]? = y at hch
  cases hch with
  | kept _ _ => exact absurd ((waits_iff hy).mpr ⟨hid, (t'.awaits_iff hy hid).mp hawaits⟩) hw'
  | answered _ e i x ha _ hi he hent =>
    subst ha
    exact .inr (.inr ⟨x, handledFor?_of_entry t hi he hent⟩)
  | dropped _ _ ha _ => exact .inr (.inl ha)
  | dismissed _ _ ha _ _ => exact .inl (by rw [ha]; rfl)
  | registered _ _ ha _ _ => exact .inl (by rw [ha]; rfl)
  | sent _ _ ha _ _ _ => exact .inl (by rw [ha]; rfl)
  | unsent _ ha _ _ => exact .inl (by rw [ha]; rfl)
  | took _ _ ha _ _ => exact .inl (by rw [ha]; rfl)
  | expired _ ha _ => exact .inl (by rw [ha]; rfl)
  | timedOut _ _ _ _ ha _ _ _ _ => exact .inl (by rw [ha]; rfl)
  | late _ _ ha _ _ _ => exact .inl (by rw [ha]; rfl)
  | tookLate _ ha _ => exact .inl (by rw [ha]; rfl)
  | cancelled _ ha _ _ => exact .inl (by rw [ha]; rfl)

theorem waits_of_registered (t : Table c.calls c.pending) (h : c.step? a = some c')
    (hid : c'.idOf? n = some id) (hnot : c.idOf? n ≠ some id) : c'.Waits n id := by
  obtain ⟨call', hc', hid'⟩ := Option.bind_eq_some_iff.mp hid
  have hch := change_of_step h n
  rw [hc'] at hch
  generalize hx : c.calls[n]? = x at hch
  have old (call : Call) (ho : c.calls[n]? = some call) (hoid : call.id = some id) :
      c'.Waits n id := by
    refine absurd ?_ hnot
    rw [idOf?, ho]
    exact hoid
  cases hch with
  | made e _ => cases hid'
  | registered call i _ hm _ =>
    have hsh := t.shaped hx
    simp only [Call.Shaped, phase_of_mayRegister hm] at hsh
    exact (waits_iff hc').mpr
      ⟨hid', ((table_of_step t h).awaits_iff hc' hid').mp ⟨rfl, hsh.2⟩⟩
  | kept _ _ => exact old _ hx hid'
  | dismissed _ _ _ _ _ => exact old _ hx hid'
  | sent _ _ _ _ _ _ => exact old _ hx hid'
  | unsent _ _ _ _ => exact old _ hx hid'
  | took _ _ _ _ _ => exact old _ hx hid'
  | expired _ _ _ => exact old _ hx hid'
  | timedOut _ _ _ _ _ _ _ _ _ => exact old _ hx hid'
  | late _ _ _ _ _ _ => exact old _ hx hid'
  | tookLate _ _ _ => exact old _ hx hid'
  | cancelled _ _ _ _ => exact old _ hx hid'
  | answered _ _ _ _ _ _ _ _ _ => exact old _ hx hid'
  | dropped _ _ _ _ => exact old _ hx hid'

/-- Who has taken the entry of a call off the table. -/
inductive Gone (ss : History) (n : Nat) (id : String) : Prop
  | left (s : Step Client Action) (hs : s ∈ ss) (ha : s.action.caller? = some n)
      (hw : s.before.Waits n id) (hw' : ¬ s.after.Waits n id)
  | cutOff (s : Step Client Action) (hs : s ∈ ss) (ha : s.action = .endListening)
      (hw : s.before.Waits n id)
  | answered (s : Step Client Action) (hs : s ∈ ss) (x : Except Fault Json)
      (hx : handledFor? n s = some x)

theorem Gone.snoc (h : Gone ss n id) (s : Step Client Action) : Gone (ss ++ [s]) n id := by
  cases h with
  | left x hx ha hw hw' => exact .left x (List.mem_append_left _ hx) ha hw hw'
  | cutOff x hx ha hw => exact .cutOff x (List.mem_append_left _ hx) ha hw
  | answered x hx y hy => exact .answered x (List.mem_append_left _ hx) y hy

section
variable {config : AgentConfig} {timeout : Nat} (run : Run step? (connect config timeout) ss c)
include run

/-- A registered call stands in the table, unless one of the three has taken its entry. -/
theorem waits_or_gone (hid : c.idOf? n = some id) : c.Waits n id ∨ Gone ss n id := by
  induction run with
  | nil =>
    cases n with
    | zero => cases hid
    | succ n => cases hid
  | @snoc ss d a d' run h ih =>
    have t := (traced_of_run run).table
    have hlast : Step.mk d a d' ∈ ss ++ [⟨d, a, d'⟩] := by simp
    by_cases hold : d.idOf? n = some id
    · rcases ih hold with hw | hgone
      · by_cases hw' : d'.Waits n id
        · exact .inl hw'
        · refine .inr ?_
          rcases leaves_of_step t h hw hw' with ha | ha | ⟨x, hx⟩
          · exact .left _ hlast ha hw hw'
          · exact .cutOff _ hlast ha hw
          · exact .answered _ hlast x hx
      · exact .inr (hgone.snoc _)
    · exact .inl (waits_of_registered t h hid hold)

theorem slot_of_handledFor? (hc : c.calls[n]? = some call) {s : Step Client Action} (hs : s ∈ ss)
    {x : Except Fault Json} (hx : handledFor? n s = some x) :
    ∃ y, firstAnswer? ss n = some y ∧ call.slot = .answer y := by
  obtain ⟨y, hy⟩ : ∃ y, firstAnswer? ss n = some y := by
    rw [← Option.isSome_iff_exists, firstAnswer?, List.findSome?_isSome_iff]
    exact ⟨s, hs, by rw [hx]; rfl⟩
  have hslot := (traced_of_run run).slots hc
  unfold SlotOf at hslot
  cases hcs : call.slot with
  | empty => rw [hcs] at hslot; cases hy.symm.trans hslot
  | answer z => rw [hcs] at hslot; cases hy.symm.trans hslot; exact ⟨y, hy, rfl⟩
  | dropped => rw [hcs] at hslot; cases hy.symm.trans hslot.1

theorem handled_of_handledFor? (hc : c.calls[n]? = some call) (hid : call.id = some id)
    {s : Step Client Action} (hs : s ∈ ss) {x : Except Fault Json} (hx : handledFor? n s = some x) :
    handled? s = some (id, x) ∧ s.before.Waits n id := by
  obtain ⟨⟨i, y⟩, hh, hw⟩ := Option.bind_eq_some_iff.mp hx
  dsimp only at hw
  split at hw
  · rename_i hwaits
    have hi := idOf?_of_mem run hs hwaits.1
    rw [idOf?, hc, Option.bind_some, hid] at hi
    cases hi
    cases hw
    exact ⟨hh, hwaits⟩
  · cases hw

/-! ## Timeouts -/

theorem timedOut_of_timeout (hc : c.calls[n]? = some call) (hid : call.id = some id)
    {kind id' : String} {span : Nat} (hp : call.phase = .finished (.error (.timeout kind id' span))) :
    firstAnswer? ss n = none ∧ TimedOut ss n call (.error (.timeout kind id' span)) := by
  rcases outcome_or_unsent run hc hid hp with ho | ⟨hr, _⟩
  · unfold Outcome at ho
    split at ho
    · cases ho
    · cases ho
    · rename_i hnone
      rcases ho with ht | ⟨hr, _⟩
      · exact ⟨hnone, ht⟩
      · cases hr
  · cases hr

theorem phase_of_withdrawn (hc : c.calls[n]? = some call) {s : Step Client Action} (hs : s ∈ ss)
    (ha : s.action = .withdraw n) (hw : s.before.Waits n id) :
    ∃ kind, call.phase = .finished (.error (.timeout kind id s.before.timeout)) := by
  obtain ⟨pre, hpre, hstep⟩ := run.before_of_mem hs
  rw [ha] at hstep
  obtain ⟨old, ho, hold⟩ := withCall_eq_some hstep
  have hoid := ((waits_iff ho).mp hw).1
  obtain ⟨_, i, kind, payload, hi, _, ⟨_, hafter⟩ | ⟨hent, _⟩⟩ := withdraw?_eq_some hold
  · cases hoid.symm.trans hi
    have hn := (List.getElem?_eq_some_iff.mp ho).1
    have hres : s.after.result? n = some (.error (.timeout kind id s.before.timeout)) := by
      rw [hafter]
      simp [result?, hn, Call.result?]
    have hend := result?_of_mem run hs hres
    rw [result?, hc, Option.bind_some, Call.result?] at hend
    split at hend
    · rename_i hp; exact ⟨kind, by rw [hp, Option.some.inj hend]⟩
    · cases hend
  · cases hoid.symm.trans hi
    have hl : s.before.entry? id = some n := (traced_of_run hpre).table.lookup.mpr hw.2
    cases hl.symm.trans hent

theorem calls_of_handled (hc : c.calls[n]? = some call) (hid : call.id = some id)
    {s : Step Client Action} (hs : s ∈ ss) {x : Except Fault Json} (hh : handled? s = some (id, x))
    (hn : handledFor? n s = none) : s.after.calls = s.before.calls := by
  obtain ⟨pre, hpre, hstep⟩ := run.before_of_mem hs
  have t := (traced_of_run hpre).table
  obtain ⟨before, a, after⟩ := s
  unfold handled? at hh
  split at hh
  · rename_i ha
    have ha : a = .handle := ha
    subst ha
    obtain ⟨_, e, rest, hi, heq⟩ := handle?_eq_some hstep
    have heq : after = ({ before with inbox := rest } : Client).receive e := heq
    have he : e.answer? = some (id, x) := by
      rw [show before.inbox = e :: rest from hi] at hh
      exact hh
    have hent : before.entry? id = none := by
      cases hm : before.entry? id with
      | none => rfl
      | some m =>
        -- whoever has this entry has the id of the call for good, so it is the call
        obtain ⟨other, ho, hoid, _⟩ := t.mem_of_lookup hm
        have hold : before.idOf? m = some id := by
          rw [idOf?, ho]
          exact hoid
        have hlast := idOf?_of_mem run hs hold
        obtain ⟨last, hlast, hlid⟩ := Option.bind_eq_some_iff.mp hlast
        have hmn := (traced_of_run run).table.distinct hlast hlid hc hid
        subst hmn
        rw [handledFor?_of_entry t (by rw [hi]; rfl) he hm] at hn
        cases hn
    show after.calls = before.calls
    rw [heq, receive_of_answer?_eq_some he,
      complete_of_no_entry (c := { before with inbox := rest }) x hent]
  · cases hh

end

/-! ## Main statement -/

/-- Let the call `n` have been registered under `id`. If its time is over and the client still
listens, the call comes to its end, and that is an answer with its id, which was handled while it
waited, or a timeout. It is a timeout just when the call took its own entry, and then no call gets an
answer with the id. And whenever neither the call nor the end of the table has taken the entry, it is
there or the call holds an answer, with which it ends unless its request could not be sent. -/
theorem reply_or_timeout_of_run {config : AgentConfig} {timeout : Nat}
    (run : Run step? (connect config timeout) ss c) (hc : c.calls[n]? = some call)
    (hid : call.id = some id) :
    ((∃ s ∈ ss, s.action = .expire n) → c.listening = true →
      (call.phase = .cancelled ∨ CanEnd c n) ∧
      ∀ r, call.phase = .finished r → r ≠ .error .disconnected ∧
        ((∃ s ∈ ss, ∃ x, handled? s = some (id, x) ∧ s.before.Waits n id ∧
          r = x.mapError .worker) ∨ ∃ kind span, r = .error (.timeout kind id span))) ∧
    (∀ r, call.phase = .finished r → ((∃ kind id' span, r = .error (.timeout kind id' span)) ↔
      ∃ s ∈ ss, s.action = .withdraw n ∧ s.before.Waits n id)) ∧
    (∀ s ∈ ss, s.action = .withdraw n → s.before.Waits n id →
      (∃ kind, call.phase = .finished (.error (.timeout kind id s.before.timeout))) ∧
      ∀ h ∈ ss, ∀ x, handled? h = some (id, x) → h.after.calls = h.before.calls) ∧
    ((id, n) ∉ c.pending →
      (∃ s ∈ ss, s.action.caller? = some n ∧ s.before.Waits n id ∧ ¬ s.after.Waits n id) ∨
      CutOff ss n call ∨
      ∃ x, firstAnswer? ss n = some x ∧ call.slot = .answer x ∧
        ∀ r, call.phase = .finished r → r = x.mapError .worker ∨
          r = .error .disconnected ∧ ∃ s ∈ ss, s.action = .send n ∧ s.before.outboxOpen = false) := by
  have t := traced_of_run run
  refine ⟨?_, fun r hp => ⟨?_, ?_⟩, fun s hs ha hw => ?_, fun hgone => ?_⟩
  · rintro ⟨s, hs, ha⟩ hl
    have hsent := sentAs_of_expire run hc hs ha
    refine ⟨canEnd_of_sentAs t.table hc hsent, fun r hp => ?_⟩
    have ho : Outcome ss n call r := by simpa [SentAs, hp] using hsent
    cases hx : firstAnswer? ss n with
    | some x =>
      have hr := outcome_of_answer ho hx
      obtain ⟨h, hh, hfor⟩ := List.exists_of_findSome?_eq_some hx
      obtain ⟨hhand, hw⟩ := handled_of_handledFor? run hc hid hh hfor
      refine ⟨?_, .inl ⟨h, hh, x, hhand, hw, hr⟩⟩
      rw [hr]
      cases x <;> simp [Except.mapError]
    | none =>
      unfold Outcome at ho
      rw [hx] at ho
      rcases ho with ⟨_, _, _, i, kind, _, _, _, hi, _, rfl⟩ | ⟨_, hcut⟩
      · cases hid.symm.trans hi
        exact ⟨by simp, .inr ⟨kind, _, rfl⟩⟩
      · exact absurd hcut (not_cutOff_of_listening run hl)
  · rintro ⟨kind, id', span, rfl⟩
    obtain ⟨_, s, hs, ha, i, _, _, hw, _, hi, _, _⟩ := timedOut_of_timeout run hc hid hp
    cases hid.symm.trans hi
    exact ⟨s, hs, ha, hw⟩
  · rintro ⟨s, hs, ha, hw⟩
    obtain ⟨kind, hp'⟩ := phase_of_withdrawn run hc hs ha hw
    cases hp.symm.trans hp'
    exact ⟨_, _, _, rfl⟩
  · obtain ⟨kind, hp⟩ := phase_of_withdrawn run hc hs ha hw
    refine ⟨⟨kind, hp⟩, fun h hh x hx => calls_of_handled run hc hid hh hx ?_⟩
    exact List.findSome?_eq_none_iff.mp (timedOut_of_timeout run hc hid hp).1 h hh
  · have hcid : c.idOf? n = some id := by rw [idOf?, hc]; exact hid
    rcases waits_or_gone run hcid with hw | ⟨s, hs, ha, hw, hw'⟩ | ⟨s, hs, ha, hw⟩ | ⟨s, hs, x, hx⟩
    · exact absurd hw.2 hgone
    · exact .inl ⟨s, hs, ha, hw, hw'⟩
    · exact .inr (.inl ⟨s, hs, ha, id, hid, hw⟩)
    · obtain ⟨y, hy, hslot⟩ := slot_of_handledFor? run hc hs hx
      refine .inr (.inr ⟨y, hy, hslot, fun r hp => ?_⟩)
      rcases outcome_or_unsent run hc hid hp with ho | hunsent
      · exact .inl (outcome_of_answer ho hy)
      · exact .inr hunsent

end

/-- The answer comes between the end of the time and the look into the table, and the other way
round. -/
theorem reply_or_timeout_of_races :
    (∃ ss c call, Run step? (connect .standard 1000) ss c ∧ c.calls[0]? = some call ∧
      call.id = some "a" ∧ call.phase = .finished (.ok (.bool true)) ∧
      ∃ s ∈ ss, ∃ x, handled? s = some ("a", x) ∧ s.before.Waits 0 "a" ∧
        .ok (.bool true) = x.mapError BridgeError.worker) ∧
    (∃ ss c call, Run step? (connect .standard 1000) ss c ∧ c.calls[0]? = some call ∧
      call.id = some "a" ∧ call.phase = .finished (.error (.timeout "init" "a" 1000)) ∧
      (∃ s ∈ ss, s.action = .withdraw 0 ∧ s.before.Waits 0 "a") ∧
      ∃ h ∈ ss, handled? h = some ("a", .ok (.bool true)) ∧ h.after.calls = h.before.calls) := by
  constructor
  · have run : ∃ ss c call, Run step? (connect .standard 1000) ss c ∧
        (∃ s ∈ ss, s.action = .expire 0) ∧ c.calls[0]? = some call ∧ call.id = some "a" ∧
        call.phase = .finished (.ok (.bool true)) ∧ c.listening = true := by
      refine ⟨_, _, _, .of_play [.register 0 "a", .send 0, .expire 0,
        .deliver (.response "a" (.bool true)), .handle, .withdraw 0, .takeLate 0] rfl, ?_, rfl, rfl,
        rfl, rfl⟩
      exact ⟨_, List.mem_cons_of_mem _ (List.mem_cons_of_mem _ List.mem_cons_self), rfl⟩
    obtain ⟨ss, c, call, run, hexp, hc, hid, hp, hl⟩ := run
    obtain ⟨_, hend⟩ := (reply_or_timeout_of_run run hc hid).1 hexp hl
    rcases (hend _ hp).2 with hreply | ⟨_, _, htime⟩
    · exact ⟨ss, c, call, run, hc, hid, hp, hreply⟩
    · cases htime
  · have run : ∃ ss d c call, Run step? (connect .standard 1000) ss d ∧ d.step? .handle = some c ∧
        handled? ⟨d, .handle, c⟩ = some ("a", .ok (.bool true)) ∧ c.calls[0]? = some call ∧
        call.id = some "a" ∧ call.phase = .finished (.error (.timeout "init" "a" 1000)) :=
      ⟨_, _, _, _, .of_play [.register 0 "a", .send 0, .expire 0,
        .deliver (.response "a" (.bool true)), .withdraw 0] rfl, rfl, rfl, rfl, rfl, rfl⟩
    obtain ⟨ss, d, c, call, run, hstep, hh, hc, hid, hp⟩ := run
    have run := run.snoc hstep
    obtain ⟨_, htimeout, hown, _⟩ := reply_or_timeout_of_run run hc hid
    obtain ⟨s, hs, ha, hw⟩ := (htimeout _ hp).mp ⟨_, _, _, rfl⟩
    have hlast : Step.mk d .handle c ∈ ss ++ [⟨d, .handle, c⟩] := by simp
    exact ⟨_, c, call, run, hc, hid, hp, ⟨s, hs, ha, hw⟩, _, hlast, hh, (hown s hs ha hw).2 _ hlast _ hh⟩

end Client
end ChatBridge
