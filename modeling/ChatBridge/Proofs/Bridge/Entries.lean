import ChatBridge.Proofs.Bridge.Deadline

/-!
# What the table holds

An entry is made when its call registers. An answer with its id, the timeout of its call and the end
of the table take it off again, and so does the call itself when it ends or is cancelled; nothing
else does, and none of these touches the entry of another call. So the table can be read off the run:
`pending_of_run` says that it holds just the calls in progress that have registered and for which
nothing has come since. All others in progress have something in their slot, and end with that.
-/

namespace ChatBridge

def Call.InProgress (call : Call) : Prop :=
  (∀ r, call.phase ≠ .finished r) ∧ call.phase ≠ .cancelled

namespace Client

/-- After this step the call `n` waits no longer under `id`: an answer with the id has been handled,
the call has taken its timeout, or the table has ended. -/
inductive Settles (n : Nat) (id : String) (s : Step Client Action) : Prop
  | handled (x : Except Fault Json) (h : handled? s = some (id, x))
  | timeout (ha : s.action = .withdraw n) (hw : s.before.Waits n id)
  | ended (ha : s.action = .endListening)

/-- The call `n` has registered under `id`, and nothing has settled that since. -/
def Unsettled (ss : History) (n : Nat) (id : String) : Prop :=
  ∃ pre s post, ss = pre ++ s :: post ∧ s.action = .register n id ∧ ∀ x ∈ post, ¬ Settles n id x

section
variable {c c' : Client} {a : Action} {n : Nat} {call call' : Call} {ss : History} {id : String}

/-! ## Entries come by registering -/

theorem inProgress_of_isOpen (h : call.phase.isOpen = true) : call.InProgress := by
  refine ⟨fun r hr => ?_, fun hr => ?_⟩
  · rw [hr] at h; cases h
  · rw [hr] at h; cases h

theorem awaits_of_change {x : Option Call} (h : Change c a n x (some call')) (hid : call'.id = some id)
    (ha : call'.Awaits) :
    a = .register n id ∨ ∃ call, x = some call ∧ call.id = some id ∧ call.Awaits := by
  obtain ⟨ho, hs⟩ := ha
  cases h with
  | kept _ _ => exact .inr ⟨_, rfl, hid, ho, hs⟩
  | made _ _ => cases hid
  | registered _ _ ha _ _ => cases hid; exact .inl ha
  | sent call _ _ hp _ _ => exact .inr ⟨call, rfl, hid, by rw [hp]; rfl, hs⟩
  | expired call _ hp => exact .inr ⟨call, rfl, hid, by rw [hp]; rfl, hs⟩
  | answered _ _ _ _ _ _ _ _ _ => cases hs
  | dropped _ _ _ _ => cases hs
  | _ => cases ho

theorem waits_before (t : Table c.calls c.pending) (h : c.step? a = some c') (hw : c'.Waits n id) :
    a = .register n id ∨ c.Waits n id := by
  obtain ⟨call', hc', hid', ha'⟩ := (table_of_step t h).entries.mp hw.2
  have hch := change_of_step h n
  rw [hc'] at hch
  rcases awaits_of_change hch hid' ha' with ha | ⟨call, hc, hid, hawaits⟩
  · exact .inl ha
  · exact .inr ((waits_iff hc).mpr ⟨hid, (t.awaits_iff hc hid).mp hawaits⟩)

theorem not_waits_of_settles (t : Table c.calls c.pending) (h : c.step? a = some c')
    (hs : Settles n id ⟨c, a, c'⟩) : ¬ c'.Waits n id := by
  intro hw
  cases hs with
  | handled x hh =>
    unfold handled? at hh
    split at hh
    · rename_i ha
      cases (show a = .handle from ha)
      obtain ⟨_, e, rest, hi, rfl⟩ := handle?_eq_some h
      have he : e.answer? = some (id, x) := by
        rw [show c.inbox = e :: rest from hi] at hh
        exact hh
      have hmem := hw.2
      rw [receive_of_answer?_eq_some he] at hmem
      cases hent : c.entry? id with
      | none =>
        rw [complete_of_no_entry (c := { c with inbox := rest }) x hent] at hmem
        cases hent.symm.trans (t.lookup.mpr hmem)
      | some m =>
        rw [complete_of_entry (c := { c with inbox := rest }) x hent] at hmem
        simpa using (List.mem_filter.mp hmem).2
    · cases hh
  | timeout ha hwaits =>
    cases (show a = .withdraw n from ha)
    obtain ⟨call, hc, hid, _⟩ := t.entries.mp hwaits.2
    have hent : c.entry? id = some n := t.lookup.mpr hwaits.2
    exact not_waits_of_withdraw h hc hid (by rw [hent]; rfl) hw
  | ended ha =>
    cases (show a = .endListening from ha)
    obtain ⟨_, _, _, rfl⟩ := endListening?_eq_some h
    cases hw.2

section
variable {config : AgentConfig} {timeout : Nat} (run : Run step? (connect config timeout) ss c)
include run

theorem unsettled_of_waits (hw : c.Waits n id) : Unsettled ss n id := by
  induction run with
  | nil => cases hw.2
  | @snoc ss d a d' run h ih =>
    have t := (traced_of_run run).table
    rcases waits_before t h hw with ha | hd
    · exact ⟨ss, _, [], rfl, ha, fun _ hx => nomatch hx⟩
    · obtain ⟨pre, s, post, rfl, ha, hpost⟩ := ih hd
      refine ⟨pre, s, post ++ [⟨d, a, d'⟩], by simp, ha, fun x hx => ?_⟩
      rcases List.mem_append.mp hx with hx | hx
      · exact hpost x hx
      · cases List.mem_singleton.mp hx
        exact fun hs => not_waits_of_settles t h hs hw

/-! ## Entries stay until they are settled -/

theorem idOf?_of_register {s : Step Client Action} (hs : s ∈ ss) (ha : s.action = .register n id) :
    s.before.idOf? n = none ∧ c.idOf? n = some id := by
  have first : s.before.idOf? n = none ∧ s.after.idOf? n = some id := by
    obtain ⟨pre, hpre, hstep⟩ := run.before_of_mem hs
    rw [ha] at hstep
    obtain ⟨call, hc, hreg⟩ := withCall_eq_some hstep
    obtain ⟨hm, _, hafter⟩ := register?_eq_some hreg
    have hsh := (traced_of_run hpre).table.shaped hc
    simp only [Call.Shaped, phase_of_mayRegister hm] at hsh
    have hn := (List.getElem?_eq_some_iff.mp hc).1
    refine ⟨by rw [idOf?, hc]; exact hsh.1, ?_⟩
    rw [hafter]
    simp [idOf?, hn]
  refine ⟨first.1, ?_⟩
  induction run with
  | nil => cases hs
  | snoc run h ih =>
    rcases List.mem_append.mp hs with hs | hs
    · exact idOf?_step (traced_of_run run).table h (ih hs)
    · cases List.mem_singleton.mp hs
      exact first.2

theorem mem_of_waits {pre post : History} {s x : Step Client Action} (hss : ss = pre ++ s :: post)
    (ha : s.action = .register n id) (hx : x ∈ ss) (hw : x.before.Waits n id) : x ∈ post := by
  have hs : s ∈ ss := by simp [hss]
  have hnone := (idOf?_of_register run hs ha).1
  rw [hss, List.mem_append, List.mem_cons] at hx
  rcases hx with hx | rfl | hx
  · cases hnone.symm.trans (idOf?_of_mem (run.before_of_split hss).1 hx hw.1)
  · cases hnone.symm.trans hw.1
  · exact hx

theorem slot_of_unsettled (hc : c.calls[n]? = some call) (hid : call.id = some id)
    (hu : Unsettled ss n id) : call.slot = .empty := by
  obtain ⟨pre, s, post, hss, ha, hpost⟩ := hu
  have hslot := (traced_of_run run).slots hc
  unfold SlotOf at hslot
  cases hcs : call.slot with
  | empty => rfl
  | answer x =>
    rw [hcs] at hslot
    obtain ⟨h, hh, hfor⟩ := List.exists_of_findSome?_eq_some hslot
    obtain ⟨hhand, hw⟩ := handled_of_handledFor? run hc hid hh hfor
    exact absurd (.handled x hhand) (hpost h (mem_of_waits run hss ha hh hw))
  | dropped =>
    rw [hcs] at hslot
    obtain ⟨_, h, hh, hend, i, hi, hw⟩ := hslot
    cases hid.symm.trans hi
    exact absurd (.ended hend) (hpost h (mem_of_waits run hss ha hh hw))

end

theorem awaits_of_inProgress (hs : call.Shaped) (hid : call.id = some id) (hp : call.InProgress)
    (he : call.slot = .empty) : call.Awaits := by
  refine ⟨?_, he⟩
  unfold Call.Shaped at hs
  split at hs
  · cases hs.1.symm.trans hid
  · rename_i h; rw [h]; rfl
  · rename_i h; rw [h]; rfl
  · rename_i h; rw [h]; rfl
  · exact absurd he hs.2.2
  · rename_i r h; exact absurd h (hp.1 r)
  · rename_i h; exact absurd h hp.2

/-! ## Calls that are out of the table -/

/-- Steps of the call alone, for none of which its time has to be over, lead to the end `r`. -/
def EndsAtOnce (c : Client) (n : Nat) (r : CallResult) : Prop :=
  ∃ ss c', Run step? c ss c' ∧ (∀ s ∈ ss, s.action.caller? = some n ∧ s.action ≠ .expire n) ∧
    c'.result? n = some r

theorem endsAtOnce_of_step {r : CallResult} (h : c.step? a = some c') (ha : a.caller? = some n)
    (hne : a ≠ .expire n) (hend : EndsAtOnce c' n r) : EndsAtOnce c n r := by
  obtain ⟨ss, d, run, hss, hd⟩ := hend
  refine ⟨[⟨c, a, c'⟩] ++ ss, d, (Run.single h).append run, fun s hs => ?_, hd⟩
  rcases List.mem_append.mp hs with hs | hs
  · cases List.mem_singleton.mp hs
    exact ⟨ha, hne⟩
  · exact hss s hs

theorem endsAtOnce_of_result? {r : CallResult} (h : c.result? n = some r) : EndsAtOnce c n r :=
  ⟨[], c, .nil, fun _ hs => absurd hs List.not_mem_nil, h⟩

theorem endsAtOnce_finish (d : Client) (r : CallResult) (hn : n < d.calls.length) :
    EndsAtOnce (d.finish n call r) n r :=
  endsAtOnce_of_result? (by simp [result?, hn, Call.result?])

section
variable {r : CallResult} (hc : c.calls[n]? = some call) (hr : call.slot.result? = some r)
include hc hr

theorem endsAtOnce_of_late (hp : call.phase = .late) : EndsAtOnce c n r := by
  have hn := (List.getElem?_eq_some_iff.mp hc).1
  have h : c.step? (.takeLate n) = some (c.finish n call r) := by
    simp only [step?, withCall, hc, Option.bind_some, takeLate?, hp, hr, Option.getD_some]
  exact endsAtOnce_of_step h rfl (by simp) (endsAtOnce_finish c r hn)

theorem endsAtOnce_of_sent (hp : call.phase = .sent) : EndsAtOnce c n r := by
  have hn := (List.getElem?_eq_some_iff.mp hc).1
  have h : c.step? (.take n) = some ((c.strikeOf call).finish n call r) := by
    simp only [step?, withCall, hc, Option.bind_some, take?, hp, hr, Option.map_some]
  exact endsAtOnce_of_step h rfl (by simp) (endsAtOnce_finish _ r (by simpa using hn))

theorem endsAtOnce_of_expired (hs : call.Shaped) (hp : call.phase = .expired)
    (hent : ∀ id, call.id = some id → c.entry? id = none) : EndsAtOnce c n r := by
  have hn := (List.getElem?_eq_some_iff.mp hc).1
  obtain ⟨id, kind, payload, hid, hm⟩ := hs.exists_request (by rw [hp]; rfl)
  have h : c.step? (.withdraw n) = some (c.setCall n { call with phase := .late }) := by
    simp only [step?, withCall, hc, Option.bind_some, withdraw?, hp, hid, hm, hent id hid,
      Option.isSome_none, Bool.false_eq_true, if_false]
  have hlate : (c.setCall n { call with phase := .late }).calls[n]? =
      some { call with phase := .late } := by simp [hn]
  exact endsAtOnce_of_step h rfl (by simp) (endsAtOnce_of_late hlate hr rfl)

theorem endsAtOnce_of_registered (hs : call.Shaped) (hp : call.phase = .registered) :
    EndsAtOnce c n (if c.outboxOpen then r else .error .disconnected) := by
  have hn := (List.getElem?_eq_some_iff.mp hc).1
  obtain ⟨id, kind, payload, hid, hm⟩ := hs.exists_request (by rw [hp]; rfl)
  have h : c.step? (.send n) = c.send? n call := by
    simp only [step?, withCall, hc, Option.bind_some]
  simp only [send?, hp, hid, hm] at h
  split at h
  · rename_i ho
    rw [if_pos ho]
    let sent : Call := { call with id := some id, phase := .sent }
    have hsent : (c.calls.set n sent)[n]? = some sent := by simp [hn]
    exact endsAtOnce_of_step h rfl (by simp) (endsAtOnce_of_sent hsent hr rfl)
  · rename_i ho
    rw [if_neg ho]
    exact endsAtOnce_of_step h rfl (by simp) (endsAtOnce_finish _ _ hn)

end

theorem endsAtOnce_of_no_entry {r : CallResult} (t : Table c.calls c.pending)
    (hc : c.calls[n]? = some call) (hid : call.id = some id) (hp : call.InProgress)
    (hno : c.entry? id = none) (hr : call.slot.result? = some r) :
    EndsAtOnce c n r ∨ c.outboxOpen = false ∧ EndsAtOnce c n (.error .disconnected) := by
  have hs := t.shaped hc
  cases hphase : call.phase with
  | waiting =>
    simp only [Call.Shaped, hphase] at hs
    cases hid.symm.trans hs.1
  | registered =>
    have hend := endsAtOnce_of_registered hc hr hs hphase
    split at hend
    · exact .inl hend
    · rename_i ho; exact .inr ⟨by simpa using ho, hend⟩
  | sent => exact .inl (endsAtOnce_of_sent hc hr hphase)
  | expired =>
    refine .inl (endsAtOnce_of_expired hc hr hs hphase fun i hi => ?_)
    cases hid.symm.trans hi
    exact hno
  | late => exact .inl (endsAtOnce_of_late hc hr hphase)
  | finished r => exact absurd hphase (hp.1 r)
  | cancelled => exact absurd hphase hp.2

/-! ## Main statement -/

/-- The table holds, each once, the calls in progress that have registered and that nothing has
settled since. So it is empty when no call is in progress; and a registered call in progress that is
missing in it holds an answer or the news that none will come, and ends with that without its time
having to pass, or else because its request cannot be sent. -/
theorem pending_of_run {config : AgentConfig} {timeout : Nat}
    (run : Run step? (connect config timeout) ss c) :
    (c.pending.map Prod.fst).Nodup ∧
    (∀ id n, (id, n) ∈ c.pending ↔
      Unsettled ss n id ∧ ∃ call, c.calls[n]? = some call ∧ call.InProgress) ∧
    ((∀ call ∈ c.calls, ¬ call.InProgress) → c.pending.length = 0) ∧
    (∀ s ∈ ss, ∀ n id, s.action = .register n id → id ∉ c.pending.map Prod.fst →
      ∀ call, c.calls[n]? = some call → call.InProgress →
        ((∃ x, firstAnswer? ss n = some x ∧ call.slot = .answer x) ∨
          call.slot = .dropped ∧ CutOff ss n call) ∧
        ∃ r, call.slot.result? = some r ∧ (EndsAtOnce c n r ∨
          c.outboxOpen = false ∧ EndsAtOnce c n (.error .disconnected))) := by
  have t := traced_of_run run
  refine ⟨t.table.keys, fun id n => ⟨fun hmem => ?_, ?_⟩, fun hover => ?_,
    fun s hs n id ha hno call hc hp => ?_⟩
  · obtain ⟨call, hc, hid, haw⟩ := t.table.entries.mp hmem
    exact ⟨unsettled_of_waits run ((waits_iff hc).mpr ⟨hid, hmem⟩), call, hc,
      inProgress_of_isOpen haw.1⟩
  · rintro ⟨hu, call, hc, hp⟩
    have ⟨pre, s, post, hss, ha, _⟩ := hu
    have hid := (idOf?_of_register run (by simp [hss]) ha).2
    rw [idOf?, hc, Option.bind_some] at hid
    have haw := awaits_of_inProgress (t.table.shaped hc) hid hp (slot_of_unsettled run hc hid hu)
    exact (t.table.awaits_iff hc hid).mp haw
  · rw [List.length_eq_zero_iff, List.eq_nil_iff_forall_not_mem]
    rintro ⟨id, n⟩ hmem
    obtain ⟨call, hc, _, haw⟩ := t.table.entries.mp hmem
    exact hover call (List.mem_of_getElem? hc) (inProgress_of_isOpen haw.1)
  · have hid := (idOf?_of_register run hs ha).2
    rw [idOf?, hc, Option.bind_some] at hid
    have hne : call.slot ≠ .empty := fun he => hno <| List.mem_map.mpr
      ⟨_, (t.table.awaits_iff hc hid).mp (awaits_of_inProgress (t.table.shaped hc) hid hp he), rfl⟩
    have hent : c.entry? id = none := by
      cases hl : c.entry? id with
      | none => rfl
      | some m => exact absurd (List.mem_map.mpr ⟨_, t.table.lookup.mp hl, rfl⟩) hno
    obtain ⟨r, hr⟩ := result?_of_ne_empty hne
    refine ⟨?_, r, hr, endsAtOnce_of_no_entry t.table hc hid hp hent hr⟩
    have hslot := t.slots hc
    unfold SlotOf at hslot
    cases hcs : call.slot with
    | empty => exact absurd hcs hne
    | answer x => rw [hcs] at hslot; exact .inl ⟨x, hslot, rfl⟩
    | dropped => rw [hcs] at hslot; exact .inr ⟨rfl, hslot.2⟩

end

/-- Of two registered calls one has been answered before it has sent its request, and the other
waits. -/
theorem pending_of_answered_run :
    ∃ ss c call, Run step? (connect .standard 1000) ss c ∧ c.pending = [("b", 1)] ∧
      Unsettled ss 1 "b" ∧ c.calls[2]? = some call ∧ call.InProgress ∧
      EndsAtOnce c 2 (.ok (.bool true)) := by
  have run : ∃ ss c call, Run step? (connect .standard 1000) ss c ∧ c.pending = [("b", 1)] ∧
      (∃ s ∈ ss, s.action = .register 2 "c") ∧ c.calls[2]? = some call ∧
      call.phase = .registered ∧ call.slot = .answer (.ok (.bool true)) ∧ c.outboxOpen = true := by
    refine ⟨_, _, _, .of_play [.register 0 "a", .send 0, .deliver (.response "a" .null), .handle,
      .take 0, .call (.request "x" .null), .call (.request "y" .null), .register 2 "c",
      .register 1 "b", .deliver (.response "c" (.bool true)), .deliver (.response "c" .null),
      .handle, .handle] rfl, rfl, ?_, rfl, rfl, rfl, rfl⟩
    exact ⟨_, List.mem_of_getElem? (i := 7) rfl, rfl⟩
  obtain ⟨ss, c, call, run, hpend, ⟨s, hs, ha⟩, hc, hp, hslot, hopen⟩ := run
  obtain ⟨_, hentries, _, hmissing⟩ := pending_of_run run
  have hmem : ("b", 1) ∈ c.pending := by simp [hpend]
  have hprog : call.InProgress := inProgress_of_isOpen (by rw [hp]; rfl)
  obtain ⟨_, r, hr, hend⟩ := hmissing s hs 2 "c" ha (by simp [hpend]) call hc hprog
  rw [hslot] at hr
  cases hr
  rcases hend with hend | ⟨hclosed, _⟩
  · exact ⟨ss, c, call, run, hpend, ((hentries _ _).mp hmem).1, hc, hprog, hend⟩
  · cases hopen.symm.trans hclosed

end Client
end ChatBridge
