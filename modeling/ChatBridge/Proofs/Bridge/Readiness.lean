import Mathlib.Data.Fintype.EquivFin
import ChatBridge.Proofs.Bridge.Traffic

/-!
# Nothing goes out before the agent is set up

The first call alone decides whether the client is ready, and it decides once. What a call puts into
the outbox is its own request, and only the first call puts it there without having seen the client
ready; so whatever another call puts follows the response to the first one. A client that has failed
sends nothing for anyone else and tells them so.
-/

namespace ChatBridge

/-- The readiness of a client whose first call stands here. -/
def CallPhase.readiness : CallPhase → Readiness
  | .finished r => readinessAfter r
  | _ => .pending

namespace Client

def moved? (s : Step Client Action) : Option (Readiness × Readiness) :=
  if s.before.readiness = s.after.readiness then none
  else some (s.before.readiness, s.after.readiness)

/-- What a call puts into the outbox in a step, with the number of the call. -/
def put (s : Step Client Action) : List (Nat × Envelope) :=
  match s.action.caller? with
  | some n => (s.after.outbox.drop s.before.outbox.length).map (n, ·)
  | none => []

def putBy (ss : History) (n : Nat) : List Envelope :=
  ((ss.flatMap put).filter (·.1 = n)).map Prod.snd

section
variable {c c' : Client} {a : Action} {n : Nat} {call call' : Call} {r : CallResult} {ss : History}
  {config : AgentConfig}

/-! ## One step -/

theorem put_of_no_news (h : c'.outbox = c.outbox) : put ⟨c, a, c'⟩ = [] := by
  unfold put
  split
  · simp [h]
  · rfl

theorem action_of_sent (h : c.step? a = some c') (hc : c.calls[n]? = some call)
    (hp : call.phase = .registered) (hc' : c'.calls[n]? = some { call with phase := .sent }) :
    a = .send n := by
  have hch := change_of_step h n
  rw [hc, hc'] at hch
  generalize hs : ({ call with phase := .sent } : Call) = call' at hch
  have hs' : call'.phase = .sent := by rw [← hs]
  cases hch with
  | sent _ _ ha _ _ _ => exact ha
  | kept _ _ => rw [hp] at hs'; cases hs'
  | answered _ _ _ _ _ _ _ _ _ => rw [hp] at hs'; cases hs'
  | dropped _ _ _ _ => rw [hp] at hs'; cases hs'
  | _ => cases hs'

theorem put_of_step (h : c.step? a = some c') :
    (c'.outbox = c.outbox ∧ put ⟨c, a, c'⟩ = []) ∨
    ∃ (n : Nat) (call : Call) (id kind : String) (payload : Json), a = .send n ∧
      c.calls[n]? = some call ∧ call.phase = .registered ∧ call.id = some id ∧
      call.errand.message? = some (kind, payload) ∧
      c'.calls[n]? = some { call with phase := .sent } ∧
      c'.outbox = c.outbox ++ [.request id kind payload] ∧
      put ⟨c, a, c'⟩ = [(n, .request id kind payload)] := by
  cases passing_of_step h with
  | nothing hs => exact .inl ⟨hs.outbox, put_of_no_news hs.outbox⟩
  | request n call id kind payload hc hp hid hm hc' ho _ _ =>
    have ha := action_of_sent h hc hp hc'
    refine .inr ⟨n, call, id, kind, payload, ha, hc, hp, hid, hm, hc', ho, ?_⟩
    simp [put, ha, Action.caller?, ho]
  | taken _ ho _ _ => exact .inl ⟨ho, put_of_no_news ho⟩
  | given _ _ ho _ _ => exact .inl ⟨ho, put_of_no_news ho⟩
  | decided _ _ _ _ _ _ ho _ _ => exact .inl ⟨ho, put_of_no_news ho⟩

theorem put_of_send (h : c.step? (.send n) = some c') (hopen : c.outboxOpen = true) :
    ∃ e, put ⟨c, .send n, c'⟩ = [(n, e)] := by
  obtain ⟨call, _, h⟩ := withCall_eq_some h
  obtain ⟨_, id, kind, payload, _, _, ⟨_, rfl⟩ | ⟨hclosed, _⟩⟩ := send?_eq_some h
  · exact ⟨.request id kind payload, by simp [put, Action.caller?, setCall]⟩
  · cases hopen.symm.trans hclosed

theorem putBy_append (tt : History) : putBy (ss ++ tt) n = putBy ss n ++ putBy tt n := by
  simp [putBy]

theorem putBy_snoc (s : Step Client Action) :
    putBy (ss ++ [s]) n = putBy ss n ++ ((put s).filter (·.1 = n)).map Prod.snd := by
  simp [putBy]

theorem putBy_of_put_eq_nil {s : Step Client Action} (h : put s = []) :
    putBy (ss ++ [s]) n = putBy ss n := by
  rw [putBy_snoc, h, List.filter_nil, List.map_nil, List.append_nil]

theorem of_withCall {f : Call → Option Client} (h : c.withCall n f = some c')
    (hc : c.calls[n]? = some call) : f call = some c' := by
  obtain ⟨other, ho, h⟩ := withCall_eq_some h
  cases hc.symm.trans ho
  exact h

theorem dismiss?_readiness (h : c.dismiss? n call = some c') :
    c.readiness = .ready ∨ c.readiness = .failed ∧ c' = c.finish n call (.error .notReady) := by
  unfold dismiss? at h
  split at h
  · rename_i hr; exact .inl hr
  · rename_i hr; exact .inr ⟨hr, (Option.some.inj h).symm⟩
  · rename_i hr; exact .inr ⟨hr, (Option.some.inj h).symm⟩
  · cases h

theorem errand_of_dismiss (h : c.step? (.dismiss n) = some c') (hc : c.calls[n]? = some call)
    (config : AgentConfig) : call.errand ≠ .setUp config := by
  intro he
  have hd := of_withCall h hc
  unfold dismiss? at hd
  split at hd
  · rename_i ha _; cases he.symm.trans ha
  · rename_i ha _; cases he.symm.trans ha
  · rename_i ha _; cases he.symm.trans ha
  · cases hd

theorem errand_of_cancel (h : c.step? (.cancel n) = some c') (hc : c.calls[n]? = some call)
    (config : AgentConfig) : call.errand ≠ .setUp config :=
  (cancel?_eq_some (of_withCall h hc)).2.2.1 config

theorem readiness_finish_of_setUp (he : call.errand = .setUp config) :
    (c.finish n call r).readiness = readinessAfter r := by
  rw [readiness_finish, he]

theorem readiness_of_end (h : c.step? a = some c') (hc : c.calls[n]? = some call)
    (he : call.errand = .setUp config) (hp : call.phase ≠ .finished r)
    (hc' : c'.calls[n]? = some call') (hp' : call'.phase = .finished r) :
    c'.readiness = readinessAfter r := by
  have hch := change_of_step h n
  rw [hc, hc'] at hch
  cases hch with
  | kept _ _ => exact absurd hp' hp
  | answered _ _ _ _ _ _ _ _ _ => exact absurd hp' hp
  | dropped _ _ _ _ => exact absurd hp' hp
  | dismissed _ _ ha _ _ =>
    subst ha
    exact absurd he (errand_of_dismiss h hc config)
  | unsent _ ha _ hopen =>
    subst ha
    obtain ⟨_, _, _, _, _, _, ⟨hopen', _⟩ | ⟨_, rfl⟩⟩ := send?_eq_some (of_withCall h hc)
    · cases hopen.symm.trans hopen'
    · cases hp'
      exact readiness_finish_of_setUp he
  | took _ _ ha _ hr =>
    subst ha
    obtain ⟨_, _, hr', rfl⟩ := take?_eq_some (of_withCall h hc)
    cases hr.symm.trans hr'
    cases hp'
    exact readiness_finish_of_setUp he
  | timedOut _ _ _ _ ha _ hid hm hent =>
    subst ha
    obtain ⟨_, _, _, _, hid', hm', ⟨_, rfl⟩ | ⟨hent', _⟩⟩ := withdraw?_eq_some (of_withCall h hc)
    · cases hp'
      exact readiness_finish_of_setUp he
    · cases hid.symm.trans hid'
      rw [hent'] at hent
      cases hent
  | tookLate _ ha _ =>
    subst ha
    obtain ⟨_, rfl⟩ := takeLate?_eq_some (of_withCall h hc)
    cases hp'
    exact readiness_finish_of_setUp he
  | _ => cases hp'

theorem phase_readiness_of_ne {p : CallPhase} (h : ∀ r, p ≠ .finished r) :
    p.readiness = .pending := by
  cases p with
  | finished r => exact absurd rfl (h r)
  | _ => rfl


/-! ## The invariant -/

/-- A call of its own accord puts nothing but its request into the outbox, and that once. -/
def PutOwn (ss : History) (c : Client) (n : Nat) : Prop :=
  putBy ss n = [] ∨ ∃ (call : Call) (id kind : String) (payload : Json),
    c.calls[n]? = some call ∧ call.phase.isOut = true ∧ call.id = some id ∧
    call.errand.message? = some (kind, payload) ∧ putBy ss n = [.request id kind payload]

structure First (config : AgentConfig) (ss : History) (c : Client) (call : Call) : Prop where
  at_zero : c.calls[0]? = some call
  errand : call.errand = .setUp config
  readiness : c.readiness = call.phase.readiness
  kept : call.phase ≠ .cancelled
  unsent : call.phase.isOut = true → putBy ss 0 = [] →
    ∃ s ∈ ss, s.action = .send 0 ∧ s.before.outboxOpen = false
  granted : ∀ v, call.phase = .finished (.ok v) → firstAnswer? ss 0 = some (.ok v)

structure Later (c : Client) (call : Call) : Prop where
  errand : ∀ config, call.errand ≠ .setUp config
  id : call.id.isSome = true → c.readiness = .ready
  ends : ∀ r, call.phase = .finished r →
    c.readiness = .ready ∨ c.readiness = .failed ∧ r = .error .notReady

structure Gated (config : AgentConfig) (ss : History) (c : Client) : Prop where
  outbox : c.outbox = (ss.flatMap put).map Prod.snd
  own : ∀ n, PutOwn ss c n
  first : ∃ call, First config ss c call
  later : ∀ {n : Nat} {call : Call}, c.calls[n]? = some call → n ≠ 0 → Later c call
  moves : ss.filterMap moved? =
    if c.readiness = .pending then [] else [(.pending, c.readiness)]

theorem Gated.eq_zero_of_setUp (g : Gated config ss c) (hc : c.calls[n]? = some call)
    {config' : AgentConfig} (he : call.errand = .setUp config') : n = 0 := by
  by_contra hn
  exact (g.later hc hn).errand config' he

theorem putBy_of_not_out (hown : PutOwn ss c n) (hc : c.calls[n]? = some call)
    (hp : call.phase.isOut = false) : putBy ss n = [] := by
  rcases hown with hnil | ⟨other, _, _, _, ho, hout, _⟩
  · exact hnil
  · cases hc.symm.trans ho
    rw [hp] at hout
    cases hout

theorem putOwn_step (hown : PutOwn ss c n) (h : c.step? a = some c') :
    PutOwn (ss ++ [⟨c, a, c'⟩]) c' n := by
  have old (hput : putBy (ss ++ [⟨c, a, c'⟩]) n = putBy ss n) : PutOwn (ss ++ [⟨c, a, c'⟩]) c' n := by
    unfold PutOwn
    rw [hput]
    rcases hown with hnil | ⟨call, id, kind, payload, hc, hout, hid, hm, hput⟩
    · exact .inl hnil
    · obtain ⟨call', hc', hid', he', hout'⟩ := out_of_step h hc hout
      exact .inr ⟨call', id, kind, payload, hc', hout', hid'.trans hid, he' ▸ hm, hput⟩
  rcases put_of_step h with ⟨_, hput⟩ | ⟨m, call, id, kind, payload, _, hc, hp, hid, hm, hc', _, hput⟩
  · exact old (putBy_of_put_eq_nil hput)
  · by_cases hmn : m = n
    · subst hmn
      have hnil := putBy_of_not_out hown hc (by rw [hp]; rfl)
      refine .inr ⟨_, id, kind, payload, hc', rfl, hid, hm, ?_⟩
      rw [putBy_snoc, hnil, hput]
      simp
    · refine old ?_
      rw [putBy_snoc, hput]
      simp [hmn]

theorem outbox_step (ho : c.outbox = (ss.flatMap put).map Prod.snd) (h : c.step? a = some c') :
    c'.outbox = ((ss ++ [Step.mk c a c']).flatMap put).map Prod.snd := by
  rw [List.flatMap_append, List.map_append, ← ho, List.flatMap_singleton]
  rcases put_of_step h with ⟨hsame, hput⟩ | ⟨_, _, _, _, _, _, _, _, _, _, _, hnew, hput⟩
  · rw [hsame, hput, List.map_nil, List.append_nil]
  · rw [hnew, hput]
    rfl

theorem errand_of_step (h : c.step? a = some c') (hc' : c'.calls[n]? = some call') :
    (∃ call, c.calls[n]? = some call ∧ call'.errand = call.errand) ∨
    ∃ e, (∀ config, e ≠ .setUp config) ∧ c.calls[n]? = none ∧ call' = ⟨e, none, .waiting, .empty⟩ := by
  have hch := change_of_step h n
  rw [hc'] at hch
  generalize hx : c.calls[n]? = x at hch
  cases hch with
  | made e ha =>
    subst ha
    refine .inr ⟨e, fun config he => ?_, rfl, rfl⟩
    subst he
    cases h
  | _ => exact .inl ⟨_, rfl, rfl⟩

theorem readiness_of_step (g : Gated config ss c) (hf : First config ss c call)
    (h : c.step? a = some c') (hc' : c'.calls[0]? = some call') :
    c'.readiness = call'.phase.readiness := by
  by_cases hend : ∃ r, call.phase ≠ .finished r ∧ call'.phase = .finished r
  · obtain ⟨r, hp, hp'⟩ := hend
    rw [readiness_of_end h hf.at_zero hf.errand hp hc' hp', hp']
    rfl
  · have hkept : call'.phase.readiness = call.phase.readiness := by
      by_cases hdone : ∃ r, call.phase = .finished r
      · obtain ⟨r, hp⟩ := hdone
        obtain ⟨_, hother, _, hp'⟩ := finished_of_step h hf.at_zero hp
        cases hc'.symm.trans hother
        rw [hp, hp']
      · rw [not_exists] at hdone
        rw [phase_readiness_of_ne hdone, phase_readiness_of_ne]
        intro r hp'
        exact hend ⟨r, hdone r, hp'⟩
    have hsame (hr : c'.readiness = c.readiness) : c'.readiness = call'.phase.readiness := by
      rw [hr, hf.readiness, hkept]
    cases passing_of_step h with
    | nothing hs => exact hsame hs.readiness
    | request _ _ _ _ _ _ _ _ _ _ _ _ hr => exact hsame hr
    | taken _ _ _ hr => exact hsame hr
    | given _ _ _ _ hr => exact hsame hr
    | decided n other config' r he hn _ _ hr =>
      have hzero : n = 0 := by
        rcases errand_of_step h hn with ⟨old, hold, herr⟩ | ⟨e, hne, _, hmade⟩
        · exact g.eq_zero_of_setUp hold (herr.symm.trans he)
        · cases congrArg Call.phase hmade
      subst hzero
      cases hc'.symm.trans hn
      exact hr

theorem Gated.readiness_stays (g : Gated config ss c) (h : c.step? a = some c')
    (hr : c.readiness ≠ .pending) : c'.readiness = c.readiness := by
  obtain ⟨call, hf⟩ := g.first
  have hdone : ∃ r, call.phase = .finished r := by
    by_contra hnone
    rw [not_exists] at hnone
    exact hr (hf.readiness.trans (phase_readiness_of_ne hnone))
  obtain ⟨r, hp⟩ := hdone
  obtain ⟨call', hc', _, hp'⟩ := finished_of_step h hf.at_zero hp
  rw [readiness_of_step g hf h hc', hf.readiness, hp, hp']

theorem moves_step (g : Gated config ss c) (h : c.step? a = some c') :
    (ss ++ [Step.mk c a c']).filterMap moved? =
      if c'.readiness = .pending then [] else [(.pending, c'.readiness)] := by
  rw [List.filterMap_append, g.moves]
  by_cases hr : c.readiness = .pending
  · rw [if_pos hr, List.nil_append]
    by_cases hr' : c'.readiness = .pending
    · simp [moved?, hr, hr']
    · simp [moved?, hr, hr', Ne.symm hr']
  · have hstay := g.readiness_stays h hr
    rw [hstay, if_neg hr]
    simp [moved?, hstay]

theorem errand_kept (h : c.step? a = some c') (hc : c.calls[n]? = some call) :
    ∃ call', c'.calls[n]? = some call' ∧ call'.errand = call.errand := by
  have hch := change_of_step h n
  rw [hc] at hch
  generalize c'.calls[n]? = y at hch
  cases hch with
  | _ => exact ⟨_, rfl, rfl⟩

section
variable (g : Gated config ss c) (t : Traced ss c) (hf : First config ss c call)
  (h : c.step? a = some c') (hc' : c'.calls[0]? = some call')
include hf h hc'

theorem First.kept_step : call'.phase ≠ .cancelled := by
  have hch := change_of_step h 0
  rw [hf.at_zero, hc'] at hch
  cases hch with
  | kept _ _ => exact hf.kept
  | answered _ _ _ _ _ _ _ _ _ => exact hf.kept
  | dropped _ _ _ _ => exact hf.kept
  | cancelled _ ha _ _ =>
    subst ha
    exact absurd hf.errand (errand_of_cancel h hf.at_zero config)
  | _ => nofun

theorem First.unsent_step (hout : call'.phase.isOut = true)
    (hput : putBy (ss ++ [⟨c, a, c'⟩]) 0 = []) :
    ∃ s ∈ ss ++ [⟨c, a, c'⟩], s.action = .send 0 ∧ s.before.outboxOpen = false := by
  obtain ⟨hold, hnew⟩ := List.append_eq_nil_iff.mp (putBy_snoc _ ▸ hput)
  have old (hout : call.phase.isOut = true) :
      ∃ s ∈ ss ++ [⟨c, a, c'⟩], s.action = .send 0 ∧ s.before.outboxOpen = false := by
    obtain ⟨s, hs, hsent⟩ := hf.unsent hout hold
    exact ⟨s, List.mem_append_left _ hs, hsent⟩
  have hch := change_of_step h 0
  rw [hf.at_zero, hc'] at hch
  cases hch with
  | kept _ _ => exact old hout
  | answered _ _ _ _ _ _ _ _ _ => exact old hout
  | dropped _ _ _ _ => exact old hout
  | dismissed _ _ ha _ _ =>
    subst ha
    exact absurd hf.errand (errand_of_dismiss h hf.at_zero config)
  | registered _ _ _ _ _ => cases hout
  | sent _ _ ha _ _ hopen =>
    subst ha
    obtain ⟨e, hput⟩ := put_of_send h hopen
    rw [hput] at hnew
    cases hnew
  | unsent _ ha _ hopen => exact ⟨_, List.mem_append_right _ List.mem_cons_self, ha, hopen⟩
  | took _ _ _ hp _ => exact old (by rw [hp]; rfl)
  | expired _ _ hp => exact old (by rw [hp]; rfl)
  | timedOut _ _ _ _ _ hp _ _ _ => exact old (by rw [hp]; rfl)
  | late _ _ _ hp _ _ => exact old (by rw [hp]; rfl)
  | tookLate _ _ hp => exact old (by rw [hp]; rfl)
  | cancelled _ ha _ _ =>
    subst ha
    exact absurd hf.errand (errand_of_cancel h hf.at_zero config)

include t in
theorem First.granted_step {v : Json} (hp' : call'.phase = .finished (.ok v)) :
    firstAnswer? (ss ++ [⟨c, a, c'⟩]) 0 = some (.ok v) := by
  have earlier (hfirst : firstAnswer? ss 0 = some (.ok v)) :
      firstAnswer? (ss ++ [⟨c, a, c'⟩]) 0 = some (.ok v) := by
    rw [firstAnswer?_snoc, hfirst, Option.some_or]
  have inSlot (hs : call.slot = .answer (.ok v)) :
      firstAnswer? (ss ++ [⟨c, a, c'⟩]) 0 = some (.ok v) := by
    have hslot := t.slots hf.at_zero
    rw [SlotOf, hs] at hslot
    exact earlier hslot
  have hch := change_of_step h 0
  rw [hf.at_zero, hc'] at hch
  cases hch with
  | kept _ _ => exact earlier (hf.granted v hp')
  | answered _ _ _ _ _ _ _ _ _ => exact earlier (hf.granted v hp')
  | dropped _ _ _ _ => exact earlier (hf.granted v hp')
  | dismissed _ _ ha _ _ =>
    subst ha
    exact absurd hf.errand (errand_of_dismiss h hf.at_zero config)
  | took _ _ _ _ hr =>
    cases hp'
    exact inSlot (answerOf?_of_slot hr rfl)
  | tookLate _ _ _ =>
    have hp' := CallPhase.finished.inj hp'
    cases hr : call.slot.result? with
    | none => rw [hr] at hp'; cases hp'
    | some r => rw [hr] at hp'; cases hp'; exact inSlot (answerOf?_of_slot hr rfl)
  | _ => cases hp'

end

theorem first_step (g : Gated config ss c) (t : Traced ss c) (h : c.step? a = some c') :
    ∃ call', First config (ss ++ [⟨c, a, c'⟩]) c' call' := by
  obtain ⟨call, hf⟩ := g.first
  obtain ⟨call', hc', he'⟩ := errand_kept h hf.at_zero
  exact ⟨call', {
    at_zero := hc'
    errand := he'.trans hf.errand
    readiness := readiness_of_step g hf h hc'
    kept := hf.kept_step h hc'
    unsent := hf.unsent_step h hc'
    granted := fun _ => hf.granted_step t h hc' }⟩

theorem id_of_shaped (hs : call.Shaped) (hp : call.phase.isOpen = true ∨ call.phase = .late) :
    call.id.isSome = true := by
  unfold Call.Shaped at hs
  rcases hp with hp | hp
  · cases hphase : call.phase with
    | registered => rw [hphase] at hs; exact hs.1
    | sent => rw [hphase] at hs; exact hs.1
    | expired => rw [hphase] at hs; exact hs.1
    | _ => rw [hphase] at hp; cases hp
  · rw [hp] at hs; exact hs.1

section
variable (g : Gated config ss c) (t : Traced ss c) (h : c.step? a = some c')
  (hc' : c'.calls[n]? = some call') (hn : n ≠ 0)
include g h hc' hn

theorem Gated.ready_of_id (hid : call'.id.isSome = true) : c'.readiness = .ready := by
  have stays (hr : c.readiness = .ready) : c'.readiness = .ready := by
    rw [g.readiness_stays h (by rw [hr]; nofun), hr]
  have hch := change_of_step h n
  rw [hc'] at hch
  obtain ⟨id, hid⟩ := Option.isSome_iff_exists.mp hid
  rcases id_of_change hch hid with ⟨old, ho, hoid, _⟩ | ⟨old, ho, hmay, _⟩
  · exact stays ((g.later ho hn).id (by rw [hoid]; rfl))
  · unfold mayRegister at hmay
    split at hmay
    · rename_i hs; exact absurd hs ((g.later ho hn).errand _)
    · exact stays (of_decide_eq_true hmay)
    · cases hmay

include t in
theorem Gated.ends_step (hp' : call'.phase = .finished r) :
    c'.readiness = .ready ∨ c'.readiness = .failed ∧ r = .error .notReady := by
  have hch := change_of_step h n
  rw [hc'] at hch
  generalize ho : c.calls[n]? = x at hch
  have old {y : Call} (hy : x = some y) (hp : y.phase = .finished r) :
      c'.readiness = .ready ∨ c'.readiness = .failed ∧ r = .error .notReady := by
    rcases (g.later (ho.trans hy) hn).ends r hp with hr | ⟨hr, hnot⟩
    · exact .inl (by rw [g.readiness_stays h (by rw [hr]; nofun), hr])
    · exact .inr ⟨by rw [g.readiness_stays h (by rw [hr]; nofun), hr], hnot⟩
  -- whoever has an id has been let through
  have passed {y : Call} (hy : x = some y) (hp : y.phase.isOpen = true ∨ y.phase = .late) :
      c'.readiness = .ready := by
    have hr := (g.later (ho.trans hy) hn).id (id_of_shaped (t.table.shaped (ho.trans hy)) hp)
    rw [g.readiness_stays h (by rw [hr]; nofun), hr]
  cases hch with
  | kept _ _ => exact old rfl hp'
  | answered _ _ _ _ _ _ _ _ _ => exact old rfl hp'
  | dropped _ _ _ _ => exact old rfl hp'
  | dismissed _ _ ha _ _ =>
    subst ha
    rcases dismiss?_readiness (of_withCall h ho) with hr | ⟨hr, hc⟩
    · exact .inl (by rw [g.readiness_stays h (by rw [hr]; nofun), hr])
    · refine .inr ⟨by rw [g.readiness_stays h (by rw [hr]; nofun), hr], ?_⟩
      rw [hc, calls_finish, getElem?_set_of_getElem? ho, if_pos rfl] at hc'
      cases congrArg Call.phase (Option.some.inj hc')
      cases hp'
      rfl
  | unsent _ _ hp _ => exact .inl (passed rfl (.inl (by rw [hp]; rfl)))
  | took _ _ _ hp _ => exact .inl (passed rfl (.inl (by rw [hp]; rfl)))
  | timedOut _ _ _ _ _ hp _ _ _ => exact .inl (passed rfl (.inl (by rw [hp]; rfl)))
  | tookLate _ _ hp => exact .inl (passed rfl (.inr hp))
  | _ => cases hp'

include t in
theorem later_step : Later c' call' where
  errand config' := by
    rcases errand_of_step h hc' with ⟨old, ho, he⟩ | ⟨e, he, _, rfl⟩
    · rw [he]; exact (g.later ho hn).errand config'
    · exact he config'
  id := g.ready_of_id h hc' hn
  ends r := g.ends_step t h hc' hn

end

theorem gated_of_run {timeout : Nat} (run : Run step? (connect config timeout) ss c) :
    Gated config ss c := by
  induction run with
  | nil =>
    refine ⟨rfl, fun n => .inl rfl, ⟨_, rfl, rfl, rfl, nofun, nofun, nofun⟩, fun hc hn => ?_, rfl⟩
    obtain ⟨n, rfl⟩ := Nat.exists_eq_succ_of_ne_zero hn
    cases hc
  | snoc run h g =>
    have t := traced_of_run run
    exact ⟨outbox_step g.outbox h, fun n => putOwn_step (g.own n) h, first_step g t h,
      fun hc hn => later_step g t h hc hn, moves_step g h⟩

/-! ## What follows -/

theorem result?_zero (hf : First config ss c call) : c.result? 0 = call.result? := by
  rw [result?, hf.at_zero, Option.bind_some]

theorem readiness_eq (g : Gated config ss c) :
    c.readiness = (c.result? 0).elim .pending readinessAfter := by
  obtain ⟨call, hf⟩ := g.first
  rw [result?_zero hf, hf.readiness, Call.result?]
  cases call.phase with
  | finished r => rfl
  | _ => rfl

theorem moves_cases (g : Gated config ss c) :
    c.readiness = .pending ∧ ss.filterMap moved? = [] ∨
    c.readiness = .ready ∧ ss.filterMap moved? = [(.pending, .ready)] ∨
    c.readiness = .failed ∧ ss.filterMap moved? = [(.pending, .failed)] := by
  have hmoves := g.moves
  cases hr : c.readiness with
  | pending => rw [hr] at hmoves; exact .inl ⟨rfl, hmoves⟩
  | ready => rw [hr] at hmoves; exact .inr (.inl ⟨rfl, hmoves⟩)
  | failed => rw [hr] at hmoves; exact .inr (.inr ⟨rfl, hmoves⟩)

theorem putBy_zero (g : Gated config ss c) : putBy ss 0 = [] ∨ ∃ id, c.idOf? 0 = some id ∧
    putBy ss 0 = [.request id initKind ((Wire.codec : Codec AgentConfig).toValue config)] := by
  obtain ⟨call, hf⟩ := g.first
  rcases g.own 0 with hnil | ⟨other, id, kind, payload, hc, _, hid, hm, hput⟩
  · exact .inl hnil
  · cases hf.at_zero.symm.trans hc
    rw [hf.errand] at hm
    cases hm
    exact .inr ⟨id, by rw [idOf?, hc, Option.bind_some, hid], hput⟩

/-- Steps of the first call alone lead to its request in the outbox. -/
def CanPut (c : Client) : Prop :=
  ∃ tt c', Run step? c tt c' ∧ (∀ s ∈ tt, s.action.caller? = some 0) ∧ putBy tt 0 ≠ []

theorem canPut_of_registered (t : Table c.calls c.pending) (hc : c.calls[0]? = some call)
    (hp : call.phase = .registered) (hopen : c.outboxOpen = true) : CanPut c := by
  obtain ⟨id, kind, payload, hid, hm⟩ := (t.shaped hc).exists_request (by rw [hp]; rfl)
  have h : c.step? (.send 0) = some
      ({ c with outbox := c.outbox ++ [Envelope.request id kind payload] }.setCall 0
        { call with phase := .sent }) := by
    simp [step?, withCall, hc, send?, hp, hid, hm, hopen]
  obtain ⟨e, hput⟩ := put_of_send h hopen
  refine ⟨_, _, .single h, fun s hs => ?_, ?_⟩
  · cases List.mem_singleton.mp hs
    rfl
  · simp [putBy, hput]

theorem canPut_of_step (h : c.step? a = some c') (ha : a.caller? = some 0) (hput : CanPut c') :
    CanPut c := by
  obtain ⟨tt, d, run, htt, hd⟩ := hput
  refine ⟨[⟨c, a, c'⟩] ++ tt, d, (Run.single h).append run, fun s hs => ?_, ?_⟩
  · rcases List.mem_append.mp hs with hs | hs
    · cases List.mem_singleton.mp hs
      exact ha
    · exact htt s hs
  · rw [putBy_append]
    exact fun hnil => hd (List.append_eq_nil_iff.mp hnil).2

theorem exists_fresh (c : Client) : ∃ id, ∀ other ∈ c.calls, other.id ≠ some id := by
  obtain ⟨id, hid⟩ := Infinite.exists_notMem_finset (c.calls.filterMap (·.id)).toFinset
  refine ⟨id, fun other ho hoid => hid ?_⟩
  exact List.mem_toFinset.mpr (List.mem_filterMap.mpr ⟨other, ho, hoid⟩)

theorem canPut_of_waiting (t : Table c.calls c.pending) (hf : First config ss c call)
    (hp : call.phase = .waiting) (hopen : c.outboxOpen = true) : CanPut c := by
  obtain ⟨id, hid⟩ := exists_fresh c
  have hc := hf.at_zero
  have hn := (List.getElem?_eq_some_iff.mp hc).1
  have hmay : c.mayRegister call = true := by
    simp only [mayRegister, hp, hf.errand]
  have hany : c.calls.any (·.id == some id) = false := by
    rw [List.any_eq_false]
    intro other ho
    simpa using hid other ho
  have h : c.step? (.register 0 id) = some
      ({ c with pending := c.pending ++ [(id, 0)] }.setCall 0
        { call with id := some id, phase := .registered }) := by
    simp [step?, withCall, hc, register?, hmay, hany]
  have hc' : (c.calls.set 0 { call with id := some id, phase := .registered })[0]? =
      some { call with id := some id, phase := .registered } := by
    simp [hn]
  exact canPut_of_step h rfl (canPut_of_registered (table_of_step t h) hc' rfl hopen)

theorem canPut_of_putBy_eq_nil (g : Gated config ss c) (t : Traced ss c) (hnil : putBy ss 0 = []) :
    (∃ s ∈ ss, s.action = .send 0 ∧ s.before.outboxOpen = false) ∨
    (c.outboxOpen = true → CanPut c) := by
  obtain ⟨call, hf⟩ := g.first
  cases hp : call.phase with
  | waiting => exact .inr (canPut_of_waiting t.table hf hp)
  | registered => exact .inr (canPut_of_registered t.table hf.at_zero hp)
  | cancelled => exact absurd hp hf.kept
  | _ => exact .inl (hf.unsent (by rw [hp]; rfl) hnil)

/-- Whoever else puts something has seen the client ready. -/
theorem ready_of_put (g : Gated config ss c) (h : c.step? a = some c') {e : Envelope}
    (he : (n, e) ∈ put ⟨c, a, c'⟩) (hn : n ≠ 0) : c.readiness = .ready := by
  rcases put_of_step h with ⟨_, hput⟩ | ⟨m, call, id, _, _, _, hc, _, hid, _, _, _, hput⟩
  · rw [hput] at he
    cases he
  · rw [hput] at he
    cases List.mem_singleton.mp he
    exact (g.later hc hn).id (by rw [hid]; rfl)

theorem answered_of_ready (g : Gated config ss c) (hr : c.readiness = .ready) :
    ∃ id v, ∃ h ∈ ss, h.before.idOf? 0 = some id ∧ handled? h = some (id, .ok v) := by
  obtain ⟨call, hf⟩ := g.first
  have hphase : ∃ v, call.phase = .finished (.ok v) := by
    have hcall := hf.readiness
    rw [hr] at hcall
    cases hp : call.phase with
    | finished r =>
      rw [hp] at hcall
      cases r with
      | ok v => exact ⟨v, rfl⟩
      | error b => cases hcall
    | _ => rw [hp] at hcall; cases hcall
  obtain ⟨v, hp⟩ := hphase
  obtain ⟨h, hh, hfor⟩ := List.exists_of_findSome?_eq_some (hf.granted v hp)
  obtain ⟨⟨id, x⟩, hx, hw⟩ := Option.bind_eq_some_iff.mp hfor
  dsimp only at hw
  split at hw
  · rename_i hwaits
    cases hw
    exact ⟨id, v, h, hh, hwaits.1, hx⟩
  · cases hw

theorem putBy_of_failed (g : Gated config ss c) (hr : c.readiness = .failed) (hn : n ≠ 0) :
    putBy ss n = [] := by
  rcases g.own n with hnil | ⟨call, id, _, _, hc, _, hid, _, _⟩
  · exact hnil
  · have hready := (g.later hc hn).id (by rw [hid]; rfl)
    cases hr.symm.trans hready

theorem canEnd_of_dismissed (he : ∀ config, call.errand ≠ .setUp config)
    (hc : c.calls[n]? = some call) (hp : call.phase = .waiting) (hr : c.readiness = .failed) :
    CanEnd c n := by
  have h : c.step? (.dismiss n) = some (c.finish n call (.error .notReady)) := by
    cases herr : call.errand with
    | setUp config => exact absurd herr (he config)
    | awaitReady => simp [step?, withCall, hc, dismiss?, hp, herr, hr]
    | request kind payload => simp [step?, withCall, hc, dismiss?, hp, herr, hr]
  exact canEnd_of_step h rfl (canEnd_of_result? (result?_finish hc))

theorem canEnd_of_failed (g : Gated config ss c) (t : Traced ss c) (hr : c.readiness = .failed)
    (hn : n ≠ 0) (hc : c.calls[n]? = some call) : call.phase = .cancelled ∨ CanEnd c n := by
  have hlater := g.later hc hn
  have absent (hp : call.phase.isOpen = true ∨ call.phase = .late) : CanEnd c n := by
    have hready := hlater.id (id_of_shaped (t.table.shaped hc) hp)
    cases hr.symm.trans hready
  cases hp : call.phase with
  | waiting => exact .inr (canEnd_of_dismissed hlater.errand hc hp hr)
  | registered => exact .inr (absent (.inl (by rw [hp]; rfl)))
  | sent => exact .inr (absent (.inl (by rw [hp]; rfl)))
  | expired => exact .inr (absent (.inl (by rw [hp]; rfl)))
  | late => exact .inr (absent (.inr hp))
  | finished r => exact .inr (canEnd_of_result? (by simp [result?, hc, Call.result?, hp]))
  | cancelled => exact .inl rfl

theorem result?_of_failed (g : Gated config ss c) (hr : c.readiness = .failed) (hn : n ≠ 0)
    (hres : c.result? n = some r) : r = .error .notReady := by
  obtain ⟨call, hc, hres⟩ := Option.bind_eq_some_iff.mp hres
  unfold Call.result? at hres
  split at hres
  · rename_i hp
    cases hres
    rcases (g.later hc hn).ends _ hp with hready | ⟨_, hnot⟩
    · cases hr.symm.trans hready
    · exact hnot
  · cases hres

end

/-! ## Main statement -/

/-- The readiness is decided at most once, by the end of the first call. That call puts at most one
envelope into the outbox, its request to set up the agent, and none only if it found the outbox
closed. No other call puts anything there before a response to the first one has been handled; when
the first one ends with an error, no other call ever does, and all can only learn that the client is
not ready. -/
theorem gate_of_run {config : AgentConfig} {timeout : Nat} {ss : History} {c : Client}
    (run : Run step? (connect config timeout) ss c) :
    c.readiness = (c.result? 0).elim .pending readinessAfter ∧
    (c.readiness = .pending ∧ ss.filterMap moved? = [] ∨
      c.readiness = .ready ∧ ss.filterMap moved? = [(.pending, .ready)] ∨
      c.readiness = .failed ∧ ss.filterMap moved? = [(.pending, .failed)]) ∧
    c.outbox = (ss.flatMap put).map Prod.snd ∧
    (putBy ss 0 = [] ∨ ∃ id, c.idOf? 0 = some id ∧
      putBy ss 0 = [.request id initKind ((Wire.codec : Codec AgentConfig).toValue config)]) ∧
    (putBy ss 0 = [] → (∃ s ∈ ss, s.action = .send 0 ∧ s.before.outboxOpen = false) ∨
      (c.outboxOpen = true → CanPut c)) ∧
    (∀ pre s post, ss = pre ++ s :: post → ∀ n e, (n, e) ∈ put s → n ≠ 0 →
      ∃ id v, c.idOf? 0 = some id ∧ ∃ h ∈ pre, handled? h = some (id, .ok v)) ∧
    (∀ b, c.result? 0 = some (.error b) → ∀ n ≠ 0, putBy ss n = [] ∧
      (∀ r, c.result? n = some r → r = .error .notReady ∧
        ∀ t : RequestType, t.readResult r = .error .notReady) ∧
      ∀ call, c.calls[n]? = some call → call.phase = .cancelled ∨ CanEnd c n) := by
  have t := traced_of_run run
  have g := gated_of_run run
  refine ⟨readiness_eq g, moves_cases g, g.outbox, putBy_zero g, canPut_of_putBy_eq_nil g t,
    fun pre s post hss n e he hn => ?_, fun b hb n hn => ?_⟩
  · obtain ⟨hpre, hstep⟩ := run.before_of_split hss
    have gpre := gated_of_run hpre
    obtain ⟨id, v, h, hh, hid, hx⟩ := answered_of_ready gpre (ready_of_put gpre hstep he hn)
    refine ⟨id, v, idOf?_of_mem run ?_ hid, h, hh, hx⟩
    rw [hss]
    exact List.mem_append_left _ hh
  · have hr : c.readiness = .failed := by
      rw [readiness_eq g, hb]
      rfl
    refine ⟨putBy_of_failed g hr hn, fun r hres => ?_, fun call hc => canEnd_of_failed g t hr hn hc⟩
    cases result?_of_failed g hr hn hres
    exact ⟨rfl, fun _ => rfl⟩

/-- A request made at once goes out after the agent has been set up, or comes back unsent. -/
theorem gate_of_early_request :
    (∃ ss c, Run step? (connect .standard 1000) ss c ∧ putBy ss 1 = [.request "b" "getBio" .null] ∧
      ss.filterMap moved? = [(.pending, .ready)] ∧
      ∃ h ∈ ss, ∃ v, handled? h = some ("a", .ok v)) ∧
    (∃ ss c, Run step? (connect .standard 1000) ss c ∧ putBy ss 1 = [] ∧
      c.result? 0 = some (.error (.worker .agentNotInitialized)) ∧
      ∃ r, c.result? 1 = some r ∧ r = .error .notReady) := by
  constructor
  · have run : ∃ ss d c, Run step? (connect .standard 1000) ss d ∧ d.step? (.send 1) = some c ∧
        c.readiness = .ready ∧ c.idOf? 0 = some "a" ∧
        put ⟨d, .send 1, c⟩ = [(1, .request "b" "getBio" .null)] ∧
        putBy (ss ++ [⟨d, .send 1, c⟩]) 1 = [.request "b" "getBio" .null] :=
      ⟨_, _, _, .of_play [.call (.request "getBio" .null), .register 0 "a", .send 0,
        .deliver (.response "a" .null), .handle, .take 0, .register 1 "b"] rfl, rfl, rfl, rfl, rfl, rfl⟩
    obtain ⟨ss, d, c, run, h, hr, hid, hput, hby⟩ := run
    obtain ⟨_, hmoves, _, _, _, hafter, _⟩ := gate_of_run (run.snoc h)
    refine ⟨_, c, run.snoc h, hby, ?_, ?_⟩
    · rcases hmoves with ⟨hp, _⟩ | ⟨_, hm⟩ | ⟨hf, _⟩
      · cases hr.symm.trans hp
      · exact hm
      · cases hr.symm.trans hf
    · obtain ⟨id, v, hid', s, hs, hx⟩ := hafter ss _ [] rfl 1 _ (hput ▸ List.mem_cons_self) (by decide)
      cases hid.symm.trans hid'
      exact ⟨s, List.mem_append_left _ hs, v, hx⟩
  · have run : ∃ ss c r, Run step? (connect .standard 1000) ss c ∧
        c.result? 0 = some (.error (.worker .agentNotInitialized)) ∧ c.result? 1 = some r :=
      ⟨_, _, _, .of_play [.call (.request "getBio" .null), .register 0 "a", .send 0,
        .deliver (.error "a" .agentNotInitialized), .handle, .take 0, .dismiss 1] rfl, rfl, rfl⟩
    obtain ⟨ss, c, r, run, h0, h1⟩ := run
    obtain ⟨hnil, hres, _⟩ := (gate_of_run run).2.2.2.2.2.2 _ h0 1 (by decide)
    exact ⟨ss, c, run, hnil, h0, r, h1, (hres r h1).1⟩

end Client
end ChatBridge
