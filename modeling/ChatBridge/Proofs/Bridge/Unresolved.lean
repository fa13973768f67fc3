import ChatBridge.Proofs.Bridge.Entries

/-!
# Requests that timed out

A client remembers the ids of requests that timed out, to tell a late answer from one to a request
that never was. An id is added when its call ends with a timeout, and goes when an answer with it is
handled, or when it is the oldest and the next one needs its place. So what is remembered can be read
off the run: it is what is left of the list of all timeouts.
-/

namespace ChatBridge

def timeoutId? : CallResult → Option String
  | .error (.timeout _ id _) => some id
  | _ => none

theorem timeoutId?_of_slot {s : Slot} {r : CallResult} (h : s.result? = some r) :
    timeoutId? r = none := by
  unfold Slot.result? at h
  split at h
  · cases h
  all_goals
    cases h
    rfl

namespace Client

def timedOut? (s : Step Client Action) : Option String :=
  s.action.caller?.bind fun n =>
    if (s.before.result? n).isNone then (s.after.result? n).bind timeoutId? else none

/-- The requests that have ended with a timeout, the first to do so first. -/
def timeouts (ss : History) : List String := ss.filterMap timedOut?

/-- The two ways in which a request that timed out is forgotten. -/
inductive Forgets (id : String) (s : Step Client Action) : Prop
  | settled (x : Except Fault Json) (h : handled? s = some (id, x))
  | pushedOut (other : String) (h : timedOut? s = some other)
      (hfull : s.before.unresolved.length = Limits.unresolved)
      (hfirst : s.before.unresolved.head? = some id)

section
variable {c c' : Client} {a : Action} {n : Nat} {call : Call} {r : CallResult} {ss : History}
  {id : String}

/-! ## One step -/

@[simp] theorem unresolved_finish : (c.finish n call r).unresolved = c.unresolved := by
  unfold finish
  cases call.errand <;> cases r <;> rfl

@[simp] theorem unresolved_strikeOf : (c.strikeOf call).unresolved = c.unresolved := by
  unfold strikeOf
  cases call.id <;> rfl

theorem timeout_of_step (h : c.step? a = some c') (hr : c.result? n = none)
    (hr' : (c'.result? n).bind timeoutId? = some id) : a = .withdraw n := by
  have hch := change_of_step h n
  unfold result? at hr hr'
  generalize c.calls[n]? = x at hch hr
  generalize c'.calls[n]? = y at hch hr'
  have contra {q : CallResult} (hq : timeoutId? q = none) (hid : timeoutId? q = some id) :
      a = .withdraw n := by
    rw [hq] at hid
    cases hid
  cases hch with
  | absent => cases hr'
  | kept call _ =>
    rw [hr] at hr'
    cases hr'
  | made _ _ => cases hr'
  | dismissed call q _ _ hq =>
    obtain ⟨rfl, _⟩ | rfl := hq
    · cases hr'
    · cases hr'
  | registered _ _ _ _ _ => cases hr'
  | sent _ _ _ _ _ _ => cases hr'
  | unsent _ _ _ _ => cases hr'
  | took call q _ _ hq => exact contra (timeoutId?_of_slot hq) hr'
  | expired _ _ _ => cases hr'
  | timedOut _ _ _ _ ha _ _ _ _ => exact ha
  | late _ _ _ _ _ _ => cases hr'
  | tookLate call _ _ =>
    refine contra ?_ hr'
    cases hs : call.slot.result? with
    | none => rfl
    | some q => exact timeoutId?_of_slot hs
  | cancelled _ _ _ _ => cases hr'
  | answered call _ _ x _ _ _ _ _ =>
    have hnone : Call.result? { call with slot := .answer x } = none := hr
    rw [Option.bind_some, hnone] at hr'
    cases hr'
  | dropped call _ _ _ =>
    have hnone : Call.result? { call with slot := .dropped } = none := hr
    rw [Option.bind_some, hnone] at hr'
    cases hr'

theorem timedOut?_of_ne (h : c.step? a = some c') (ha : ∀ n, a ≠ .withdraw n) :
    timedOut? ⟨c, a, c'⟩ = none := by
  apply Option.eq_none_iff_forall_ne_some.mpr
  intro id hid
  obtain ⟨n, _, hn⟩ := Option.bind_eq_some_iff.mp hid
  by_cases hr : (c.result? n).isNone
  · rw [if_pos hr] at hn
    exact ha n (timeout_of_step h (Option.isNone_iff_eq_none.mp hr) hn)
  · rw [if_neg hr] at hn
    cases hn

inductive Filing (c : Client) (a : Action) (c' : Client) : Prop
  | timedOut (n : Nat) (kind id : String) (ha : a = .withdraw n) (hid : c.idOf? n = some id)
      (hr : c.result? n = none) (hr' : c'.result? n = some (.error (.timeout kind id c.timeout)))
      (hu : c'.unresolved = (c.remember id).unresolved)
  | settled (id : String) (x : Except Fault Json) (hh : handled? ⟨c, a, c'⟩ = some (id, x))
      (ht : timedOut? ⟨c, a, c'⟩ = none) (hent : c.entry? id = none)
      (hc : c' = { c with inbox := c.inbox.tail, unresolved := c.unresolved.erase id })
  | kept (hu : c'.unresolved = c.unresolved) (ht : timedOut? ⟨c, a, c'⟩ = none)
      (hh : ∀ id x, handled? ⟨c, a, c'⟩ = some (id, x) → (c.entry? id).isSome)

theorem filing_of_withdraw (hc : c.calls[n]? = some call) (h : c.withdraw? n call = some c') :
    Filing c (.withdraw n) c' := by
  have hn := (List.getElem?_eq_some_iff.mp hc).1
  obtain ⟨hp, id, kind, payload, hid, _, ⟨_, rfl⟩ | ⟨_, rfl⟩⟩ := withdraw?_eq_some h
  · refine .timedOut n kind id rfl ?_ ?_ ?_ ?_
    · rw [idOf?, hc]
      exact hid
    · simp [result?, hc, Call.result?, hp]
    · simp [result?, hn, Call.result?]
    · rw [unresolved_finish]
      rfl
  · refine .kept rfl ?_ fun id x hx => ?_
    · simp [timedOut?, Action.caller?, result?, hn, Call.result?]
    · cases hx

theorem filing_of_handle (h : c.step? .handle = some c') : Filing c .handle c' := by
  have ht : timedOut? ⟨c, .handle, c'⟩ = none := timedOut?_of_ne h (by simp)
  obtain ⟨_, e, rest, hi, rfl⟩ := handle?_eq_some h
  have hhand : handled? ⟨c, .handle, { c with inbox := rest }.receive e⟩ = e.answer? := by
    show c.inbox.head?.bind Envelope.answer? = e.answer?
    rw [hi]
    rfl
  cases he : e.answer? with
  | none =>
    refine .kept (receive_of_answer?_eq_none he).2.2 ht fun id x hx => ?_
    rw [hhand, he] at hx
    cases hx
  | some p =>
    obtain ⟨id, x⟩ := p
    rw [receive_of_answer?_eq_some he] at ht hhand ⊢
    cases hent : c.entry? id with
    | none =>
      rw [complete_of_no_entry (c := { c with inbox := rest }) x hent] at ht hhand ⊢
      refine .settled id x (hhand.trans he) ht hent ?_
      rw [hi]
      rfl
    | some n =>
      rw [complete_of_entry (c := { c with inbox := rest }) x hent] at ht hhand ⊢
      refine .kept rfl ht fun i y hy => ?_
      rw [hhand, he] at hy
      cases hy
      rw [hent]
      rfl

theorem filing_of_step (h : c.step? a = some c') : Filing c a c' := by
  have kept (ha : ∀ n, a ≠ .withdraw n) (hne : a ≠ .handle) (hu : c'.unresolved = c.unresolved) :
      Filing c a c' := by
    refine .kept hu (timedOut?_of_ne h ha) fun id x hx => ?_
    unfold handled? at hx
    split at hx
    · rename_i hhandle
      exact absurd hhandle hne
    · cases hx
  cases a with
  | call e =>
    refine kept (by simp) (by simp) ?_
    simp only [step?] at h
    split at h
    · cases h
    · cases h
      rfl
  | dismiss n =>
    refine kept (by simp) (by simp) ?_
    obtain ⟨call, _, h⟩ := withCall_eq_some h
    obtain ⟨_, r, _, rfl⟩ := dismiss?_eq_some h
    exact unresolved_finish
  | register n id =>
    refine kept (by simp) (by simp) ?_
    obtain ⟨call, _, h⟩ := withCall_eq_some h
    obtain ⟨_, _, rfl⟩ := register?_eq_some h
    rfl
  | send n =>
    refine kept (by simp) (by simp) ?_
    obtain ⟨call, _, h⟩ := withCall_eq_some h
    obtain ⟨_, id, kind, payload, _, _, ⟨_, rfl⟩ | ⟨_, rfl⟩⟩ := send?_eq_some h
    · rfl
    · exact unresolved_finish
  | take n =>
    refine kept (by simp) (by simp) ?_
    obtain ⟨call, _, h⟩ := withCall_eq_some h
    obtain ⟨_, r, _, rfl⟩ := take?_eq_some h
    rw [unresolved_finish, unresolved_strikeOf]
  | expire n =>
    refine kept (by simp) (by simp) ?_
    obtain ⟨call, _, h⟩ := withCall_eq_some h
    obtain ⟨_, rfl⟩ := expire?_eq_some h
    rfl
  | withdraw n =>
    obtain ⟨call, hc, h⟩ := withCall_eq_some h
    exact filing_of_withdraw hc h
  | takeLate n =>
    refine kept (by simp) (by simp) ?_
    obtain ⟨call, _, h⟩ := withCall_eq_some h
    obtain ⟨_, rfl⟩ := takeLate?_eq_some h
    exact unresolved_finish
  | cancel n =>
    refine kept (by simp) (by simp) ?_
    obtain ⟨call, _, h⟩ := withCall_eq_some h
    obtain ⟨_, _, _, rfl⟩ := cancel?_eq_some h
    exact unresolved_strikeOf
  | handle => exact filing_of_handle h
  | endListening =>
    refine kept (by simp) (by simp) ?_
    obtain ⟨_, _, _, rfl⟩ := endListening?_eq_some h
    rfl
  | deliver e =>
    refine kept (by simp) (by simp) ?_
    simp only [step?] at h
    split at h
    · cases h
      rfl
    · cases h
  | closeInbox =>
    cases h
    exact kept (by simp) (by simp) rfl
  | closeOutbox =>
    cases h
    exact kept (by simp) (by simp) rfl
  | subscribe name =>
    cases h
    exact kept (by simp) (by simp) rfl
  | unsubscribe name =>
    cases h
    exact kept (by simp) (by simp) rfl

theorem timedOut?_of_timeout {kind : String} {span : Nat} (hr : c.result? n = none)
    (hr' : c'.result? n = some (.error (.timeout kind id span))) :
    timedOut? ⟨c, .withdraw n, c'⟩ = some id := by
  simp [timedOut?, Action.caller?, hr, hr', timeoutId?]

/-! ## What is remembered -/

/-- What the run says of the ids that are remembered. -/
structure Filed (ss : History) (c : Client) : Prop where
  bounded : c.unresolved.length ≤ Limits.unresolved
  ordered : c.unresolved.Sublist (timeouts ss)
  once : (timeouts ss).Nodup
  ended : ∀ {id : String}, id ∈ timeouts ss →
    ∃ n kind span, c.idOf? n = some id ∧ c.result? n = some (.error (.timeout kind id span))

theorem timeouts_snoc (s : Step Client Action) :
    timeouts (ss ++ [s]) = timeouts ss ++ (timedOut? s).toList :=
  filterMap_snoc timedOut? ss s

theorem Filed.nodup (f : Filed ss c) : c.unresolved.Nodup := f.ordered.nodup f.once

theorem remember_sublist : (c.remember id).unresolved.Sublist (c.unresolved ++ [id]) := by
  apply List.Sublist.append_right
  by_cases hfull : Limits.unresolved ≤ c.unresolved.length
  · rw [if_pos hfull]
    exact List.tail_sublist _
  · rw [if_neg hfull]

theorem length_remember (h : c.unresolved.length ≤ Limits.unresolved) :
    (c.remember id).unresolved.length ≤ Limits.unresolved := by
  have hpos : 0 < Limits.unresolved := by decide
  simp only [remember, List.length_append, List.length_singleton]
  by_cases hfull : Limits.unresolved ≤ c.unresolved.length
  · rw [if_pos hfull, List.length_tail]
    omega
  · rw [if_neg hfull]
    omega

theorem idOf?_inj {m : Nat} (t : Table c.calls c.pending) (hm : c.idOf? m = some id)
    (hn : c.idOf? n = some id) : m = n := by
  obtain ⟨cm, hcm, hmid⟩ := Option.bind_eq_some_iff.mp hm
  obtain ⟨cn, hcn, hnid⟩ := Option.bind_eq_some_iff.mp hn
  exact t.distinct hcm hmid hcn hnid

theorem phase_of_result? (hc : c.calls[n]? = some call) (hr : c.result? n = some r) :
    call.phase = .finished r := by
  rw [result?, hc, Option.bind_some, Call.result?] at hr
  split at hr
  · rename_i q hp
    rw [hp, Option.some.inj hr]
  · cases hr

theorem Filed.not_mem_timeouts (f : Filed ss c) (t : Table c.calls c.pending)
    (hid : c.idOf? n = some id) (hr : c.result? n = none) : id ∉ timeouts ss := by
  intro hmem
  obtain ⟨m, kind, span, hm, hend⟩ := f.ended hmem
  obtain rfl := idOf?_inj t hid hm
  cases hr.symm.trans hend

section
variable (f : Filed ss c) (t : Table c.calls c.pending) (h : c.step? a = some c')
include f t h

theorem Filed.ended_step (hmem : id ∈ timeouts ss) : ∃ n kind span, c'.idOf? n = some id ∧
    c'.result? n = some (.error (.timeout kind id span)) := by
  obtain ⟨n, kind, span, hid, hr⟩ := f.ended hmem
  exact ⟨n, kind, span, idOf?_step t h hid, result?_step h hr⟩

theorem Filed.step_of_none (ht : timedOut? ⟨c, a, c'⟩ = none)
    (hsub : c'.unresolved.Sublist c.unresolved) : Filed (ss ++ [⟨c, a, c'⟩]) c' := by
  have hsame : timeouts (ss ++ [⟨c, a, c'⟩]) = timeouts ss := by
    rw [timeouts_snoc, ht]
    exact List.append_nil _
  constructor
  · exact hsub.length_le.trans f.bounded
  · rw [hsame]
    exact hsub.trans f.ordered
  · rw [hsame]
    exact f.once
  · intro id hid
    rw [hsame] at hid
    exact f.ended_step t h hid

theorem Filed.step : Filed (ss ++ [⟨c, a, c'⟩]) c' := by
  cases filing_of_step h with
  | timedOut n kind id ha hid hr hr' hu =>
    subst ha
    have hnew : timeouts (ss ++ [⟨c, .withdraw n, c'⟩]) = timeouts ss ++ [id] := by
      rw [timeouts_snoc, timedOut?_of_timeout hr hr']
      rfl
    constructor
    · rw [hu]
      exact length_remember f.bounded
    · rw [hu, hnew]
      exact remember_sublist.trans (f.ordered.append_right [id])
    · rw [hnew, ← List.concat_eq_append]
      exact f.once.concat (f.not_mem_timeouts t hid hr)
    · intro i hi
      rw [hnew, List.mem_append, List.mem_singleton] at hi
      obtain hi | rfl := hi
      · exact f.ended_step t h hi
      · exact ⟨n, kind, _, idOf?_step t h hid, hr'⟩
  | settled id x hh ht hent hc =>
    apply f.step_of_none t h ht
    rw [hc]
    exact List.erase_sublist
  | kept hu ht hh =>
    apply f.step_of_none t h ht
    rw [hu]

end

section
variable {config : AgentConfig} {timeout : Nat} (run : Run step? (connect config timeout) ss c)
include run

theorem filed_of_run : Filed ss c := by
  induction run with
  | nil => exact ⟨Nat.zero_le _, List.Sublist.refl _, List.nodup_nil, nofun⟩
  | snoc run h ih => exact ih.step (traced_of_run run).table h

theorem mem_timeouts_of_result? {kind : String} {span : Nat}
    (hr : c.result? n = some (.error (.timeout kind id span))) : id ∈ timeouts ss := by
  induction run with
  | nil =>
    cases n with
    | zero => cases hr
    | succ n => cases hr
  | @snoc ss d a d' run h ih =>
    rw [timeouts_snoc, List.mem_append]
    by_cases hd : d.result? n = none
    · have ha : a = .withdraw n := timeout_of_step h hd (by rw [hr]; rfl)
      subst ha
      rw [timedOut?_of_timeout hd hr]
      exact .inr (List.mem_singleton.mpr rfl)
    · obtain ⟨q, hq⟩ := Option.ne_none_iff_exists'.mp hd
      have hstays := result?_step h hq
      rw [hr] at hstays
      cases hstays
      exact .inl (ih hq)

theorem not_pending_of_timeouts (hmem : id ∈ timeouts ss) : id ∉ c.pending.map Prod.fst := by
  intro hpend
  obtain ⟨⟨i, m⟩, hentry, rfl⟩ := List.mem_map.mp hpend
  have t := (traced_of_run run).table
  obtain ⟨call, hc, hcid, hopen, _⟩ := t.entries.mp hentry
  obtain ⟨n, kind, span, hid, hr⟩ := (filed_of_run run).ended hmem
  have hm : c.idOf? m = some i := by
    rw [idOf?, hc]
    exact hcid
  obtain rfl := idOf?_inj t hm hid
  rw [phase_of_result? hc hr] at hopen
  cases hopen

end

/-! ## What is forgotten -/

theorem mem_remember (f : Filed ss c) {other : String} (hne : id ≠ other) :
    id ∈ (c.remember other).unresolved ↔ id ∈ c.unresolved ∧
      ¬ (c.unresolved.length = Limits.unresolved ∧ c.unresolved.head? = some id) := by
  have hlast : id ∈ (c.remember other).unresolved ↔
      id ∈ (if Limits.unresolved ≤ c.unresolved.length then c.unresolved.tail else c.unresolved) := by
    simp [remember, hne]
  rw [hlast]
  have hnodup := f.nodup
  by_cases hfull : Limits.unresolved ≤ c.unresolved.length
  · have heq : c.unresolved.length = Limits.unresolved := Nat.le_antisymm f.bounded hfull
    rw [if_pos hfull]
    cases hu : c.unresolved with
    | nil => simp
    | cons first rest =>
      rw [hu] at heq hnodup
      have hfirst : first ∉ rest := (List.nodup_cons.mp hnodup).1
      constructor
      · intro hmem
        refine ⟨List.mem_cons_of_mem _ hmem, ?_⟩
        rintro ⟨_, hhead⟩
        cases hhead
        exact hfirst hmem
      · rintro ⟨hmem, hnot⟩
        obtain rfl | hmem := List.mem_cons.mp hmem
        · exact absurd ⟨heq, rfl⟩ hnot
        · exact hmem
  · rw [if_neg hfull]
    have hlt : c.unresolved.length ≠ Limits.unresolved := by omega
    simp [hlt]

section
variable (f : Filed ss c) (t : Table c.calls c.pending) (h : c.step? a = some c')
include f t h

theorem mem_unresolved_step (hmem : id ∈ timeouts ss) (hno : id ∉ c.pending.map Prod.fst) :
    id ∈ c'.unresolved ↔ id ∈ c.unresolved ∧ ¬ Forgets id ⟨c, a, c'⟩ := by
  cases filing_of_step h with
  | timedOut n kind other ha hid hr hr' hu =>
    subst ha
    have hne : id ≠ other := by
      rintro rfl
      exact f.not_mem_timeouts t hid hr hmem
    have hforgets : Forgets id ⟨c, .withdraw n, c'⟩ ↔
        c.unresolved.length = Limits.unresolved ∧ c.unresolved.head? = some id := by
      constructor
      · intro hf
        cases hf with
        | settled x hx => cases hx
        | pushedOut _ _ hfull hfirst => exact ⟨hfull, hfirst⟩
      · rintro ⟨hfull, hfirst⟩
        exact .pushedOut other (timedOut?_of_timeout hr hr') hfull hfirst
    rw [hu, mem_remember f hne, hforgets]
  | settled other x hh ht hent hc =>
    have hforgets : Forgets id ⟨c, a, c'⟩ ↔ id = other := by
      constructor
      · intro hf
        cases hf with
        | settled y hy =>
          cases hh.symm.trans hy
          rfl
        | pushedOut _ hout _ _ => cases ht.symm.trans hout
      · rintro rfl
        exact .settled x hh
    rw [hforgets, hc, f.nodup.mem_erase_iff, and_comm]
  | kept hu ht hh =>
    have hforgets : ¬ Forgets id ⟨c, a, c'⟩ := by
      intro hf
      cases hf with
      | settled x hx =>
        obtain ⟨n, hn⟩ := Option.isSome_iff_exists.mp (hh id x hx)
        exact hno (List.mem_map.mpr ⟨_, t.lookup.mp hn, rfl⟩)
      | pushedOut _ hout _ _ => cases ht.symm.trans hout
    simp [hu, hforgets]

end

section
variable {config : AgentConfig} {timeout : Nat} (run : Run step? (connect config timeout) ss c)
include run

theorem mem_unresolved_of_split {pre post : History} {s : Step Client Action}
    (hss : ss = pre ++ s :: post) (hs : timedOut? s = some id) :
    id ∈ c.unresolved ↔ ∀ x ∈ post, ¬ Forgets id x := by
  -- the last step of the run is the timeout itself, or it comes behind it
  induction run generalizing post with
  | nil => simp at hss
  | @snoc ss d a d' run h ih =>
    have f := filed_of_run run
    have t := (traced_of_run run).table
    rcases List.eq_nil_or_concat post with rfl | ⟨post, y, rfl⟩
    · obtain ⟨_, hlast⟩ := List.append_inj' hss rfl
      cases hlast
      have hmem : id ∈ d'.unresolved := by
        cases filing_of_step h with
        | timedOut n kind other ha hid hr hr' hu =>
          subst ha
          cases (timedOut?_of_timeout hr hr').symm.trans hs
          rw [hu]
          exact List.mem_append_right _ (List.mem_singleton.mpr rfl)
        | settled other x _ ht _ _ => cases ht.symm.trans hs
        | kept _ ht _ => cases ht.symm.trans hs
      simp [hmem]
    · rw [List.concat_eq_append, ← List.cons_append, ← List.append_assoc] at hss
      obtain ⟨hsplit, hy⟩ := List.append_inj' hss rfl
      cases hy
      have hmem : id ∈ timeouts ss :=
        List.mem_filterMap.mpr ⟨s, by simp [hsplit], hs⟩
      rw [mem_unresolved_step f t h hmem (not_pending_of_timeouts run hmem), ih hsplit]
      simp [or_imp, forall_and]

/-- A reply that nobody waits for takes its own id off, if that is remembered, and nothing else. -/
theorem after_of_unexpected {s : Step Client Action} {x : Except Fault Json} (hs : s ∈ ss)
    (hx : handled? s = some (id, x)) (hno : id ∉ s.before.pending.map Prod.fst) :
    s.after = { s.before with
      inbox := s.before.inbox.tail
      unresolved := s.before.unresolved.filter (· ≠ id) } := by
  obtain ⟨pre, hpre, hstep⟩ := run.before_of_mem hs
  obtain ⟨d, a, d'⟩ := s
  cases filing_of_step hstep with
  | timedOut n kind other ha _ _ _ _ =>
    cases (show a = .withdraw n from ha)
    cases hx
  | settled other y hh _ _ hc =>
    cases hh.symm.trans hx
    have hrest : d.unresolved.erase id = d.unresolved.filter (· ≠ id) := by
      rw [(filed_of_run hpre).nodup.erase_eq_filter]
      apply List.filter_congr
      intro y _
      by_cases hy : y = id
      · simp [hy]
      · simp [hy]
    rw [hrest] at hc
    exact hc
  | kept _ _ hh =>
    obtain ⟨n, hn⟩ := Option.isSome_iff_exists.mp (hh id x hx)
    have hentry := (traced_of_run hpre).table.lookup.mp hn
    exact absurd (List.mem_map.mpr ⟨_, hentry, rfl⟩) hno

theorem phase_of_unresolved {s : Step Client Action} (hs : s ∈ ss) (hmem : id ∈ s.after.unresolved)
    (hc : c.calls[n]? = some call) (hid : call.id = some id) :
    ∃ kind span, call.phase = .finished (.error (.timeout kind id span)) := by
  obtain ⟨pre, post, rfl⟩ := List.append_of_mem hs
  obtain ⟨hpre, hstep⟩ := run.before_of_split rfl
  have hold : id ∈ timeouts (pre ++ [s]) := (filed_of_run (hpre.snoc hstep)).ordered.subset hmem
  have hout : id ∈ timeouts (pre ++ s :: post) := by
    rw [show pre ++ s :: post = (pre ++ [s]) ++ post by simp, timeouts, List.filterMap_append]
    exact List.mem_append_left _ hold
  obtain ⟨m, kind, span, hm, hr⟩ := (filed_of_run run).ended hout
  have hn : c.idOf? n = some id := by
    rw [idOf?, hc]
    exact hid
  obtain rfl := idOf?_inj (traced_of_run run).table hn hm
  exact ⟨kind, span, phase_of_result? hc hr⟩

end

end

/-! ## Main statement -/

/-- The ids that a client remembers are those of requests that ended with a timeout, each once and in
that order, and at most as many as there is room for. Such an id is missing only if a reply with it
has been handled since, or if it was the oldest when another timeout found no room. A reply that
nobody waits for takes off its own id and changes nothing else, and no call with another end has ever
been remembered. -/
theorem unresolved_of_run {config : AgentConfig} {timeout : Nat} {ss : History} {c : Client}
    (run : Run step? (connect config timeout) ss c) :
    c.unresolved.length ≤ Limits.unresolved ∧ c.unresolved.Nodup ∧
    (∀ id ∈ c.unresolved, id ∉ c.pending.map Prod.fst) ∧
    c.unresolved.Sublist (timeouts ss) ∧ (timeouts ss).Nodup ∧
    (∀ id, id ∈ timeouts ss ↔
      ∃ n kind span, c.result? n = some (.error (.timeout kind id span))) ∧
    (∀ pre s post id, ss = pre ++ s :: post → timedOut? s = some id →
      (id ∉ c.unresolved ↔ ∃ x ∈ post, Forgets id x)) ∧
    (∀ s ∈ ss, ∀ id x, handled? s = some (id, x) → id ∉ s.before.pending.map Prod.fst →
      s.after = { s.before with
        inbox := s.before.inbox.tail
        unresolved := s.before.unresolved.filter (· ≠ id) }) ∧
    (∀ (n : Nat) (call : Call) id, c.calls[n]? = some call → call.id = some id →
      (∀ kind span, call.phase ≠ .finished (.error (.timeout kind id span))) →
      ∀ s ∈ ss, id ∉ s.after.unresolved) := by
  have f := filed_of_run run
  refine ⟨f.bounded, f.nodup, fun id hmem => ?_, f.ordered, f.once, fun id => ?_,
    fun pre s post id hss hs => ?_, fun s hs id x => after_of_unexpected run hs,
    fun n call id hc hid hend s hs hmem => ?_⟩
  · exact not_pending_of_timeouts run (f.ordered.subset hmem)
  · constructor
    · intro hmem
      obtain ⟨n, kind, span, _, hr⟩ := f.ended hmem
      exact ⟨n, kind, span, hr⟩
    · rintro ⟨n, kind, span, hr⟩
      exact mem_timeouts_of_result? run hr
  · rw [mem_unresolved_of_split run hss hs]
    simp
  · obtain ⟨kind, span, hp⟩ := phase_of_unresolved run hs hmem hc hid
    exact hend kind span hp

/-- Of three requests two time out, and the answer to the first of these comes late. -/
theorem unresolved_of_late_reply :
    ∃ pre s post c, Run step? (connect .standard 1000) (pre ++ s :: post) c ∧
      timedOut? s = some "b" ∧ timeouts (pre ++ s :: post) = ["b", "c"] ∧ c.unresolved = ["c"] ∧
      (∃ x ∈ post, Forgets "b" x) ∧ ∀ x ∈ pre ++ s :: post, "a" ∉ x.after.unresolved := by
  have run : ∃ ss c call, Run step? (connect .standard 1000) ss c ∧ timeouts ss = ["b", "c"] ∧
      c.unresolved = ["c"] ∧ c.calls[0]? = some call ∧ call.id = some "a" ∧
      call.phase = .finished (.ok .null) := by
    refine ⟨_, _, _, .of_play [.register 0 "a", .send 0, .deliver (.response "a" .null), .handle,
      .take 0, .call (.request "x" .null), .call (.request "y" .null), .register 1 "b",
      .register 2 "c", .send 1, .send 2, .expire 1, .withdraw 1, .expire 2, .withdraw 2,
      .deliver (.response "b" .null), .handle] rfl, rfl, rfl, rfl, rfl, rfl⟩
  obtain ⟨ss, c, call, run, hout, hu, hc, hid, hp⟩ := run
  have hmem : "b" ∈ timeouts ss := by simp [hout]
  obtain ⟨s, hs, hb⟩ := List.mem_filterMap.mp hmem
  obtain ⟨pre, post, rfl⟩ := List.append_of_mem hs
  obtain ⟨_, _, _, _, _, _, hforgets, _, hnever⟩ := unresolved_of_run run
  refine ⟨pre, s, post, c, run, hb, hout, hu, ?_, hnever 0 call "a" hc hid (by simp [hp])⟩
  exact (hforgets pre s post "b" rfl hb).mp (by simp [hu])

end Client
end ChatBridge
