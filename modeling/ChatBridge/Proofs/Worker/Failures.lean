import ChatBridge.Proofs.Agent.Restraint
import ChatBridge.Proofs.Worker.LookUps

/-!
# Tasks that fail

A task is followed through a run, from the step that starts it to the one that ends it. If it ends with
an error, then at each of its steps it could still fail, and so none of them did more than look for the
canister, wait at the gate to it, read the cache or make a call.
-/

namespace ChatBridge

namespace Worker

/-! ## The steps of a task -/

def Turn.task? : Turn → Option Nat
  | .act (.run n) => some n
  | .act (.endCall n _) => some n
  | _ => none

def ofTask (o : Option Nat) (s : Step Worker Turn) : Bool :=
  s.action.task?.isSome && s.action.task? == o

def stepsOf (o : Option Nat) (ss : History) : History := ss.filter (ofTask o)

def toldTo (o : Option Nat) (ss : History) : List Told := (stepsOf o ss).filterMap toldBy?

def sets? (s : Step Worker Turn) : Option String :=
  (stepper? s).bind fun (_, t) =>
    match t.program with
    | .setUserCanister c _ => some c
    | _ => none

def made (s : Step Worker Turn) : List ServiceCall := s.after.calls.drop s.before.calls.length

/-- What all requests share is left alone, except for the canister and the gates. -/
structure Spares (w w' : Worker) : Prop where
  events : w'.events = w.events
  disk : w'.disk = w.disk
  whose : w'.whose = w.whose
  cache : w'.agent.map (·.cache) = w.agent.map (·.cache)

variable {w w' w₀ : Worker} {x : Turn} {n : Nat} {t t₀ : Task} {g : Agent} {ss : History}
  {s : Step Worker Turn} {e : CallEnd}

theorem ofTask_eq_true {o : Option Nat} :
    ofTask o s = true ↔ ∃ n, o = some n ∧ s.action.task? = some n := by
  unfold ofTask
  cases s.action.task? with
  | none => simp
  | some m =>
    rw [Option.isSome_some, Bool.true_and, beq_iff_eq]
    constructor
    · exact fun h => ⟨m, h.symm, rfl⟩
    · rintro ⟨n, rfl, h⟩
      exact h

theorem stepsOf_snoc (o : Option Nat) (ss : History) (s : Step Worker Turn) :
    stepsOf o (ss ++ [s]) = stepsOf o ss ++ if ofTask o s then [s] else [] := by
  unfold stepsOf
  rw [List.filter_append, List.filter_singleton]
  cases ofTask o s <;> rfl

theorem toldTo_of_other {o : Option Nat} (h : ofTask o s = false) :
    toldTo o (ss ++ [s]) = toldTo o ss := by
  rw [toldTo, stepsOf_snoc, h, if_neg Bool.false_ne_true, List.append_nil, toldTo]

theorem toldTo_of_own {o : Option Nat} (h : ofTask o s = true) :
    toldTo o (ss ++ [s]) = toldTo o ss ++ (toldBy? s).toList := by
  rw [toldTo, stepsOf_snoc, h, if_pos rfl, filterMap_snoc, toldTo]

/-! ## What a step leaves of a task -/

theorem task?_spawn_of_lt {config : AgentConfig} {id : String} {c : Capability} {payload : Json}
    (h : n < w.nextTask) : (w.spawn config id c payload).task? n = w.task? n := by
  have hb : (w.nextTask == n) = false := beq_eq_false_iff_ne.mpr (by omega)
  unfold task? spawn
  simp [List.find?_append, hb]

theorem task?_of_other (h : w.react? x = some w') (hx : x.task? ≠ some n) (hn : n < w.nextTask) :
    n < w'.nextTask ∧ (w'.task? n = w.task? n ∨ w'.task? n = none) := by
  have kept (ht : w'.tasks = w.tasks) (hw : w'.nextTask = w.nextTask) :
      n < w'.nextTask ∧ (w'.task? n = w.task? n ∨ w'.task? n = none) :=
    ⟨hw ▸ hn, .inl (task?_of_tasks ht n)⟩
  cases x with
  | deliver e => cases h; exact kept rfl rfl
  | collect =>
    unfold react? at h
    dsimp only at h
    split at h
    · cases h
    · cases h; exact kept rfl rfl
  | act a =>
    cases a with
    | receive =>
      obtain ⟨_, _, e, rest, _, rfl⟩ := receive?_eq_some h
      cases e with
      | request id kind payload =>
        have hh := handled { w with inbox := rest } id kind payload
        generalize ({ w with inbox := rest } : Worker).handle (.request id kind payload) = w' at hh kept
        cases hh with
        | spawned c a _ _ _ => exact ⟨Nat.lt_succ_of_lt hn, .inl (task?_spawn_of_lt hn)⟩
        | begun _ _ _ _ => exact kept rfl rfl
        | unknown _ _ => exact kept rfl rfl
        | _ => exact kept (tasks_post _ _) (nextTask_post _ _)
      | _ => exact kept rfl rfl
    | provide p =>
      obtain ⟨id, config, _, rfl⟩ := provide_eq_some h
      obtain ⟨_, ht, hw, _⟩ := @endSetUp_kept w id config p
      exact kept ht hw
    | run m =>
      obtain ⟨g, t, hg, ht, h⟩ := withTask_eq_some h
      have hm := moves_of_run? hg ht h
      have hne : n ≠ _ := fun hnm => hx (congrArg some hnm.symm)
      exact ⟨hm.nextTask ▸ hn, .inl ((hm.tasks n).trans (if_neg hne))⟩
    | endCall m e =>
      obtain ⟨g, t, hg, ht, h⟩ := withTask_eq_some h
      obtain ⟨_, _, _, _, ⟨_, _, hm⟩ | ⟨_, hm⟩⟩ := moves_of_endCall? hg ht h
      · exact ⟨hm.nextTask ▸ hn,
          .inl ((hm.tasks n).trans (if_neg fun hnm => hx (congrArg some hnm.symm)))⟩
      · exact ⟨hm.nextTask ▸ hn,
          .inl ((hm.tasks n).trans (if_neg fun hnm => hx (congrArg some hnm.symm)))⟩
    | forward =>
      obtain ⟨w₁, _, hq, _, rfl⟩ := forward?_eq_some h
      exact kept hq.tasks hq.nextTask
    | stop =>
      simp only [react?, step?] at h
      split at h
      · cases h; exact kept rfl rfl
      · cases h
    | abandon => cases h; exact kept rfl rfl
    | halt => cases h; exact ⟨hn, .inr rfl⟩

theorem stepper_of_react (h : w.react? x = some w') (hx : x.task? = some n) :
    ∃ g t, w.agent = some g ∧ w.task? n = some t ∧ ((x = .act (.run n) ∧ w.run? g t = some w') ∨
      ∃ e, x = .act (.endCall n e) ∧ w.endCall? g t e = some w') := by
  unfold Turn.task? at hx
  split at hx
  · cases hx
    obtain ⟨g, t, hg, ht, h⟩ := withTask_eq_some h
    exact ⟨g, t, hg, ht, .inl ⟨rfl, h⟩⟩
  · rename_i e
    cases hx
    obtain ⟨g, t, hg, ht, h⟩ := withTask_eq_some h
    exact ⟨g, t, hg, ht, .inr ⟨e, rfl, h⟩⟩
  · cases hx

inductive Own (s : Step Worker Turn) (n : Nat) (t : Task) : Prop
  | goesOn (u : Task) (ht : s.after.task? n = some u) (hid : u.correlationId = t.correlationId)
      (hk : u.kind = t.kind) (hp : t.program.follow (toldBy? s).toList = some u.program)
      (hr : repliesOf s = [])
  | returned (r : Except Fault Json) (ht : s.after.task? n = none) (hp : t.program.Returns [] r)
      (hn : toldBy? s = none)
      (hr : repliesOf s = if s.before.abandoned then [] else [.answering t.correlationId r])
  | crashed (c : ServiceCall) (next : Except ServiceFailure Json → Program Json)
      (ht : s.after.task? n = none) (hp : t.program = .call c next)
      (hr : repliesOf s = if s.before.abandoned then [] else
        [.error t.correlationId (.internal (t.kind ++ " handler panicked"))])

theorem own_of_task? (h : w.react? x = some w') (hx : x.task? = some n) (ht : w.task? n = some t) :
    w'.nextTask = w.nextTask ∧ Own ⟨w, x, w'⟩ n t := by
  obtain ⟨g, t', hg, ht', hstep⟩ := stepper_of_react h hx
  cases ht.symm.trans ht'
  have gone {w₁ : Worker} (hq : Quiet w w₁) (a : Envelope) : (w₁.finish t a).task? n = none := by
    rw [task?_finish, number_of_task? ht, if_pos rfl]
  have put {w₁ : Worker} {u : Task} (hq : Quiet w w₁) (hn : u.number = t.number) :
      (w₁.setTask u).task? n = some u := (task?_put hq.tasks ht hn n).trans (if_pos rfl)
  have posts {w₁ : Worker} (hq : Quiet w w₁) (a : Envelope) :
      (w₁.finish t a).outbox = w.outbox ++ if w.abandoned then [] else [a] := by
    rw [← hq.outbox, ← hq.abandoned]
    exact outbox_post _ _
  rcases hstep with ⟨rfl, hrun⟩ | ⟨e, rfl, hend⟩
  · have htold : toldBy? ⟨w, .act (.run n), w'⟩ = t.told? g := by
      simp only [toldBy?, hg, ht, Option.bind_some]
    cases ran_of_run? hg hrun with
    | ended r hr =>
      exact ⟨nextTask_post _ _, .returned r (gone (.refl w) _) hr
        (htold.trans (Ledger.told?_of_returns hr)) (repliesOf_of_post (posts (.refl w) _) (by simp))⟩
    | waits w₁ p hq hnone =>
      refine ⟨hq.nextTask, .goesOn { t with phase := p } (put hq rfl) rfl rfl ?_
        (repliesOf_of_outbox hq.outbox)⟩
      rw [htold, hnone]
      rfl
    | goesOn w₁ y p hq hy hp =>
      refine ⟨hq.nextTask, .goesOn { t with program := p, phase := .running } (put hq rfl) rfl rfl ?_
        (repliesOf_of_outbox hq.outbox)⟩
      rw [htold, hy]
      show (t.program.next? y).bind _ = _
      rw [hp]
      rfl
  · obtain ⟨c, next, hpr, _⟩ := moves_of_endCall? hg ht hend
    rcases endCall?_eq_some hg hend with ⟨r, p, rfl, hp, rfl⟩ | ⟨rfl, w₁, hq, rfl⟩
    · refine ⟨rfl, .goesOn { t with program := p, phase := .running } (put (.refl w) rfl) rfl rfl ?_
        (repliesOf_of_outbox rfl)⟩
      show (t.program.next? _).bind _ = _
      rw [hp]
      rfl
    · exact ⟨(nextTask_post _ _).trans hq.nextTask, .crashed c next (gone hq _) hpr
        (repliesOf_of_post (posts hq _) rfl)⟩

/-! ## From the first step of a task to its last -/

/-- At each of its steps so far the task could still fail. -/
def Unsettled (n : Nat) (ss : History) : Prop :=
  ∀ s ∈ stepsOf (some n) ss, ∀ t, s.before.task? n = some t → ¬ t.program.Assured

/-- How the task `t₀` has gone on, whose number is `n`. -/
structure Followed (n : Nat) (t₀ : Task) (ss : History) (w : Worker) : Prop where
  fresh : n < w.nextTask
  task : ∀ t, w.task? n = some t → t.correlationId = t₀.correlationId ∧ t.kind = t₀.kind ∧
    t₀.program.follow (toldTo (some n) ss) = some t.program
  unsettled : ∀ t, w.task? n = some t → ¬ t.program.Assured → Unsettled n ss
  failed : ∀ id f, .error id f ∈ (stepsOf (some n) ss).flatMap repliesOf →
    Unsettled n ss ∧ w.task? n = none ∧ id = t₀.correlationId ∧
      (t₀.program.Returns (toldTo (some n) ss) (.error f) ∨
        f = .internal (t₀.kind ++ " handler panicked"))

theorem followed_start (hn : n < w.nextTask) (ht : w.task? n = some t) : Followed n t [] w where
  fresh := hn
  task u hu := by
    cases ht.symm.trans hu
    exact ⟨rfl, rfl, rfl⟩
  unsettled _ _ _ _ hs := absurd hs List.not_mem_nil
  failed _ _ hr := absurd hr List.not_mem_nil

theorem Unsettled.snoc (h : Unsettled n ss)
    (hs : ∀ t, s.before.task? n = some t → ¬ t.program.Assured) : Unsettled n (ss ++ [s]) := by
  intro s' hs'
  rw [stepsOf_snoc] at hs'
  rcases List.mem_append.mp hs' with hs' | hs'
  · exact h s' hs'
  · split at hs'
    · cases List.mem_singleton.mp hs'
      exact hs
    · cases hs'

theorem Followed.other (f : Followed n t₀ ss w) (h : w.react? x = some w')
    (hx : ofTask (some n) ⟨w, x, w'⟩ = false) : Followed n t₀ (ss ++ [⟨w, x, w'⟩]) w' := by
  have hne : x.task? ≠ some n := fun he => by
    rw [ofTask_eq_true.mpr ⟨n, rfl, he⟩] at hx
    cases hx
  have hsteps : stepsOf (some n) (ss ++ [⟨w, x, w'⟩]) = stepsOf (some n) ss := by
    rw [stepsOf_snoc, hx, if_neg Bool.false_ne_true, List.append_nil]
  obtain ⟨hlt, hsame⟩ := task?_of_other h hne f.fresh
  have htask {t : Task} (ht : w'.task? n = some t) : w.task? n = some t := by
    rcases hsame with hsame | hnone
    · exact hsame ▸ ht
    · cases hnone.symm.trans ht
  refine ⟨hlt, fun t ht => ?_, fun t ht hn => ?_, fun id f' hr => ?_⟩
  · rw [toldTo_of_other hx]
    exact f.task t (htask ht)
  · rw [Unsettled, hsteps]
    exact f.unsettled t (htask ht) hn
  · rw [hsteps] at hr
    obtain ⟨hu, hnone, hid, hf⟩ := f.failed id f' hr
    rw [Unsettled, hsteps, toldTo_of_other hx]
    exact ⟨hu, hsame.elim (fun hs => hs.trans hnone) fun hn => hn, hid, hf⟩

theorem Followed.own (f : Followed n t₀ ss w) (h : w.react? x = some w')
    (hx : ofTask (some n) ⟨w, x, w'⟩ = true) : Followed n t₀ (ss ++ [⟨w, x, w'⟩]) w' := by
  obtain ⟨_, hn, hx'⟩ := ofTask_eq_true.mp hx
  cases hn
  obtain ⟨_, t, _, ht, _⟩ := stepper_of_react h hx'
  obtain ⟨hnext, ho⟩ := own_of_task? h hx' ht
  obtain ⟨hid, hk, hfollow⟩ := f.task t ht
  have hsteps : stepsOf (some n) (ss ++ [⟨w, x, w'⟩]) = stepsOf (some n) ss ++ [⟨w, x, w'⟩] := by
    rw [stepsOf_snoc, hx, if_pos rfl]
  have unsettled (hp : ¬ t.program.Assured) : Unsettled n (ss ++ [⟨w, x, w'⟩]) := by
    refine (f.unsettled t ht hp).snoc fun t' ht' => ?_
    cases ht.symm.trans ht'
    exact hp
  have earlier {id : String} {f' : Fault} : .error id f' ∉ (stepsOf (some n) ss).flatMap repliesOf :=
    fun hr => by cases (f.failed id f' hr).2.1.symm.trans ht
  have last {id : String} {f' : Fault}
      (hr : .error id f' ∈ (stepsOf (some n) (ss ++ [⟨w, x, w'⟩])).flatMap repliesOf) :
      .error id f' ∈ repliesOf ⟨w, x, w'⟩ := by
    rw [hsteps, List.flatMap_append, List.flatMap_singleton] at hr
    exact (List.mem_append.mp hr).resolve_left earlier
  have posted {id : String} {f' : Fault} {a : Envelope}
      (hr : .error id f' ∈ if w.abandoned then [] else [a]) : .error id f' = a := by
    split at hr
    · cases hr
    · exact List.mem_singleton.mp hr
  have hlt : n < w'.nextTask := hnext ▸ f.fresh
  cases ho with
  | goesOn u hu hid' hk' hp hr =>
    refine ⟨hlt, fun u' hu' => ?_, fun u' hu' hn => ?_, fun id f' he => ?_⟩
    · cases hu.symm.trans hu'
      refine ⟨hid'.trans hid, hk'.trans hk, ?_⟩
      rw [toldTo_of_own hx, Program.follow_append, hfollow]
      exact hp
    · cases hu.symm.trans hu'
      exact unsettled fun ha => hn (ha.follow hp)
    · have hmem := last he
      rw [hr] at hmem
      cases hmem
  | returned r hnone hp htold hr =>
    have gone {P : Prop} {u : Task} (hu : w'.task? n = some u) : P := by cases hnone.symm.trans hu
    refine ⟨hlt, fun u hu => gone hu, fun u hu => gone hu, fun id f' he => ?_⟩
    have hmem := last he
    rw [hr] at hmem
    cases r with
    | ok v => cases posted hmem
    | error e =>
      cases posted hmem
      have hfail : t.program = .fail f' := Option.some.inj hp
      refine ⟨unsettled (hfail ▸ Program.Assured.not_fail), hnone, hid, .inl ?_⟩
      show t₀.program.follow _ = _
      rw [toldTo_of_own hx, htold, Option.toList_none, List.append_nil, hfollow, hfail]
  | crashed c next hnone hp hr =>
    have gone {P : Prop} {u : Task} (hu : w'.task? n = some u) : P := by cases hnone.symm.trans hu
    refine ⟨hlt, fun u hu => gone hu, fun u hu => gone hu, fun id f' he => ?_⟩
    have hmem := last he
    rw [hr] at hmem
    cases posted hmem
    exact ⟨unsettled (hp ▸ Program.Assured.not_call), hnone, hid, .inr (by rw [hk])⟩

theorem followed_of_run (run : Run react? w₀ ss w) (hn : n < w₀.nextTask) (ht : w₀.task? n = some t₀) :
    Followed n t₀ ss w := by
  induction run with
  | nil => exact followed_start hn ht
  | @snoc ss w x w' run h ih =>
    cases hx : ofTask (some n) ⟨w, x, w'⟩ with
    | true => exact ih.own h hx
    | false => exact ih.other h hx

/-! ## What a step leaves alone -/

theorem Spares.refl (w : Worker) : Spares w w := ⟨rfl, rfl, rfl, rfl⟩

theorem Spares.setTask {w₁ : Worker} (h : Spares w w₁) (u : Task) : Spares w (w₁.setTask u) :=
  ⟨h.events, h.disk, h.whose, h.cache⟩

theorem Spares.finish {w₁ : Worker} (h : Spares w w₁) (t : Task) (a : Envelope) :
    Spares w (w₁.finish t a) where
  events := (events_post _ _).trans h.events
  disk := (disk_post _ _).trans h.disk
  whose := (whose_of_agent (agent_finish a)).trans h.whose
  cache := (congrArg _ (agent_finish a)).trans h.cache

theorem spares_withAgent {g' : Agent} (hg : w.agent = some g) (hs : Agent.Same g g')
    (hc : g'.cache = g.cache) : Spares w { w with agent := some g' } where
  events := rfl
  disk := rfl
  whose := by rw [whose, whose, hg, Option.map_some, Option.map_some, hs.config, hs.identity]
  cache := by rw [hg, Option.map_some, Option.map_some, hc]

theorem cache_setQueue {gate : Gate} (l : List Nat) : (g.setQueue gate l).cache = g.cache := by
  cases gate <;> rfl

/-- A step that is mild spares what all share; it sets the canister, or leaves it as it is. -/
theorem spares_of_run? (hg : w.agent = some g) (hm : t.program.Mild) (h : w.run? g t = some w') :
    Spares w w' := by
  unfold run? at h
  cases hp : t.program with
  | done v => simp only [hp] at h; cases h; exact (Spares.refl w).finish t _
  | fail f => simp only [hp] at h; cases h; exact (Spares.refl w).finish t _
  | userCanister next => simp only [hp] at h; cases h; exact (Spares.refl w).setTask _
  | setUserCanister c next =>
    simp only [hp] at h
    cases h
    have hset : Spares w { w with agent := some { g with userCanister := some c } } :=
      spares_withAgent hg ⟨rfl, rfl⟩ rfl
    exact hset.setTask _
  | enter gate next =>
    simp only [hp] at h
    cases hph : t.phase with
    | running =>
      simp only [hph] at h
      cases h
      exact (spares_withAgent hg (Agent.same_setQueue ..) (cache_setQueue _)).setTask _
    | _ =>
      simp only [hph] at h
      split at h
      · cases h; exact (Spares.refl w).setTask _
      · cases h
  | leave gate next =>
    simp only [hp] at h
    cases h
    exact (spares_withAgent hg (Agent.same_setQueue ..) (cache_setQueue _)).setTask _
  | call c next =>
    simp only [hp] at h
    cases hph : t.phase with
    | running => simp only [hph] at h; cases h; exact ⟨rfl, rfl, rfl, rfl⟩
    | _ => simp only [hph] at h; cases h
  | users next => simp only [hp] at h; cases h; exact (Spares.refl w).setTask _
  | upsert users next => rw [hp] at hm; exact hm.elim
  | save users next => rw [hp] at hm; exact hm.elim
  | emit e next => rw [hp] at hm; exact hm.elim

theorem spares_of_endCall? (hg : w.agent = some g) (h : w.endCall? g t e = some w') :
    Spares w w' := by
  unfold endCall? at h
  split at h
  · cases h; exact (Spares.refl w).setTask _
  · cases h
    refine (spares_withAgent hg (Agent.same_abandon ..) ?_).finish t _
    exact (cache_setQueue _).trans (cache_setQueue _)
  · cases h

/-! ## Who is at the gates -/

theorem mem_queue_of_run? {g' : Agent} {gate : Gate} (hg : w.agent = some g)
    (h : w.run? g t = some w') (hg' : w'.agent = some g') {m : Nat} (hm : m ∈ g'.queue gate) :
    m ∈ g.queue gate ∨ m = t.number ∧ ∃ next, t.program = .enter gate next := by
  have same (ha : w'.agent = w.agent) : m ∈ g.queue gate := by
    cases hg.symm.trans (ha.symm.trans hg')
    exact hm
  unfold run? at h
  cases hp : t.program with
  | done v => simp only [hp] at h; cases h; exact .inl (same (agent_finish _))
  | fail f => simp only [hp] at h; cases h; exact .inl (same (agent_finish _))
  | userCanister next => simp only [hp] at h; cases h; exact .inl (same rfl)
  | setUserCanister c next => simp only [hp] at h; cases h; cases hg'; cases gate <;> exact .inl hm
  | enter gate' next =>
    simp only [hp] at h
    cases hph : t.phase with
    | running =>
      simp only [hph] at h
      cases h
      cases hg'
      rw [Agent.enter, Agent.queue_setQueue] at hm
      split at hm
      · rename_i he
        subst he
        rcases List.mem_append.mp hm with hm | hm
        · exact .inl hm
        · exact .inr ⟨List.mem_singleton.mp hm, next, rfl⟩
      · exact .inl hm
    | _ =>
      simp only [hph] at h
      split at h
      · cases h; exact .inl (same rfl)
      · cases h
  | leave gate' next =>
    simp only [hp] at h
    cases h
    cases hg'
    exact .inl (Agent.mem_queue_leave hm)
  | call c next =>
    simp only [hp] at h
    cases hph : t.phase with
    | running => simp only [hph] at h; cases h; exact .inl (same rfl)
    | _ => simp only [hph] at h; cases h
  | users next => simp only [hp] at h; cases h; exact .inl (same rfl)
  | upsert users next => simp only [hp] at h; cases h; cases hg'; cases gate <;> exact .inl hm
  | save users next =>
    simp only [hp] at h
    cases h
    exact .inl (same (agent_saveUsers users))
  | emit e next => simp only [hp] at h; cases h; exact .inl (same rfl)

theorem mem_queue_of_react {g' : Agent} (gate : Gate) {m : Nat} (h : w.react? x = some w')
    (hg' : w'.agent = some g') (hm : m ∈ g'.queue gate) :
    (∃ g, w.agent = some g ∧ m ∈ g.queue gate) ∨ (x.task? = some m ∧
      ∃ t next, w.task? m = some t ∧ t.program = .enter gate next) := by
  rcases agent_of_react h with hsame | ⟨a, rfl, h⟩
  · exact .inl ⟨g', hsame.symm.trans hg', hm⟩
  · rcases agent_of_step h with hsame | ⟨_, config, i, _, _, _, hmade⟩ | ⟨n, g, _, hown, hg, _⟩
    · exact .inl ⟨g', hsame.symm.trans hg', hm⟩
    · cases hg'.symm.trans hmade
      cases gate <;> cases hm
    · have hx : Turn.task? (.act a) = some n := by
        cases a <;> cases hown <;> rfl
      obtain ⟨g₁, t, hg₁, ht, hstep⟩ := stepper_of_react (x := .act a) h hx
      rcases hstep with ⟨ha, hrun⟩ | ⟨e, ha, hend⟩
      · rcases mem_queue_of_run? hg₁ hrun hg' hm with hold | ⟨hnum, next, hp⟩
        · exact .inl ⟨g₁, hg₁, hold⟩
        · have hmn : m = n := hnum.trans (number_of_task? ht)
          exact .inr ⟨hmn ▸ hx, t, next, hmn ▸ ht, hp⟩
      · left
        refine ⟨g₁, hg₁, ?_⟩
        unfold endCall? at hend
        split at hend
        · cases hend
          cases hg₁.symm.trans hg'
          exact hm
        · cases hend
          cases (agent_finish _).symm.trans hg'
          exact Agent.mem_queue_leave (Agent.mem_queue_leave hm)
        · cases hend

end Worker
end ChatBridge
