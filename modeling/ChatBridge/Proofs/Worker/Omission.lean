import ChatBridge.Proofs.Worker.Failures

/-!
# A worker without one of its tasks

What is left of a worker where one task is taken out of it, and the later ones have the numbers that
they would have had. The turns of the others do the same there, and those of the task itself, as long as
they are mild, cannot be told, unless they set the canister.
-/

namespace ChatBridge

/-- The number of another task where the task `o` is left out. -/
def Worker.shift (o : Option Nat) (m : Nat) : Nat :=
  match o with
  | some n => if n < m then m - 1 else m
  | none => m

def Worker.others (o : Option Nat) (queue : List Nat) : List Nat :=
  (queue.filter (some · ≠ o)).map (Worker.shift o)

def Agent.without (o : Option Nat) (g : Agent) : Agent :=
  { g with resolving := Worker.others o g.resolving, saving := Worker.others o g.saving }

def Task.renumbered (o : Option Nat) (t : Task) : Task := { t with number := Worker.shift o t.number }

def Worker.Turn.renumbered (o : Option Nat) : Worker.Turn → Worker.Turn
  | .act (.run m) => .act (.run (Worker.shift o m))
  | .act (.endCall m e) => .act (.endCall (Worker.shift o m) e)
  | x => x

/-- The worker without the task `o`; its channels and what it has called are told apart. -/
def Worker.without (w : Worker) (o : Option Nat) (inbox outbox : List Envelope)
    (calls : List ServiceCall) : Worker :=
  { w with
    inbox := inbox
    outbox := outbox
    agent := w.agent.map (.without o)
    tasks := (w.tasks.filter (some ·.number ≠ o)).map (.renumbered o)
    nextTask := Worker.shift o w.nextTask
    calls := calls }

/-! ## Numbers -/

namespace Worker

variable {o : Option Nat} {m n : Nat} {queue : List Nat}

theorem shift_inj (hm : some m ≠ o) (hn : some n ≠ o) (h : shift o m = shift o n) : m = n := by
  cases o with
  | none => exact h
  | some k =>
    have hmk : m ≠ k := fun he => hm (congrArg some he)
    have hnk : n ≠ k := fun he => hn (congrArg some he)
    simp only [shift] at h
    split at h <;> split at h <;> omega

theorem shift_of_le (h : ∀ n, o = some n → m ≤ n) : shift o m = m := by
  cases o with
  | none => rfl
  | some n => exact if_neg (Nat.not_lt.mpr (h n rfl))

theorem shift_succ (h : ∀ n, o = some n → n < m) : shift o (m + 1) = shift o m + 1 := by
  cases o with
  | none => rfl
  | some n =>
    have hlt := h n rfl
    simp only [shift, if_pos hlt, if_pos (Nat.lt_succ_of_lt hlt)]
    omega

theorem others_append (o : Option Nat) (queue rest : List Nat) :
    others o (queue ++ rest) = others o queue ++ others o rest := by
  rw [others, List.filter_append, List.map_append]
  rfl

theorem others_single (h : some m ≠ o) : others o [m] = [shift o m] := by simp [others, h]

theorem others_self (h : some m = o) : others o [m] = [] := by simp [others, h]

theorem others_cons (h : some m ≠ o) : others o (m :: queue) = shift o m :: others o queue := by
  simp [others, h]

theorem others_cons_self (h : some m = o) : others o (m :: queue) = others o queue := by
  simp [others, h]

theorem others_of_lt (h : ∀ n, o = some n → ∀ m ∈ queue, m < n) : others o queue = queue := by
  unfold others
  have hkeep : queue.filter (some · ≠ o) = queue := by
    rw [List.filter_eq_self]
    intro m hm
    refine decide_eq_true fun he => ?_
    exact Nat.lt_irrefl m (h m he.symm m hm)
  rw [hkeep]
  refine (List.map_congr_left fun m hm => ?_).trans (List.map_id queue)
  exact shift_of_le fun n hn => Nat.le_of_lt (h n hn m hm)

theorem others_erase (h : some m ≠ o) (queue : List Nat) :
    others o (queue.erase m) = (others o queue).erase (shift o m) := by
  induction queue with
  | nil => rfl
  | cons k queue ih =>
    by_cases hk : k = m
    · subst hk
      rw [List.erase_cons_head, others_cons h, List.erase_cons_head]
    · rw [List.erase_cons_tail (by simpa using hk)]
      by_cases ho : some k = o
      · rw [others_cons_self ho, others_cons_self ho, ih]
      · have hne : shift o k ≠ shift o m := fun he => hk (shift_inj ho h he)
        rw [others_cons ho, others_cons ho, List.erase_cons_tail (by simpa using hne), ih]

theorem others_erase_self (h : some m = o) (queue : List Nat) :
    others o (queue.erase m) = others o queue := by
  induction queue with
  | nil => rfl
  | cons k queue ih =>
    by_cases hk : k = m
    · subst hk
      rw [List.erase_cons_head, others_cons_self h]
    · have ho : some k ≠ o := fun he => hk (Option.some.inj (he.trans h.symm))
      rw [List.erase_cons_tail (by simpa using hk), others_cons ho, others_cons ho, ih]

theorem head?_others (h : some m ≠ o) (hq : queue.head? = some m) :
    (others o queue).head? = some (shift o m) := by
  cases queue with
  | nil => cases hq
  | cons k queue =>
    cases hq
    rw [others_cons h]
    rfl

theorem head?_of_others (h : some m ≠ o) (hout : ∀ n ∈ queue, some n ≠ o)
    (hq : (others o queue).head? = some (shift o m)) : queue.head? = some m := by
  cases queue with
  | nil => cases hq
  | cons k queue =>
    have hk := hout k List.mem_cons_self
    rw [others_cons hk] at hq
    rw [List.head?_cons, shift_inj hk h (Option.some.inj hq)]

end Worker

/-! ## The agent -/

namespace Agent

open Worker

variable {o : Option Nat} {g : Agent} {gate : Gate} {m : Nat}

theorem queue_without : (g.without o).queue gate = others o (g.queue gate) := by
  cases gate <;> rfl

theorem setQueue_without (l : List Nat) :
    (g.setQueue gate l).without o = (g.without o).setQueue gate (others o l) := by
  cases gate <;> rfl

theorem setQueue_queue : g.setQueue gate (g.queue gate) = g := by
  cases gate <;> rfl

theorem enter_without (h : some m ≠ o) :
    (g.enter gate m).without o = (g.without o).enter gate (shift o m) := by
  rw [enter, setQueue_without, enter, queue_without, others_append, others_single h]

theorem leave_without (h : some m ≠ o) :
    (g.leave gate m).without o = (g.without o).leave gate (shift o m) := by
  rw [leave, setQueue_without, leave, queue_without, others_erase h]

theorem abandon_without (h : some m ≠ o) :
    (g.abandon m).without o = (g.without o).abandon (shift o m) := by
  rw [abandon, leave_without h, leave_without h, abandon]

theorem enter_without_self (h : some m = o) : (g.enter gate m).without o = g.without o := by
  rw [enter, setQueue_without, others_append, others_self h, List.append_nil, ← queue_without,
    setQueue_queue]

theorem leave_without_self (h : some m = o) : (g.leave gate m).without o = g.without o := by
  rw [leave, setQueue_without, others_erase_self h, ← queue_without, setQueue_queue]

theorem abandon_without_self (h : some m = o) : (g.abandon m).without o = g.without o := by
  rw [abandon, leave_without_self h, leave_without_self h]

theorem isInside_without (h : some m ≠ o) (hi : g.isInside gate m = true) :
    (g.without o).isInside gate (shift o m) = true := by
  rw [isInside, beq_iff_eq] at hi ⊢
  rw [queue_without]
  exact head?_others h hi

theorem isInside_of_without (h : some m ≠ o) (hout : ∀ n ∈ g.queue gate, some n ≠ o)
    (hi : (g.without o).isInside gate (shift o m) = true) : g.isInside gate m = true := by
  rw [isInside, beq_iff_eq] at hi ⊢
  rw [queue_without] at hi
  exact head?_of_others h hout hi

end Agent

/-! ## The tasks -/

namespace Worker

variable {o : Option Nat} {m : Nat} {w w' : Worker} {t : Task} {g : Agent} 
  {inbox inbox' outbox : List Envelope} {calls : List ServiceCall}

theorem task?_without (h : some m ≠ o) : (w.without o inbox outbox calls).task? (shift o m) =
    (w.task? m).map (.renumbered o) := by
  unfold task? without
  rw [List.find?_map, List.find?_filter]
  congr 2
  funext u
  by_cases hu : some u.number = o
  · have hne : u.number ≠ m := fun he => h (he ▸ hu)
    simp [hu, hne]
  · by_cases he : u.number = m
    · simp [he, h, Task.renumbered]
    · have hne : shift o u.number ≠ shift o m := fun hs => he (shift_inj hu h hs)
      simp [he, hu, hne, Task.renumbered]

theorem stepper_without (h : some m ≠ o) (hg : w.agent = some g) (ht : w.task? m = some t) :
    (w.without o inbox outbox calls).agent = some (g.without o) ∧
      (w.without o inbox outbox calls).task? (shift o m) = some (t.renumbered o) := by
  refine ⟨congrArg (Option.map _) hg, ?_⟩
  rw [task?_without h, ht]
  rfl

theorem setTask_without (h : some t.number ≠ o) : (w.setTask t).without o inbox outbox calls =
    (w.without o inbox outbox calls).setTask (t.renumbered o) := by
  unfold without setTask
  congr 1
  dsimp only
  rw [List.filter_map, List.map_map, List.map_map]
  have hkeep : ((fun u : Task => decide (some u.number ≠ o)) ∘
      fun u => if u.number = t.number then t else u) = fun u => decide (some u.number ≠ o) := by
    funext u
    by_cases hu : u.number = t.number
    · simp [hu]
    · simp [hu]
  rw [hkeep]
  refine List.map_congr_left fun u hu => ?_
  have hu : some u.number ≠ o := by simpa using (List.mem_filter.mp hu).2
  by_cases he : u.number = t.number
  · simp [he, Task.renumbered]
  · have hne : shift o u.number ≠ shift o t.number := fun hs => he (shift_inj hu h hs)
    simp [he, hne, Task.renumbered]

theorem setTask_without_self (h : some t.number = o) :
    (w.setTask t).without o inbox outbox calls = w.without o inbox outbox calls := by
  unfold without setTask
  congr 1
  dsimp only
  induction w.tasks with
  | nil => rfl
  | cons u ts ih =>
    by_cases hu : u.number = t.number
    · simpa [hu, h] using ih
    · by_cases ho : some u.number = o
      · exact absurd (Option.some.inj (ho.trans h.symm)) hu
      · simpa [hu, ho] using ih

theorem post_without (e : Envelope) : (w.post e).without o inbox
    (outbox ++ if w.abandoned then [] else [e]) calls = (w.without o inbox outbox calls).post e := by
  unfold post without
  cases hw : w.abandoned <;> simp [hw]

theorem post_without_self (e : Envelope) :
    (w.post e).without o inbox outbox calls = w.without o inbox outbox calls := by
  unfold post
  split <;> rfl

theorem finish_without (h : some t.number ≠ o) (e : Envelope) : (w.finish t e).without o inbox
    (outbox ++ if w.abandoned then [] else [e]) calls =
      (w.without o inbox outbox calls).finish (t.renumbered o) e := by
  unfold finish
  refine (post_without (w := { w with tasks := w.tasks.filter (·.number ≠ t.number) }) e).trans ?_
  congr 1
  unfold without
  congr 1
  dsimp only
  rw [List.filter_map, List.filter_filter, List.filter_filter]
  congr 1
  refine List.filter_congr fun u _ => ?_
  by_cases hu : some u.number = o
  · simp [hu]
  · by_cases he : u.number = t.number
    · simp [he, Task.renumbered]
    · have hne : shift o u.number ≠ shift o t.number := fun hs => he (shift_inj hu h hs)
      simp [he, hu, hne, Task.renumbered]

theorem finish_without_self (h : some t.number = o) (e : Envelope) :
    (w.finish t e).without o inbox outbox calls = w.without o inbox outbox calls := by
  unfold finish
  refine (post_without_self (w := { w with tasks := w.tasks.filter (·.number ≠ t.number) }) e).trans ?_
  unfold without
  congr 1
  dsimp only
  rw [List.filter_filter]
  congr 1
  refine List.filter_congr fun u _ => ?_
  by_cases hu : some u.number = o
  · simp [hu]
  · have hne : u.number ≠ t.number := fun he => hu (he ▸ h)
    simp [hu, hne]

/-! ## The steps of the others -/

/-- The step `step?` does without the task what leads from `w` to `w'` with it. -/
def Echoes (o : Option Nat) (inbox inbox' : List Envelope) (w w' : Worker)
    (step? : Worker → Option Worker) : Prop :=
  ∃ es cs, w'.outbox = w.outbox ++ es ∧ w'.calls = w.calls ++ cs ∧ ∀ outbox calls,
    step? (w.without o inbox outbox calls) = some (w'.without o inbox' (outbox ++ es) (calls ++ cs))

section
variable {step? : Worker → Option Worker}

theorem echoes_of_eq (ho : w'.outbox = w.outbox) (hc : w'.calls = w.calls)
    (h : ∀ outbox calls,
      step? (w.without o inbox outbox calls) = some (w'.without o inbox' outbox calls)) :
    Echoes o inbox inbox' w w' step? := by
  refine ⟨[], [], ho.trans (List.append_nil _).symm, hc.trans (List.append_nil _).symm, ?_⟩
  intro outbox calls
  rw [List.append_nil, List.append_nil]
  exact h outbox calls

theorem echoes_of_post {e : Envelope}
    (ho : w'.outbox = w.outbox ++ if w.abandoned then [] else [e]) (hc : w'.calls = w.calls)
    (h : ∀ outbox calls, step? (w.without o inbox outbox calls) =
      some (w'.without o inbox' (outbox ++ if w.abandoned then [] else [e]) calls)) :
    Echoes o inbox inbox' w w' step? := by
  refine ⟨_, [], ho, hc.trans (List.append_nil _).symm, fun outbox calls => ?_⟩
  rw [List.append_nil]
  exact h outbox calls

end

theorem calls_saveUsers (users : UserLookup) : (w.saveUsers users g).calls = w.calls := by
  unfold saveUsers
  split
  · rfl
  · rfl

theorem saveUsers_without (users : UserLookup) : (w.saveUsers users g).without o inbox outbox calls =
    (w.without o inbox outbox calls).saveUsers users (g.without o) := by
  have hd : (w.without o inbox outbox calls).disk = w.disk := rfl
  unfold saveUsers
  rw [hd]
  cases w.disk with
  | none => rfl
  | some d => rfl

section
variable (h : some t.number ≠ o)
include h

theorem proceed_without (p : Program Json) : (w.proceed t p).without o inbox outbox calls =
    (w.without o inbox outbox calls).proceed (t.renumbered o) p :=
  setTask_without (t := { t with program := p, phase := .running }) h

theorem echoes_of_finish {step? : Worker → Option Worker} (e : Envelope)
    (hs : ∀ v, step? v = some (v.finish (t.renumbered o) e)) :
    Echoes o inbox inbox w (w.finish t e) step? :=
  echoes_of_post (outbox_post _ _) (calls_post _ _) fun outbox calls => by
    rw [hs, finish_without h]

theorem echoes_of_proceed {step? : Worker → Option Worker} {p : Program Json}
    (ho : w'.outbox = w.outbox) (hc : w'.calls = w.calls)
    (hs : ∀ outbox calls, step? (w.without o inbox outbox calls) =
      some ((w'.without o inbox outbox calls).proceed (t.renumbered o) p)) :
    Echoes o inbox inbox w (w'.proceed t p) step? :=
  echoes_of_eq ho hc fun outbox calls => by
    rw [hs, proceed_without h]

theorem echoes_of_run? (hrun : w.run? g t = some w') :
    Echoes o inbox inbox w w' fun v => v.run? (g.without o) (t.renumbered o) := by
  have hprogram : (t.renumbered o).program = t.program := rfl
  have hphase : (t.renumbered o).phase = t.phase := rfl
  have hid : (t.renumbered o).correlationId = t.correlationId := rfl
  have hnumber : (t.renumbered o).number = shift o t.number := rfl
  unfold run? at hrun
  cases hp : t.program with
  | done v =>
    simp only [hp] at hrun
    cases hrun
    exact echoes_of_finish h _ fun v => by unfold run?; simp only [hprogram, hp, hid]
  | fail f =>
    simp only [hp] at hrun
    cases hrun
    exact echoes_of_finish h _ fun v => by unfold run?; simp only [hprogram, hp, hid]
  | userCanister next =>
    simp only [hp] at hrun
    cases hrun
    refine echoes_of_proceed h rfl rfl fun outbox calls => ?_
    unfold run?
    simp only [hprogram, hp]
    rfl
  | setUserCanister c next =>
    simp only [hp] at hrun
    cases hrun
    refine echoes_of_proceed h rfl rfl fun outbox calls => ?_
    unfold run?
    simp only [hprogram, hp]
    rfl
  | enter gate next =>
    simp only [hp] at hrun
    cases hph : t.phase with
    | running =>
      simp only [hph] at hrun
      cases hrun
      refine echoes_of_eq rfl rfl fun outbox calls => ?_
      rw [setTask_without (t := { t with program := .enter gate next, phase := .queued }) h]
      unfold run?
      simp only [hprogram, hp, hphase, hph, hnumber]
      rw [← Agent.enter_without h]
      rfl
    | _ =>
      simp only [hph] at hrun
      split at hrun
      · rename_i hin
        cases hrun
        refine echoes_of_proceed h rfl rfl fun outbox calls => ?_
        unfold run?
        simp only [hprogram, hp, hphase, hph, hnumber]
        rw [if_pos (Agent.isInside_without h hin)]
      · cases hrun
  | leave gate next =>
    simp only [hp] at hrun
    cases hrun
    refine echoes_of_proceed h rfl rfl fun outbox calls => ?_
    unfold run?
    simp only [hprogram, hp, hnumber]
    rw [← Agent.leave_without h]
    rfl
  | call c next =>
    simp only [hp] at hrun
    cases hph : t.phase with
    | running =>
      simp only [hph] at hrun
      cases hrun
      refine ⟨[], [c], (List.append_nil _).symm, rfl, fun outbox calls => ?_⟩
      rw [List.append_nil,
        setTask_without (t := { t with program := .call c next, phase := .calling }) h]
      unfold run?
      simp only [hprogram, hp, hphase, hph]
      rfl
    | _ => simp only [hph] at hrun; cases hrun
  | users next =>
    simp only [hp] at hrun
    cases hrun
    refine echoes_of_proceed h rfl rfl fun outbox calls => ?_
    unfold run?
    simp only [hprogram, hp]
    rfl
  | upsert users next =>
    simp only [hp] at hrun
    cases hrun
    refine echoes_of_proceed h rfl rfl fun outbox calls => ?_
    unfold run?
    simp only [hprogram, hp]
    rfl
  | save users next =>
    simp only [hp] at hrun
    cases hrun
    refine echoes_of_proceed h (quiet_saveUsers users g).outbox (calls_saveUsers users)
      fun outbox calls => ?_
    rw [saveUsers_without]
    unfold run?
    simp only [hprogram, hp]
  | emit e next =>
    simp only [hp] at hrun
    cases hrun
    refine echoes_of_proceed h rfl rfl fun outbox calls => ?_
    unfold run?
    simp only [hprogram, hp]
    rfl

theorem echoes_of_endCall? {e : CallEnd} (hend : w.endCall? g t e = some w') :
    Echoes o inbox inbox w w' fun v => v.endCall? (g.without o) (t.renumbered o) e := by
  have hprogram : (t.renumbered o).program = t.program := rfl
  have hphase : (t.renumbered o).phase = t.phase := rfl
  have hnumber : (t.renumbered o).number = shift o t.number := rfl
  unfold endCall? at hend
  split at hend
  · rename_i next r hp hph
    cases hend
    refine echoes_of_proceed h rfl rfl fun outbox calls => ?_
    unfold endCall?
    simp only [hprogram, hp, hphase, hph]
  · rename_i hp hph
    cases hend
    refine echoes_of_post (outbox_post _ _) (calls_post _ _) fun outbox calls => ?_
    rw [finish_without (w := { w with agent := some (g.abandon t.number) }) h]
    unfold endCall?
    simp only [hprogram, hp, hphase, hph, hnumber]
    rw [← Agent.abandon_without h]
    rfl
  · cases hend

end

/-! ## The other turns -/

inductive Fed (w : Worker) : Turn → List Envelope → List Envelope → Prop
  | deliver (e : Envelope) (inbox : List Envelope) : Fed w (.deliver e) inbox (inbox ++ [e])
  | receive (e : Envelope) (inbox : List Envelope) (he : w.inbox.head? = some e) :
      Fed w (.act .receive) (e :: inbox) inbox
  | other (x : Turn) (inbox : List Envelope) (hd : ∀ e, x ≠ .deliver e) (hr : x ≠ .act .receive) :
      Fed w x inbox inbox

section
variable (hf : ∀ n, o = some n → n < w.nextTask)
include hf

theorem next_ne : some w.nextTask ≠ o := fun he => Nat.lt_irrefl _ (hf _ he.symm)

theorem spawn_without {config : AgentConfig} {id : String} {c : Capability} {payload : Json} :
    (w.spawn config id c payload).without o inbox outbox calls =
      (w.without o inbox outbox calls).spawn config id c payload := by
  unfold spawn without
  congr 1
  · dsimp only
    rw [List.filter_append, List.map_append]
    congr 1
    simp [next_ne hf, Task.renumbered]
  · exact shift_succ hf

theorem echoes_of_handle (e : Envelope) :
    Echoes o inbox inbox w (w.handle e) fun v => some (v.handle e) := by
  have posts {a : Envelope} (hw : w.handle e = w.post a)
      (hv : ∀ outbox calls,
        (w.without o inbox outbox calls).handle e = (w.without o inbox outbox calls).post a) :
      Echoes o inbox inbox w (w.handle e) fun v => some (v.handle e) := by
    rw [hw]
    refine echoes_of_post (outbox_post _ _) (calls_post _ _) fun outbox calls => ?_
    rw [hv, post_without]
  have quiet {w₁ : Worker} (hw : w.handle e = w₁) (ho : w₁.outbox = w.outbox)
      (hc : w₁.calls = w.calls)
      (hv : ∀ outbox calls,
        (w.without o inbox outbox calls).handle e = w₁.without o inbox outbox calls) :
      Echoes o inbox inbox w (w.handle e) fun v => some (v.handle e) := by
    rw [hw]
    exact echoes_of_eq ho hc fun outbox calls => congrArg some (hv outbox calls)
  have hagent (outbox : List Envelope) (calls : List ServiceCall) :
      (w.without o inbox outbox calls).agent = w.agent.map (.without o) := rfl
  cases e with
  | request id kind payload =>
    by_cases hk : kind = initKind
    · cases hd : (Wire.codec : Codec AgentConfig).ofValue payload with
      | error x =>
        have hpost (v : Worker) : v.handle (.request id kind payload) =
            v.post (.error id (.invalidPayload initKind x.message)) := by
          simp only [handle, if_pos hk, handleSetUp, hd]
        exact posts (hpost w) fun _ _ => hpost _
      | ok config =>
        cases hg : w.agent with
        | some g =>
          have hpost (v : Worker) (hv : v.agent.isSome = true) :
              v.handle (.request id kind payload) = v.post (.response id .null) := by
            simp only [handle, if_pos hk, handleSetUp, hd, if_pos hv]
          refine posts (hpost w (by rw [hg]; rfl)) fun outbox calls => hpost _ ?_
          rw [hagent, hg]
          rfl
        | none =>
          have hbegin (v : Worker) (hv : v.agent = none) : v.handle (.request id kind payload) =
              { v with settingUp := some (id, config) } := by
            simp [handle, hk, handleSetUp, hd, hv]
          refine quiet (hbegin w hg) rfl rfl fun outbox calls => ?_
          rw [hbegin _ (by rw [hagent, hg]; rfl)]
          rfl
    · cases hc : Capability.ofKind? kind with
      | none =>
        have hpass (v : Worker) : v.handle (.request id kind payload) = v := by
          simp only [handle, if_neg hk, hc]
        exact quiet (hpass w) rfl rfl fun _ _ => hpass _
      | some c =>
        cases hg : w.agent with
        | none =>
          have hpost (v : Worker) (hv : v.agent = none) : v.handle (.request id kind payload) =
              v.post (.error id .agentNotInitialized) := by
            simp only [handle, if_neg hk, hc, hv]
          refine posts (hpost w hg) fun outbox calls => hpost _ ?_
          rw [hagent, hg]
          rfl
        | some g =>
          have hspawn (v : Worker) (g : Agent) (hv : v.agent = some g) :
              v.handle (.request id kind payload) = v.spawn g.config id c payload := by
            simp only [handle, if_neg hk, hc, hv]
          refine quiet (hspawn w g hg) rfl rfl fun outbox calls => ?_
          rw [spawn_without hf, hspawn _ (g.without o) (by rw [hagent, hg]; rfl)]
          rfl
  | _ => exact quiet rfl rfl rfl fun _ _ => rfl

omit hf in
theorem receive?_of_inbox {e : Envelope} {rest : List Envelope} (hs : w.serving = true)
    (hset : w.settingUp = none) (hi : w.inbox = e :: rest) :
    w.receive? = some ({ w with inbox := rest }.handle e) := by
  unfold receive?
  split
  · rename_i hi'
    cases hi.symm.trans hi'
    rfl
  · rename_i hno
    exact absurd hi (hno e rest hs hset)

theorem echoes_of_receive {e : Envelope} (he : w.inbox.head? = some e) (h : w.receive? = some w') :
    Echoes o (e :: inbox) inbox w w' receive? := by
  obtain ⟨hs, hset, e', rest, hi, rfl⟩ := receive?_eq_some h
  rw [hi] at he
  cases he
  have hnext : ∀ n, o = some n → n < ({ w with inbox := rest } : Worker).nextTask := hf
  obtain ⟨es, cs, ho, hc, hv⟩ := echoes_of_handle hnext e
  refine ⟨es, cs, ho, hc, fun outbox calls => ?_⟩
  rw [← hv]
  exact receive?_of_inbox hs hset rfl

omit hf in
theorem echoes_of_provide {p : Provided} (h : w.step? (.provide p) = some w') :
    Echoes o inbox inbox w w' fun v => v.step? (.provide p) := by
  obtain ⟨id, config, hs, rfl⟩ := provide_eq_some h
  have hv (outbox : List Envelope) (calls : List ServiceCall) :
      (w.without o inbox outbox calls).step? (.provide p) =
        some ((w.without o inbox outbox calls).endSetUp id config p) :=
    congrArg (Option.map _) (show (w.without o inbox outbox calls).settingUp = _ from hs)
  cases hi : resolveIdentity p with
  | error e =>
    rw [endSetUp_of_error hi]
    refine echoes_of_post (outbox_post _ _) (calls_post _ _) fun outbox calls => ?_
    rw [hv, endSetUp_of_error hi]
    exact congrArg some (post_without (w := { w with settingUp := none }) _).symm
  | ok i =>
    cases i with
    | none =>
      rw [endSetUp_of_nobody hi]
      refine echoes_of_eq rfl rfl fun outbox calls => ?_
      rw [hv, endSetUp_of_nobody hi]
      rfl
    | some i =>
      rw [endSetUp_of_identity hi]
      refine echoes_of_post (outbox_post _ _) (calls_post _ _) fun outbox calls => ?_
      rw [hv, endSetUp_of_identity hi]
      exact congrArg some (post_without (w := { w with
        settingUp := none
        agent := some (.start config i w.openCache)
        events := some (.empty Limits.unreadEvents) }) _).symm

omit hf in
theorem echoes_of_forward (h : w.forward? = some w') : Echoes o inbox inbox w w' forward? := by
  have next {i : Option (Backlog.Item Event × Backlog Event)} (hn : w.events.bind Backlog.next? = i)
      (outbox : List Envelope) (calls : List ServiceCall) :
      (w.without o inbox outbox calls).events.bind Backlog.next? = i := hn
  unfold forward? at h
  split at h
  · cases h
  · rename_i hn
    cases h
    refine echoes_of_eq rfl rfl fun outbox calls => ?_
    unfold forward?
    rw [next hn]
    rfl
  · rename_i e rest hn
    split at h
    · rename_i hw
      cases h
      refine echoes_of_eq rfl rfl fun outbox calls => ?_
      unfold forward?
      rw [next hn]
      exact if_pos hw
    · rename_i hw
      cases h
      refine echoes_of_post (outbox_post _ _) (calls_post _ _) fun outbox calls => ?_
      unfold forward?
      rw [next hn]
      refine (if_neg hw).trans (congrArg some ?_)
      exact (post_without (w := { w with events := some rest }) (.event e)).symm

/-- The turns of the others, except that what is posted is not collected. -/
theorem echoes_of_react {x : Turn} (hi : Fed w x inbox inbox') (h : w.react? x = some w')
    (hx : ∀ n, x.task? = some n → some n ≠ o) (hc : x ≠ .collect) :
    Echoes o inbox inbox' w w' fun v => v.react? (x.renumbered o) := by
  cases hi with
  | deliver e inbox => cases h; exact echoes_of_eq rfl rfl fun _ _ => rfl
  | receive e inbox he => exact echoes_of_receive hf he h
  | other x inbox hd hr =>
    cases x with
    | deliver e => exact absurd rfl (hd e)
    | collect => exact absurd rfl hc
    | act a =>
      cases a with
      | receive => exact absurd rfl hr
      | provide p => exact echoes_of_provide h
      | run m =>
        obtain ⟨g, t, hg, ht, hrun⟩ := withTask_eq_some h
        have hm := hx m rfl
        have hnum := number_of_task? ht
        obtain ⟨es, cs, ho, hcs, hv⟩ := echoes_of_run? (hnum ▸ hm) hrun
        refine ⟨es, cs, ho, hcs, fun outbox calls => ?_⟩
        obtain ⟨hg', ht'⟩ := stepper_without hm hg ht
        rw [← hv]
        exact react?_run hg' ht'
      | endCall m e =>
        obtain ⟨g, t, hg, ht, hend⟩ := withTask_eq_some h
        have hm := hx m rfl
        have hnum := number_of_task? ht
        obtain ⟨es, cs, ho, hcs, hv⟩ := echoes_of_endCall? (hnum ▸ hm) hend
        refine ⟨es, cs, ho, hcs, fun outbox calls => ?_⟩
        obtain ⟨hg', ht'⟩ := stepper_without hm hg ht
        rw [← hv]
        exact react?_endCall hg' ht'
      | forward => exact echoes_of_forward h
      | stop =>
        simp only [react?, step?] at h
        split at h
        · rename_i hs
          cases h
          exact echoes_of_eq rfl rfl fun _ _ => if_pos hs
        · cases h
      | abandon => cases h; exact echoes_of_eq rfl rfl fun _ _ => rfl
      | halt => cases h; exact echoes_of_eq rfl rfl fun _ _ => rfl

end

/-! ## The steps of the task itself -/

/-- What a mild step of the task changes is taken out with it, except for the canister. -/
theorem without_of_run? (ho : some t.number = o) (hg : w.agent = some g) (hm : t.program.Mild)
    (hs : ∀ c next, t.program ≠ .setUserCanister c next) (h : w.run? g t = some w') :
    w'.without o inbox outbox calls = w.without o inbox outbox calls := by
  have proceeds (p : Program Json) : (w.proceed t p).without o inbox outbox calls =
      w.without o inbox outbox calls :=
    setTask_without_self (t := { t with program := p, phase := .running }) ho
  have agentOnly {g' : Agent} (h : g'.without o = g.without o) :
      ({ w with agent := some g' } : Worker).without o inbox outbox calls =
        w.without o inbox outbox calls := by
    unfold without
    rw [hg, Option.map_some, Option.map_some, h]
  unfold run? at h
  cases hp : t.program with
  | done v => simp only [hp] at h; cases h; exact finish_without_self ho _
  | fail f => simp only [hp] at h; cases h; exact finish_without_self ho _
  | userCanister next => simp only [hp] at h; cases h; exact proceeds _
  | setUserCanister c next => exact absurd hp (hs c next)
  | enter gate next =>
    simp only [hp] at h
    cases hph : t.phase with
    | running =>
      simp only [hph] at h
      cases h
      refine (setTask_without_self (w := { w with agent := some (g.enter gate t.number) }) ?_).trans ?_
      · exact ho
      · exact agentOnly (Agent.enter_without_self ho)
    | _ =>
      simp only [hph] at h
      split at h
      · cases h; exact proceeds _
      · cases h
  | leave gate next =>
    simp only [hp] at h
    cases h
    refine (setTask_without_self (w := { w with agent := some (g.leave gate t.number) }) ?_).trans ?_
    · exact ho
    · exact agentOnly (Agent.leave_without_self ho)
  | call c next =>
    simp only [hp] at h
    cases hph : t.phase with
    | running =>
      simp only [hph] at h
      cases h
      exact setTask_without_self (w := { w with calls := w.calls ++ [c] }) ho
    | _ => simp only [hph] at h; cases h
  | users next => simp only [hp] at h; cases h; exact proceeds _
  | upsert users next => rw [hp] at hm; exact hm.elim
  | save users next => rw [hp] at hm; exact hm.elim
  | emit e next => rw [hp] at hm; exact hm.elim

theorem without_of_endCall? {e : CallEnd} (ho : some t.number = o) (hg : w.agent = some g)
    (h : w.endCall? g t e = some w') :
    w'.without o inbox outbox calls = w.without o inbox outbox calls := by
  unfold endCall? at h
  split at h
  · rename_i next r _ _
    cases h
    exact setTask_without_self (t := { t with program := next r, phase := .running }) ho
  · cases h
    refine (finish_without_self (w := { w with agent := some (g.abandon t.number) }) ho _).trans ?_
    unfold without
    rw [hg, Option.map_some, Option.map_some, Agent.abandon_without_self ho]
  · cases h

theorem without_of_set {c : String} {next : Program Json} (ho : some t.number = o)
    (hg : w.agent = some g) (hp : t.program = .setUserCanister c next) (h : w.run? g t = some w') :
    (w.without o inbox outbox calls).agent = some (g.without o) ∧ w'.without o inbox outbox calls =
      { w.without o inbox outbox calls with
        agent := some { g.without o with userCanister := some c } } := by
  refine ⟨congrArg (Option.map _) hg, ?_⟩
  unfold run? at h
  simp only [hp] at h
  cases h
  exact setTask_without_self (w := { w with agent := some { g with userCanister := some c } })
    (t := { t with program := next, phase := .running }) ho

/-! ## Nothing is possible without the task that is not possible with it -/

section
variable {v : Worker} {x : Turn}

theorem isSome_run?_of_without (h : some t.number ≠ o)
    (hout : ∀ gate, ∀ n ∈ g.queue gate, some n ≠ o)
    (hr : (v.run? (g.without o) (t.renumbered o)).isSome = true) : (w.run? g t).isSome = true := by
  have hprogram : (t.renumbered o).program = t.program := rfl
  have hphase : (t.renumbered o).phase = t.phase := rfl
  have hnumber : (t.renumbered o).number = shift o t.number := rfl
  unfold run? at hr ⊢
  cases hp : t.program with
  | enter gate next =>
    simp only [hprogram, hp, hphase, hnumber] at hr ⊢
    cases hph : t.phase with
    | running => rfl
    | _ =>
      simp only [hph] at hr ⊢
      split at hr
      · rename_i hin
        rw [if_pos (Agent.isInside_of_without h (hout gate) hin)]
        rfl
      · cases hr
  | call c next =>
    simp only [hprogram, hp, hphase] at hr ⊢
    cases hph : t.phase with
    | running => rfl
    | _ => simp only [hph] at hr; cases hr
  | _ => rfl

theorem isSome_endCall?_of_without {e : CallEnd}
    (hr : (v.endCall? (g.without o) (t.renumbered o) e).isSome = true) :
    (w.endCall? g t e).isSome = true := by
  have hprogram : (t.renumbered o).program = t.program := rfl
  have hphase : (t.renumbered o).phase = t.phase := rfl
  unfold endCall? at hr ⊢
  rw [hprogram, hphase] at hr
  split at hr
  · rfl
  · rfl
  · cases hr

theorem exists_task_of_without {m' : Nat} {t' : Task}
    (h : (w.without o inbox outbox calls).task? m' = some t') : ∃ m t, m' = shift o m ∧ some m ≠ o ∧
      w.task? m = some t ∧ t' = t.renumbered o := by
  obtain ⟨u, hu, rfl⟩ := List.mem_map.mp (List.mem_of_find?_eq_some h)
  have hne : some u.number ≠ o := by simpa using (List.mem_filter.mp hu).2
  have hm : m' = shift o u.number := (number_of_task? h).symm
  subst hm
  rw [task?_without hne] at h
  obtain ⟨t, ht, heq⟩ := Option.map_eq_some_iff.mp h
  exact ⟨u.number, t, rfl, hne, ht, heq.symm⟩

theorem isSome_forward? : w.forward?.isSome = (w.events.bind Backlog.next?).isSome := by
  unfold forward?
  split
  · rename_i hn; rw [hn]; rfl
  · rename_i hn; rw [hn]; rfl
  · rename_i hn
    rw [hn]
    split
    · rfl
    · rfl

theorem exists_turn_of_without (hout : ∀ g, w.agent = some g → ∀ gate, ∀ n ∈ g.queue gate, some n ≠ o)
    (h : ((w.without o w.inbox outbox calls).react? x).isSome = true) (hx : x ≠ .collect) :
    ∃ y, x = y.renumbered o ∧ (∀ n, y.task? = some n → some n ≠ o) ∧ (w.react? y).isSome = true := by
  obtain ⟨v', h⟩ := Option.isSome_iff_exists.mp h
  have taken {f : Agent → Task → Option Worker} {m' : Nat}
      (h : ∃ g' t', (w.without o w.inbox outbox calls).agent = some g' ∧
        (w.without o w.inbox outbox calls).task? m' = some t' ∧ f g' t' = some v') :
      ∃ m g t, m' = shift o m ∧ some m ≠ o ∧ w.agent = some g ∧ w.task? m = some t ∧
        f (g.without o) (t.renumbered o) = some v' := by
    obtain ⟨g', t', hg', ht', hf⟩ := h
    obtain ⟨g, hg, rfl⟩ := Option.map_eq_some_iff.mp hg'
    obtain ⟨m, t, rfl, hm, ht, rfl⟩ := exists_task_of_without ht'
    exact ⟨m, g, t, rfl, hm, hg, ht, hf⟩
  have hnone {y : Turn} (hy : y.task? = none) (n : Nat) (hn : y.task? = some n) : some n ≠ o := by
    rw [hy] at hn
    cases hn
  cases x with
  | deliver e => exact ⟨.deliver e, rfl, hnone rfl, rfl⟩
  | collect => exact absurd rfl hx
  | act a =>
    cases a with
    | receive =>
      obtain ⟨hs, hset, e, rest, hi, _⟩ := receive?_eq_some h
      exact ⟨.act .receive, rfl, hnone rfl, congrArg Option.isSome (receive?_of_inbox (w := w) hs hset hi)⟩
    | provide p =>
      obtain ⟨id, config, hs, _⟩ := provide_eq_some h
      refine ⟨.act (.provide p), rfl, hnone rfl, ?_⟩
      show (w.settingUp.map _).isSome = true
      rw [show w.settingUp = _ from hs]
      rfl
    | run m' =>
      obtain ⟨m, g, t, rfl, hm, hg, ht, hrun⟩ := taken (withTask_eq_some h)
      refine ⟨.act (.run m), rfl, fun n hn => by cases hn; exact hm, ?_⟩
      rw [react?_run hg ht]
      refine isSome_run?_of_without ?_ (hout g hg) (congrArg Option.isSome hrun)
      rwa [number_of_task? ht]
    | endCall m' e =>
      obtain ⟨m, g, t, rfl, hm, hg, ht, hend⟩ := taken (withTask_eq_some h)
      refine ⟨.act (.endCall m e), rfl, fun n hn => by cases hn; exact hm, ?_⟩
      rw [react?_endCall hg ht]
      exact isSome_endCall?_of_without (congrArg Option.isSome hend)
    | forward =>
      refine ⟨.act .forward, rfl, hnone rfl, ?_⟩
      show w.forward?.isSome = true
      have hv : (w.without o w.inbox outbox calls).forward?.isSome = true := congrArg Option.isSome h
      rw [isSome_forward?] at hv ⊢
      exact hv
    | stop =>
      refine ⟨.act .stop, rfl, hnone rfl, ?_⟩
      simp only [react?, step?] at h
      split at h
      · rename_i hs
        exact congrArg Option.isSome (if_pos hs)
      · cases h
    | abandon => exact ⟨.act .abandon, rfl, hnone rfl, rfl⟩
    | halt => exact ⟨.act .halt, rfl, hnone rfl, rfl⟩

end

end Worker
end ChatBridge
