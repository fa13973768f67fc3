import ChatBridge.Proofs.Agent.Following
import ChatBridge.Proofs.Runs
import ChatBridge.Worker.Basic

/-!
# What a step of the worker does

One lemma for each action says what it leaves behind. The steps of a task are told apart by what its
program learns from them.
-/

namespace ChatBridge

def Envelope.isReply : Envelope → Bool
  | .response _ _ => true
  | .error _ _ => true
  | _ => false

def Envelope.answering (id : String) : Except Fault Json → Envelope
  | .ok v => .response id v
  | .error f => .error id f

@[simp] theorem Envelope.isReply_answering (id : String) (r : Except Fault Json) :
    (Envelope.answering id r).isReply = true := by
  cases r <;> rfl

@[simp] theorem Envelope.correlationId?_answering (id : String) (r : Except Fault Json) :
    (Envelope.answering id r).correlationId? = some id := by
  cases r <;> rfl

namespace Agent

section
variable (a : Agent) (g : Gate) (n : Nat)

@[simp] theorem config_setQueue (l : List Nat) : (a.setQueue g l).config = a.config := by
  cases g <;> rfl

@[simp] theorem config_enter : (a.enter g n).config = a.config := config_setQueue ..

@[simp] theorem config_leave : (a.leave g n).config = a.config := config_setQueue ..

@[simp] theorem config_abandon : (a.abandon n).config = a.config := by simp [abandon]

end

variable {g : Agent} {gate gate' : Gate} {m n : Nat}

@[simp] theorem queue_setQueue (l : List Nat) :
    (g.setQueue gate l).queue gate' = if gate' = gate then l else g.queue gate' := by
  cases gate <;> cases gate' <;> rfl

theorem mem_queue_enter (h : m ∈ (g.enter gate n).queue gate') : m ∈ g.queue gate' ∨ m = n := by
  rw [enter, queue_setQueue] at h
  split at h
  · rename_i he
    rw [he]
    exact (List.mem_append.mp h).imp_right List.mem_singleton.mp
  · exact .inl h

theorem mem_queue_leave (h : m ∈ (g.leave gate n).queue gate') : m ∈ g.queue gate' := by
  rw [leave, queue_setQueue] at h
  split at h
  · rename_i he
    rw [he]
    exact List.mem_of_mem_erase h
  · exact h

theorem isInside_enter (h : ∀ m ∈ g.queue gate, m = n) :
    (g.enter gate n).isInside gate n = true := by
  have hq : (g.enter gate n).queue gate = g.queue gate ++ [n] := by
    rw [enter, queue_setQueue, if_pos rfl]
  rw [isInside, hq]
  cases hl : g.queue gate with
  | nil => simp
  | cons m l => simp [h m (by rw [hl]; exact List.mem_cons_self)]

@[simp] theorem userCanister_setQueue (l : List Nat) :
    (g.setQueue gate l).userCanister = g.userCanister := by
  cases gate <;> rfl

end Agent

/-- What a step tells a task's program; nothing comes of a step that only begins to wait. -/
def Task.told? (t : Task) (a : Agent) : Option Told :=
  match t.program, t.phase with
  | .userCanister _, _ => some (.canister a.userCanister)
  | .setUserCanister _ _, _ => some .nothing
  | .enter _ _, .running => none
  | .enter _ _, _ => some .nothing
  | .leave _ _, _ => some .nothing
  | .users _, _ => some (.users a.cache.users)
  | .upsert users _, _ => some (.count (a.cache.upsert users).2)
  | .save _ _, _ => some .nothing
  | .emit _ _, _ => some .nothing
  | _, _ => none

namespace Worker

/-! ## Turns -/

/-- What happens to a worker between two of its states. -/
inductive Turn where
  | act (a : Action)
  | deliver (e : Envelope)
  | collect

def react? (w : Worker) : Turn → Option Worker
  | .act a => w.step? a
  | .deliver e => some { w with inbox := w.inbox ++ [e] }
  | .collect =>
    match w.outbox with
    | [] => none
    | _ :: rest => some { w with outbox := rest }

def config? (w : Worker) : Option AgentConfig := w.agent.map (·.config)

section
variable (w : Worker) (e : Envelope)

/-! ## Posting -/

@[simp] theorem outbox_post : (w.post e).outbox = w.outbox ++ if w.abandoned then [] else [e] := by
  unfold post
  split <;> simp_all

@[simp] theorem inbox_post : (w.post e).inbox = w.inbox := by unfold post; split <;> rfl

@[simp] theorem abandoned_post : (w.post e).abandoned = w.abandoned := by unfold post; split <;> rfl

@[simp] theorem serving_post : (w.post e).serving = w.serving := by unfold post; split <;> rfl

@[simp] theorem settingUp_post : (w.post e).settingUp = w.settingUp := by unfold post; split <;> rfl

@[simp] theorem agent_post : (w.post e).agent = w.agent := by unfold post; split <;> rfl

@[simp] theorem tasks_post : (w.post e).tasks = w.tasks := by unfold post; split <;> rfl

@[simp] theorem nextTask_post : (w.post e).nextTask = w.nextTask := by unfold post; split <;> rfl

@[simp] theorem events_post : (w.post e).events = w.events := by unfold post; split <;> rfl

@[simp] theorem calls_post : (w.post e).calls = w.calls := by unfold post; split <;> rfl

@[simp] theorem disk_post : (w.post e).disk = w.disk := by unfold post; split <;> rfl

@[simp] theorem now_post : (w.post e).now = w.now := by unfold post; split <;> rfl

end

/-! ## Requests -/

inductive Handled (w : Worker) (id kind : String) (payload : Json) : Worker → Prop
  | refused (x : Refusal) (hk : kind = initKind)
      (hd : (Wire.codec : Codec AgentConfig).ofValue payload = .error x) :
      Handled w id kind payload (w.post (.error id (.invalidPayload initKind x.message)))
  | again (config : AgentConfig) (hk : kind = initKind)
      (hd : (Wire.codec : Codec AgentConfig).ofValue payload = .ok config) (ha : w.agent.isSome) :
      Handled w id kind payload (w.post (.response id .null))
  | begun (config : AgentConfig) (hk : kind = initKind)
      (hd : (Wire.codec : Codec AgentConfig).ofValue payload = .ok config) (ha : w.agent = none) :
      Handled w id kind payload { w with settingUp := some (id, config) }
  | unknown (hk : kind ≠ initKind) (hc : Capability.ofKind? kind = none) :
      Handled w id kind payload w
  | early (c : Capability) (hk : kind ≠ initKind) (hc : Capability.ofKind? kind = some c)
      (ha : w.agent = none) : Handled w id kind payload (w.post (.error id .agentNotInitialized))
  | spawned (c : Capability) (a : Agent) (hk : kind ≠ initKind)
      (hc : Capability.ofKind? kind = some c) (ha : w.agent = some a) :
      Handled w id kind payload (w.spawn a.config id c payload)

theorem handled (w : Worker) (id kind : String) (payload : Json) :
    Handled w id kind payload (w.handle (.request id kind payload)) := by
  unfold handle
  by_cases hk : kind = initKind
  · simp only [if_pos hk, handleSetUp]
    split
    · rename_i x hd; exact .refused x hk hd
    · rename_i config hd
      split
      · rename_i ha; exact .again config hk hd ha
      · rename_i ha; exact .begun config hk hd (by simpa using ha)
  · simp only [if_neg hk]
    split
    · rename_i hc; exact .unknown hk hc
    · rename_i c hc ha; exact .early c hk hc ha
    · rename_i c a hc ha; exact .spawned c a hk hc ha

theorem kind_of_ofKind? {kind : String} {c : Capability} (h : Capability.ofKind? kind = some c) :
    c.kind = kind := by simpa using List.find?_some h

/-! ## The identity -/

section
variable {w w' : Worker} {id : String} {config : AgentConfig} {p : Provided}

theorem provide_eq_some (h : w.step? (.provide p) = some w') :
    ∃ id config, w.settingUp = some (id, config) ∧ w' = w.endSetUp id config p := by
  obtain ⟨⟨id, config⟩, hs, rfl⟩ := Option.map_eq_some_iff.mp h
  exact ⟨id, config, hs, rfl⟩

theorem endSetUp_of_identity {i : Identity} (h : resolveIdentity p = .ok (some i)) :
    w.endSetUp id config p = { w with settingUp := none }.setUp id config i := by
  simp [endSetUp, h]

theorem endSetUp_of_nobody (h : resolveIdentity p = .ok none) :
    w.endSetUp id config p = { w with settingUp := none } := by
  simp [endSetUp, h]

theorem endSetUp_of_error {e : IdentityError} (h : resolveIdentity p = .error e) :
    w.endSetUp id config p = { w with settingUp := none }.post (.error id (.internal e.message)) := by
  simp [endSetUp, h]

theorem endSetUp_kept : (w.endSetUp id config p).settingUp = none ∧
    (w.endSetUp id config p).tasks = w.tasks ∧
    (w.endSetUp id config p).nextTask = w.nextTask ∧
    (w.endSetUp id config p).abandoned = w.abandoned := by
  unfold endSetUp
  split <;> simp [setUp]

end

/-! ## Tasks -/

section
variable {ts : List Task} {t u : Task} {n : Nat}

theorem find?_replace_of_ne (h : n ≠ t.number) :
    (ts.map fun u => if u.number = t.number then t else u).find? (·.number == n) =
      ts.find? (·.number == n) := by
  induction ts with
  | nil => rfl
  | cons v ts ih =>
    rw [List.map_cons, List.find?_cons, List.find?_cons, ih]
    by_cases hv : v.number = t.number
    · have hb : (t.number == n) = false := beq_eq_false_iff_ne.mpr (Ne.symm h)
      rw [if_pos hv, hv, hb]
    · rw [if_neg hv]

theorem find?_replace_self (h : ts.find? (·.number == t.number) = some u) :
    (ts.map fun u => if u.number = t.number then t else u).find? (·.number == t.number) =
      some t := by
  induction ts with
  | nil => cases h
  | cons v ts ih =>
    rw [List.map_cons, List.find?_cons]
    by_cases hv : v.number = t.number
    · simp [hv]
    · have hb : (v.number == t.number) = false := beq_eq_false_iff_ne.mpr hv
      rw [List.find?_cons, hb] at h
      rw [if_neg hv, hb]
      exact ih h

theorem find?_filter_number {m : Nat} : (ts.filter (·.number ≠ m)).find? (·.number == n) =
    if n = m then none else ts.find? (·.number == n) := by
  rw [List.find?_filter]
  by_cases h : n = m
  · subst h
    rw [if_pos rfl, List.find?_eq_none]
    simp
  · rw [if_neg h]
    congr 1
    funext v
    by_cases hv : v.number = n
    · simp [hv, h]
    · simp [hv]

end

section
variable {w w' : Worker} {t u : Task} {n : Nat}

theorem number_of_task? (h : w.task? n = some t) : t.number = n := by
  simpa using List.find?_some h

theorem task?_setTask (h : w.task? t.number = some u) (n : Nat) :
    (w.setTask t).task? n = if n = t.number then some t else w.task? n := by
  by_cases hn : n = t.number
  · subst hn; rw [if_pos rfl]; exact find?_replace_self h
  · rw [if_neg hn]; exact find?_replace_of_ne hn

theorem task?_of_tasks (h : w'.tasks = w.tasks) (n : Nat) : w'.task? n = w.task? n := by
  rw [task?, task?, h]

theorem task?_put (hw : w'.tasks = w.tasks) (ht : w.task? n = some u) (hn : t.number = u.number)
    (m : Nat) : (w'.setTask t).task? m = if m = n then some t else w.task? m := by
  have hnum : t.number = n := hn.trans (number_of_task? ht)
  have hu : w'.task? t.number = some u := by rw [task?_of_tasks hw, hnum, ht]
  rw [task?_setTask hu, hnum, task?_of_tasks hw]

theorem task?_finish (answer : Envelope) (n : Nat) :
    (w.finish t answer).task? n = if n = t.number then none else w.task? n := by
  unfold task? finish
  rw [tasks_post]
  exact find?_filter_number

theorem task?_spawn {config : AgentConfig} {id : String} {c : Capability} {payload : Json}
    (hfresh : w.task? w.nextTask = none) (n : Nat) : (w.spawn config id c payload).task? n =
      if n = w.nextTask then
        some ⟨w.nextTask, id, c.kind, Operation.handle config c payload, .running⟩
      else w.task? n := by
  unfold task? spawn at *
  rw [List.find?_append]
  by_cases hn : n = w.nextTask
  · subst hn; simp [hfresh]
  · have hb : (w.nextTask == n) = false := beq_eq_false_iff_ne.mpr (Ne.symm hn)
    simp [hn, hb]

/-! ## The steps of a task -/

/-- Changes that neither requests nor answers have a part in. -/
structure Quiet (w w' : Worker) : Prop where
  inbox : w'.inbox = w.inbox
  outbox : w'.outbox = w.outbox
  abandoned : w'.abandoned = w.abandoned
  serving : w'.serving = w.serving
  settingUp : w'.settingUp = w.settingUp
  tasks : w'.tasks = w.tasks
  nextTask : w'.nextTask = w.nextTask
  config : w'.config? = w.config?

/-- A step of a task: it ends, it begins to wait, or its program goes on. -/
inductive Ran (w : Worker) (a : Agent) (t : Task) : Worker → Prop
  | ended (r : Except Fault Json) (hp : t.program.Returns [] r) :
      Ran w a t (w.finish t (.answering t.correlationId r))
  | waits (w₁ : Worker) (p : Phase) (hq : Quiet w w₁) (ht : t.told? a = none) :
      Ran w a t (w₁.setTask { t with phase := p })
  | goesOn (w₁ : Worker) (x : Told) (p : Program Json) (hq : Quiet w w₁) (ht : t.told? a = some x)
      (hp : t.program.next? x = some p) : Ran w a t (w₁.proceed t p)

theorem Quiet.refl (w : Worker) : Quiet w w := ⟨rfl, rfl, rfl, rfl, rfl, rfl, rfl, rfl⟩

theorem quiet_events (w : Worker) (es : Option (Backlog Event)) : Quiet w { w with events := es } :=
  ⟨rfl, rfl, rfl, rfl, rfl, rfl, rfl, rfl⟩

theorem quiet_calls (w : Worker) (cs : List ServiceCall) : Quiet w { w with calls := cs } :=
  ⟨rfl, rfl, rfl, rfl, rfl, rfl, rfl, rfl⟩

variable {a : Agent}

theorem quiet_withAgent (ha : w.agent = some a) {a' : Agent} (hc : a'.config = a.config) :
    Quiet w { w with agent := some a' } := by
  refine ⟨rfl, rfl, rfl, rfl, rfl, rfl, rfl, ?_⟩
  simp [config?, ha, hc]

theorem quiet_saveUsers (users : UserLookup) (a : Agent) : Quiet w (w.saveUsers users a) := by
  unfold saveUsers
  split
  · exact ⟨rfl, rfl, rfl, rfl, rfl, rfl, rfl, rfl⟩
  · exact .refl w

theorem ran_of_run? (ha : w.agent = some a) (h : w.run? a t = some w') : Ran w a t w' := by
  unfold run? at h
  cases hp : t.program with
  | done v =>
    simp only [hp] at h
    cases h
    exact .ended (.ok v) (congrArg some hp)
  | fail f =>
    simp only [hp] at h
    cases h
    exact .ended (.error f) (congrArg some hp)
  | userCanister next =>
    simp only [hp] at h
    cases h
    have ht : t.told? a = some (.canister a.userCanister) := by simp only [Task.told?, hp]
    exact .goesOn _ _ _ (.refl w) ht (by rw [hp]; rfl)
  | setUserCanister canister next =>
    simp only [hp] at h
    cases h
    have ht : t.told? a = some (.nothing) := by simp only [Task.told?, hp]
    exact .goesOn _ _ _ (quiet_withAgent ha rfl) ht (by rw [hp]; rfl)
  | enter g next =>
    simp only [hp] at h
    cases hph : t.phase with
    | running =>
      simp only [hph] at h
      cases h
      rw [← hp]
      have ht : t.told? a = none := by simp only [Task.told?, hp, hph]
      exact .waits _ .queued (quiet_withAgent ha (Agent.config_enter ..)) ht
    | queued =>
      simp only [hph] at h
      split at h
      · cases h
        have ht : t.told? a = some .nothing := by simp only [Task.told?, hp, hph]
        exact .goesOn _ _ _ (.refl w) ht (by rw [hp]; rfl)
      · cases h
    | calling =>
      simp only [hph] at h
      split at h
      · cases h
        have ht : t.told? a = some .nothing := by simp only [Task.told?, hp, hph]
        exact .goesOn _ _ _ (.refl w) ht (by rw [hp]; rfl)
      · cases h
  | leave g next =>
    simp only [hp] at h
    cases h
    have ht : t.told? a = some (.nothing) := by simp only [Task.told?, hp]
    exact .goesOn _ _ _ (quiet_withAgent ha (Agent.config_leave ..)) ht (by rw [hp]; rfl)
  | call c next =>
    simp only [hp] at h
    cases hph : t.phase with
    | running =>
      simp only [hph] at h
      cases h
      rw [← hp]
      have ht : t.told? a = none := by simp only [Task.told?, hp]
      exact .waits _ .calling (quiet_calls w _) ht
    | queued => simp only [hph] at h; cases h
    | calling => simp only [hph] at h; cases h
  | users next =>
    simp only [hp] at h
    cases h
    have ht : t.told? a = some (.users a.cache.users) := by simp only [Task.told?, hp]
    exact .goesOn _ _ _ (.refl w) ht (by rw [hp]; rfl)
  | upsert users next =>
    simp only [hp] at h
    cases h
    have ht : t.told? a = some (.count (a.cache.upsert users).2) := by simp only [Task.told?, hp]
    exact .goesOn _ _ _ (quiet_withAgent ha rfl) ht (by rw [hp]; rfl)
  | save users next =>
    simp only [hp] at h
    cases h
    have ht : t.told? a = some (.nothing) := by simp only [Task.told?, hp]
    exact .goesOn _ _ _ (quiet_saveUsers users a) ht (by rw [hp]; rfl)
  | emit e next =>
    simp only [hp] at h
    cases h
    have ht : t.told? a = some (.nothing) := by simp only [Task.told?, hp]
    exact .goesOn _ _ _ (quiet_events w _) ht (by rw [hp]; rfl)

theorem endCall?_eq_some {e : CallEnd} (ha : w.agent = some a) (h : w.endCall? a t e = some w') :
    (∃ r p, e = .answered r ∧ t.program.next? (.answer r) = some p ∧ w' = w.proceed t p) ∨
    (e = .crashed ∧ ∃ w₁, Quiet w w₁ ∧ w' = w₁.finish t
      (.error t.correlationId (.internal (t.kind ++ " handler panicked")))) := by
  unfold endCall? at h
  split at h
  · rename_i next r hp _
    cases h
    exact .inl ⟨r, next r, rfl, by rw [hp]; rfl, rfl⟩
  · cases h
    exact .inr ⟨rfl, _, quiet_withAgent ha (by simp), rfl⟩
  · cases h

/-! ## The other steps -/

theorem receive?_eq_some (h : w.receive? = some w') : w.serving = true ∧ w.settingUp = none ∧
    ∃ e rest, w.inbox = e :: rest ∧ w' = { w with inbox := rest }.handle e := by
  unfold receive? at h
  split at h
  · rename_i e rest hs hu hi
    exact ⟨hs, hu, e, rest, hi, (Option.some.inj h).symm⟩
  · cases h

theorem withTask_eq_some {f : Agent → Task → Option Worker}
    (h : (match w.agent, w.task? n with | some a, some t => f a t | _, _ => none) = some w') :
    ∃ a t, w.agent = some a ∧ w.task? n = some t ∧ f a t = some w' := by
  split at h
  · rename_i a t ha ht
    exact ⟨a, t, ha, ht, h⟩
  · cases h

theorem react?_run (hg : w.agent = some a) (ht : w.task? n = some t) :
    w.react? (.act (.run n)) = w.run? a t := by
  show w.step? (.run n) = _
  unfold step?
  simp only [hg, ht]

theorem react?_endCall {e : CallEnd} (hg : w.agent = some a) (ht : w.task? n = some t) :
    w.react? (.act (.endCall n e)) = w.endCall? a t e := by
  show w.step? (.endCall n e) = _
  unfold step?
  simp only [hg, ht]

theorem forward?_eq_some (h : w.forward? = some w') : ∃ w₁ es, Quiet w w₁ ∧
    (∀ e ∈ es, e.isReply = false) ∧ w' = { w₁ with outbox := w.outbox ++ es } := by
  unfold forward? at h
  split at h
  · cases h
  · rename_i rest _
    cases h
    exact ⟨_, [], quiet_events w (some rest), by simp, by simp⟩
  · rename_i e rest _
    split at h
    · cases h
      exact ⟨_, [], quiet_events w none, by simp, by simp⟩
    · rename_i hw
      cases h
      refine ⟨_, [.event e], quiet_events w (some rest), ?_, ?_⟩
      · simp [Envelope.isReply]
      · simp [post, hw]

end
end Worker
end ChatBridge
