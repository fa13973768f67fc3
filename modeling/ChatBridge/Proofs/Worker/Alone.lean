import ChatBridge.Proofs.Capability
import ChatBridge.Proofs.Worker.Courses
import ChatBridge.Proofs.Worker.UserCanister

/-!
# A request on its own

A task that finds nobody at the gates goes on to its end, if its calls end. So for each request there
is a run in which the agent takes this one and no other.
-/

namespace ChatBridge

open Operation

namespace Worker

variable {service : ServiceCall → CallEnd} {config : AgentConfig} {own : String} {ss tt : History}
  {w w' : Worker} {x : Turn} {g : Agent} {t : Task} {n : Nat}

/-- A worker with one task, which finds the canister of the user and nobody at the gates. -/
structure Alone (config : AgentConfig) (own : String) (t : Task) (g : Agent) (w : Worker) : Prop where
  agent : w.agent = some g
  config : g.config = config
  slot : g.userCanister = some own
  gates : ∀ gate, ∀ m ∈ g.queue gate, m = t.number
  tasks : w.tasks = [t]
  settingUp : w.settingUp = none

variable (service config) in
/-- A part of a run in which no answer is lost, with the envelopes that are received in it and those
of them that are requests and find an agent. -/
structure Leg (w : Worker) (ss : History) (v : Worker) (es qs : List Envelope) : Prop where
  run : Run react? w ss v
  scheduled : Scheduled service config ss
  kept : ¬ Lost ss
  received : ss.filterMap received? = es
  requests : requests ss = qs

section
variable {v u : Worker} {es es' qs qs' : List Envelope}

theorem Leg.append (h : Leg service config w ss v es qs) (h' : Leg service config v tt u es' qs') :
    Leg service config w (ss ++ tt) u (es ++ es') (qs ++ qs') where
  run := h.run.append h'.run
  scheduled s hs := (List.mem_append.mp hs).elim (h.scheduled s) (h'.scheduled s)
  kept := by
    rintro ⟨s, hs, ha⟩
    exact (List.mem_append.mp hs).elim (fun hs => h.kept ⟨s, hs, ha⟩) fun hs => h'.kept ⟨s, hs, ha⟩
  received := by rw [List.filterMap_append, h.received, h'.received]
  requests := by
    rw [← h.requests, ← h'.requests, Worker.requests, List.filter_append, List.filterMap_append,
      List.filter_append]
    rfl

end

theorem Leg.nil (w : Worker) : Leg service config w [] w [] [] := by
  refine ⟨.nil, fun s hs => absurd hs List.not_mem_nil, ?_, rfl, rfl⟩
  rintro ⟨s, hs, _⟩
  exact absurd hs List.not_mem_nil

theorem Leg.single (hs : w.react? x = some w') (hr : Regular service config ⟨w, x, w'⟩)
    (hx : ¬ (x = .act .abandon ∨ x = .act .halt)) (he : received? ⟨w, x, w'⟩ = none) :
    Leg service config w [⟨w, x, w'⟩] w' [] [] where
  run := .single hs
  scheduled s hs := by
    cases List.mem_singleton.mp hs
    exact hr
  kept := by
    rintro ⟨s, hs, ha⟩
    cases List.mem_singleton.mp hs
    exact hx ha
  received := by rw [List.filterMap_cons_none he]; rfl
  requests := by
    have hnone : ([(⟨w, x, w'⟩ : Step Worker Turn)].filter (·.before.agent.isSome)).filterMap
        received? = [] := List.filterMap_eq_nil_iff.mpr fun s hs => by
      cases List.mem_singleton.mp (List.mem_filter.mp hs).1
      exact he
    rw [Worker.requests, hnone]
    rfl

variable (service config) in
def Finishes (w : Worker) : Prop :=
  ∃ tt v, Leg service config w tt v [] [] ∧ v.tasks = [] ∧ v.settingUp = none

theorem Finishes.step (h : Finishes service config w') (hs : w.react? x = some w')
    (hr : Regular service config ⟨w, x, w'⟩) (hx : ¬ (x = .act .abandon ∨ x = .act .halt))
    (he : received? ⟨w, x, w'⟩ = none) : Finishes service config w := by
  obtain ⟨tt, v, hleg, ht, hset⟩ := h
  exact ⟨_, v, (Leg.single hs hr hx he).append hleg, ht, hset⟩

section
variable (h : Alone config own t g w)
include h

theorem Alone.task? : w.task? t.number = some t := by simp [Worker.task?, h.tasks]

theorem Alone.config_after (hs : w.react? x = some w') (g' : Agent) (hg : w'.agent = some g') :
    g'.config = config := by
  obtain ⟨_, g₁, hg₁, hsame⟩ := same_of_react hs h.settingUp h.agent
  cases hg.symm.trans hg₁
  exact hsame.config.trans h.config

theorem Alone.run (hr : w.run? g t = some w') (hf : Finishes service config w') :
    Finishes service config w := by
  have hs := (react?_run h.agent h.task?).trans hr
  exact hf.step hs ⟨nofun, h.config_after hs, nofun⟩ nofun rfl

theorem Alone.endCall {e : CallEnd} {c : ServiceCall}
    {next : Except ServiceFailure Json → Program Json} (hp : t.program = .call c next)
    (he : e = service c) (hr : w.endCall? g t e = some w') (hf : Finishes service config w') :
    Finishes service config w := by
  have hs : w.react? (.act (.endCall t.number e)) = some w' :=
    (react?_endCall h.agent h.task?).trans hr
  refine hf.step hs ⟨fun m e' u c' next' ha hu hp' => ?_, h.config_after hs, nofun⟩ nofun rfl
  cases ha
  cases h.task?.symm.trans hu
  cases hp.symm.trans hp'
  exact he

theorem Alone.goesOn (w₁ : Worker) {g' : Agent} {u : Task} (hu : u.number = t.number)
    (hg : w₁.agent = some g') (hc : g'.config = g.config) (hs : g'.userCanister = g.userCanister)
    (hq : ∀ gate, ∀ m ∈ g'.queue gate, m = t.number) (ht : w₁.tasks = w.tasks)
    (hset : w₁.settingUp = w.settingUp) : Alone config own u g' (w₁.setTask u) where
  agent := hg
  config := hc.trans h.config
  slot := hs.trans h.slot
  gates := hu ▸ hq
  tasks := by
    show w₁.tasks.map _ = _
    rw [ht, h.tasks]
    simp [hu]
  settingUp := hset.trans h.settingUp

theorem Alone.proceeds {p : Program Json} :
    Alone config own { t with program := p, phase := .running } g (w.proceed t p) :=
  h.goesOn w rfl h.agent rfl rfl h.gates rfl rfl

end

theorem finishes_of_finish (e : Envelope) (hw : w.tasks = [t]) (hs : w.settingUp = none) :
    Finishes service config (w.finish t e) := by
  refine ⟨[], w.finish t e, .nil _, ?_, ?_⟩
  · unfold finish
    rw [tasks_post]
    show w.tasks.filter _ = _
    rw [hw]
    simp
  · unfold finish
    rw [settingUp_post]
    exact hs

theorem finishes_of_comes {p : Program Json} {o : Option (Except Fault Json)} {id kind : String}
    (h : p.Comes service own o) (hw : Alone config own ⟨n, id, kind, p, .running⟩ g w) :
    Finishes service config w := by
  induction h generalizing w g with
  | done => exact hw.run rfl (finishes_of_finish _ hw.tasks hw.settingUp)
  | fail => exact hw.run rfl (finishes_of_finish _ hw.tasks hw.settingUp)
  | userCanister h ih =>
    refine hw.run rfl (ih (g := g) ?_)
    rw [hw.slot]
    exact hw.proceeds
  | @enter gate next _ _ ih =>
    have hqueued : Alone config own ⟨n, id, kind, .enter gate next, .queued⟩ (g.enter gate n) _ :=
      hw.goesOn { w with agent := some (g.enter gate n) } rfl rfl (Agent.config_enter ..)
        (Agent.userCanister_setQueue _)
        (fun gate' m hm => (Agent.mem_queue_enter hm).elim (hw.gates gate' m) fun he => he) rfl rfl
    exact hw.run rfl (hqueued.run (if_pos (Agent.isInside_enter (hw.gates gate))) (ih hqueued.proceeds))
  | @leave gate next _ _ ih =>
    refine hw.run rfl (ih (g := g.leave gate n) ?_)
    exact hw.goesOn { w with agent := some (g.leave gate n) } rfl rfl (Agent.config_leave ..)
      (Agent.userCanister_setQueue _) (fun gate' m hm => hw.gates gate' m (Agent.mem_queue_leave hm))
      rfl rfl
  | @answered c next y _ hc _ ih =>
    have hcall : Alone config own ⟨n, id, kind, .call c next, .calling⟩ g _ :=
      hw.goesOn { w with calls := w.calls ++ [c] } rfl hw.agent rfl rfl hw.gates rfl rfl
    exact hw.run rfl (hcall.endCall rfl hc.symm rfl (ih hcall.proceeds))
  | @crashed c next hc =>
    have hcall : Alone config own ⟨n, id, kind, .call c next, .calling⟩ g _ :=
      hw.goesOn { w with calls := w.calls ++ [c] } rfl hw.agent rfl rfl hw.gates rfl rfl
    exact hw.run rfl (hcall.endCall rfl hc.symm rfl (finishes_of_finish _ hcall.tasks hcall.settingUp))
  | users h ih => exact hw.run rfl (ih _ hw.proceeds)
  | upsert h ih =>
    exact hw.run rfl (ih _ (hw.goesOn _ rfl rfl rfl rfl hw.gates rfl rfl))
  | @save us next _ _ ih =>
    refine hw.run rfl (ih (hw.goesOn (w.saveUsers us g) rfl ?_ rfl rfl hw.gates ?_ ?_))
    · exact (agent_saveUsers us).trans hw.agent
    · exact (quiet_saveUsers us g).tasks
    · exact (quiet_saveUsers us g).settingUp
  | @emit e next _ _ ih =>
    exact hw.run rfl (ih (hw.goesOn (w.emit e) rfl hw.agent rfl rfl hw.gates rfl rfl))

/-- Nobody has anything left to do, and no answer is lost. -/
def Over (ss : History) (w : Worker) : Prop := ¬ Lost ss ∧ w.tasks = [] ∧ w.settingUp = none

def ready (disk : Option DataDir) (now : UInt64) (config : AgentConfig) : Worker :=
  (start disk now).setUp "" config ⟨"me"⟩

section
variable {disk : Option DataDir} {now : UInt64} {kind : String} {payload : Json}

variable (service config disk now) in
theorem exists_ready : ∃ ss, Leg service config (start disk now) ss (ready disk now config)
    [.request "" initKind ((Wire.codec : Codec AgentConfig).toValue config)] [] := by
  let setUp : Envelope := .request "" initKind ((Wire.codec : Codec AgentConfig).toValue config)
  let w₀ := start disk now
  let w₂ : Worker := { w₀ with settingUp := some ("", config) }
  have h₁ : w₀.react? (.deliver setUp) = some { w₀ with inbox := [setUp] } := rfl
  have h₂ : ({ w₀ with inbox := [setUp] } : Worker).react? (.act .receive) = some w₂ := by
    show some (w₀.handleSetUp "" (Wire.codec.toValue config)) = _
    unfold handleSetUp
    rw [(Wire.Faithful.faithful (α := AgentConfig)).ofValue_toValue]
    rfl
  have h₃ : w₂.react? (.act (.provide (.ok (some ⟨"me"⟩)))) = some (ready disk now config) := rfl
  refine ⟨_, ((Run.single h₁).snoc h₂).snoc h₃, fun s hs => ?_, ?_, rfl, rfl⟩
  · simp only [List.cons_append, List.nil_append, List.mem_cons, List.not_mem_nil, or_false] at hs
    rcases hs with rfl | rfl | rfl
    · exact ⟨nofun, nofun, nofun⟩
    · exact ⟨nofun, nofun, nofun⟩
    · exact ⟨nofun, fun g hg => by cases hg; rfl, nofun⟩
  · simp [Lost]

variable (service config disk now) in
theorem exists_received (hs : SteadyAs kind payload) (id : String) :
    ∃ ss, Leg service config (ready disk now config) ss
      ((ready disk now config).handle (.request id kind payload))
      [.request id kind payload] [.request id kind payload] := by
  let request : Envelope := .request id kind payload
  let w₀ := ready disk now config
  have h₁ : w₀.react? (.deliver request) = some { w₀ with inbox := [request] } := rfl
  have h₂ : ({ w₀ with inbox := [request] } : Worker).react? (.act .receive) =
      some (w₀.handle request) := rfl
  refine ⟨_, (Run.single h₁).snoc h₂, fun s hs => ?_, ?_, rfl, rfl⟩
  · simp only [List.cons_append, List.nil_append, List.mem_cons, List.not_mem_nil, or_false] at hs
    rcases hs with rfl | rfl
    · exact ⟨nofun, fun g hg => by cases hg; rfl, nofun⟩
    · refine ⟨nofun, fun g hg => ?_, fun _ id' kind' payload' hr => ?_⟩
      · cases (agent_handle (w := w₀) request).symm.trans hg
        rfl
      · injection Option.some.inj hr with _ hk hp
        rwa [← hk, ← hp]
  · simp [Lost]

variable (service disk now) in
theorem finishes_of_handle (hown : config.userCanister = some own) (hs : SteadyAs kind payload)
    (id : String) :
    Finishes service config ((ready disk now config).handle (.request id kind payload)) := by
  have ends (w : Worker) (ht : w.tasks = []) (hs : w.settingUp = none) :
      Finishes service config w := ⟨[], w, .nil w, ht, hs⟩
  have hh := handled (ready disk now config) id kind payload
  generalize (ready disk now config).handle (.request id kind payload) = w at hh ⊢
  cases hh with
  | refused y _ _ => exact ends _ rfl rfl
  | again _ _ _ _ => exact ends _ rfl rfl
  | begun _ _ _ ha => cases ha
  | unknown _ _ => exact ends _ rfl rfl
  | early _ _ _ ha => cases ha
  | spawned c g hk hc hg =>
    cases hg
    have hdefinite : (Operation.handle config c payload).Definite service own :=
      definite_handle config fun q => hs c q hc
    obtain ⟨o, ho⟩ := hdefinite
    have halone : Alone config own ⟨0, id, c.kind, Operation.handle config c payload, .running⟩
        (.start config ⟨"me"⟩ (start disk now).openCache)
        ((ready disk now config).spawn config id c payload) := by
      refine ⟨rfl, rfl, hown, fun gate m hm => ?_, rfl, rfl⟩
      cases gate <;> exact absurd hm List.not_mem_nil
    exact finishes_of_comes ho halone

variable (service disk now) in
theorem exists_alone (hown : config.userCanister = some own) (hs : SteadyAs kind payload)
    (id : String) : ∃ tt v, Leg service config (start disk now) tt v
      [.request "" initKind ((Wire.codec : Codec AgentConfig).toValue config),
        .request id kind payload] [.request id kind payload] ∧ Over tt v := by
  obtain ⟨ss, hready⟩ := exists_ready service config disk now
  obtain ⟨ss', hreceived⟩ := exists_received service config disk now hs id
  obtain ⟨tt, v, hrest, ht, hset⟩ := finishes_of_handle service disk now hown hs id
  have hleg := (hready.append hreceived).append hrest
  exact ⟨_, v, hleg, hleg.kept, ht, hset⟩

end

end Worker
end ChatBridge
