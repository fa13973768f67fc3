import ChatBridge.Proofs.Agent.Faults
import ChatBridge.Proofs.Worker.Replies
import ChatBridge.Proofs.Worker.Traffic

/-!
# Who founds the agent

The first request to set up the agent whose payload can be read and for which somebody is signed in
founds the agent; the requests received before it are the early ones, those after it the late ones.
No other request has a part in whose agent it is, and early requests for a handler are turned away.
-/

namespace ChatBridge

namespace Agent

structure Same (g g' : Agent) : Prop where
  config : g'.config = g.config
  identity : g'.identity = g.identity

variable {g : Agent}

theorem Same.refl (g : Agent) : Same g g := ⟨rfl, rfl⟩

theorem same_setQueue (gate : Gate) (l : List Nat) : Same g (g.setQueue gate l) := by
  cases gate with
  | resolving => exact ⟨rfl, rfl⟩
  | saving => exact ⟨rfl, rfl⟩

theorem same_abandon (n : Nat) : Same g (g.abandon n) := by
  have h₁ : Same g (g.leave .resolving n) := same_setQueue ..
  have h₂ : Same (g.leave .resolving n) ((g.leave .resolving n).leave .saving n) := same_setQueue ..
  exact ⟨h₂.config.trans h₁.config, h₂.identity.trans h₁.identity⟩

end Agent

namespace Worker

variable {w w' : Worker} {a : Action} {g : Agent} {t : Task} {n : Nat}

/-! ## What becomes of the agent -/

@[simp] theorem agent_finish (e : Envelope) : (w.finish t e).agent = w.agent := agent_post ..

@[simp] theorem agent_saveUsers (users : UserLookup) : (w.saveUsers users g).agent = w.agent := by
  unfold saveUsers
  split
  · rfl
  · rfl

theorem agent_of_run? (hg : w.agent = some g) (h : w.run? g t = some w') :
    ∃ g', w'.agent = some g' ∧ Agent.Same g g' := by
  have kept (hw : w'.agent = w.agent) : ∃ g', w'.agent = some g' ∧ Agent.Same g g' :=
    ⟨g, hw.trans hg, .refl g⟩
  unfold run? at h
  cases hp : t.program with
  | done v => simp only [hp] at h; cases h; exact kept (agent_finish _)
  | fail f => simp only [hp] at h; cases h; exact kept (agent_finish _)
  | userCanister next => simp only [hp] at h; cases h; exact kept rfl
  | setUserCanister canister next => simp only [hp] at h; cases h; exact ⟨_, rfl, rfl, rfl⟩
  | enter gate next =>
    simp only [hp] at h
    cases hph : t.phase with
    | running => simp only [hph] at h; cases h; exact ⟨_, rfl, Agent.same_setQueue ..⟩
    | _ =>
      simp only [hph] at h
      split at h
      · cases h; exact kept rfl
      · cases h
  | leave gate next => simp only [hp] at h; cases h; exact ⟨_, rfl, Agent.same_setQueue ..⟩
  | call c next =>
    simp only [hp] at h
    cases hph : t.phase with
    | running => simp only [hph] at h; cases h; exact kept rfl
    | _ => simp only [hph] at h; cases h
  | users next => simp only [hp] at h; cases h; exact kept rfl
  | upsert users next => simp only [hp] at h; cases h; exact ⟨_, rfl, rfl, rfl⟩
  | save users next => simp only [hp] at h; cases h; exact kept (agent_saveUsers users)
  | emit e next => simp only [hp] at h; cases h; exact kept rfl

theorem agent_of_endCall? {e : CallEnd} (hg : w.agent = some g) (h : w.endCall? g t e = some w') :
    ∃ g', w'.agent = some g' ∧ Agent.Same g g' := by
  unfold endCall? at h
  split at h
  · cases h; exact ⟨g, hg, .refl g⟩
  · cases h; exact ⟨_, agent_finish _, Agent.same_abandon ..⟩
  · cases h

theorem agent_handle (e : Envelope) : (w.handle e).agent = w.agent := by
  cases e with
  | request id kind payload =>
    have h := handled w id kind payload
    generalize w.handle (.request id kind payload) = w' at h ⊢
    cases h with
    | refused _ _ _ => exact agent_post ..
    | again _ _ _ _ => exact agent_post ..
    | early _ _ _ _ => exact agent_post ..
    | _ => rfl
  | _ => rfl

theorem resolveIdentity_eq_somebody {p : Provided} {i : Identity} :
    resolveIdentity p = .ok (some i) ↔ p = .ok (some i) ∧ i.isAnonymous = false := by
  unfold resolveIdentity
  cases p with
  | error e => simp [Except.map]
  | ok j =>
    cases j with
    | none => simp [Except.map]
    | some j =>
      simp only [Except.map, Except.ok.injEq, Option.filter_eq_some_iff, Option.some.injEq,
        Bool.not_eq_true']

theorem agent_of_step (h : w.step? a = some w') : w'.agent = w.agent ∨
    (∃ id config i, w.settingUp = some (id, config) ∧ a = .provide (.ok (some i)) ∧
      i.isAnonymous = false ∧ w'.agent = some (.start config i w.openCache)) ∨
    (∃ n g g', a.owner? = some (.task n) ∧ w.agent = some g ∧ w'.agent = some g' ∧
      Agent.Same g g') := by
  cases a with
  | receive =>
    obtain ⟨_, _, e, rest, _, rfl⟩ := receive?_eq_some h
    exact .inl (agent_handle e)
  | provide p =>
    obtain ⟨id, config, hs, rfl⟩ := provide_eq_some h
    cases hi : resolveIdentity p with
    | error e => rw [endSetUp_of_error hi]; exact .inl (agent_post ..)
    | ok i =>
      cases i with
      | none => rw [endSetUp_of_nobody hi]; exact .inl rfl
      | some i =>
        obtain ⟨rfl, hsigned⟩ := resolveIdentity_eq_somebody.mp hi
        rw [endSetUp_of_identity hi]
        exact .inr (.inl ⟨id, config, i, hs, rfl, hsigned, agent_post ..⟩)
  | run n =>
    obtain ⟨g, t, hg, _, h⟩ := withTask_eq_some h
    obtain ⟨g', hg', hsame⟩ := agent_of_run? hg h
    exact .inr (.inr ⟨n, g, g', rfl, hg, hg', hsame⟩)
  | endCall n e =>
    obtain ⟨g, t, hg, _, h⟩ := withTask_eq_some h
    obtain ⟨g', hg', hsame⟩ := agent_of_endCall? hg h
    exact .inr (.inr ⟨n, g, g', rfl, hg, hg', hsame⟩)
  | forward =>
    left
    simp only [step?, forward?] at h
    split at h
    · cases h
    · cases h; rfl
    · split at h
      · cases h; rfl
      · cases h; exact agent_post ..
  | stop =>
    simp only [step?] at h
    split at h
    · cases h; exact .inl rfl
    · cases h
  | abandon => cases h; exact .inl rfl
  | halt => cases h; exact .inl rfl

/-- For whom the agent is there, and how it is set up. -/
def whose (w : Worker) : Option (AgentConfig × Identity) := w.agent.map fun g => (g.config, g.identity)

theorem whose_of_agent (h : w'.agent = w.agent) : w'.whose = w.whose := by
  rw [whose, whose, h]

theorem whose_of_step (h : w.step? a = some w') (hp : ∀ p, a ≠ .provide p) :
    w'.whose = w.whose := by
  rcases agent_of_step h with ha | ⟨_, _, i, _, ha, _⟩ | ⟨_, g, g', _, hg, hg', hsame⟩
  · exact whose_of_agent ha
  · exact absurd ha (hp _)
  · simp [whose, hg, hg', hsame.config, hsame.identity]

theorem agent_of_whose (h : w'.whose = w.whose) (hnone : w.agent = none) : w'.agent = none := by
  rw [whose, whose, hnone, Option.map_none] at h
  exact Option.map_eq_none_iff.mp h

def Abandoned (ss : History) : Prop := ∃ s ∈ ss, s.action = .act .abandon

def delivered? (s : Step Worker Turn) : Option Envelope :=
  match s.action with
  | .deliver e => some e
  | _ => none

end Worker

/-! ## Early and late requests -/

namespace Row

/-- The request is one to set up the agent, can be read, and somebody is signed in for it. -/
structure Founds (r : Row) (config : AgentConfig) (i : Identity) : Prop where
  kind : r.kind = initKind
  payload : (Wire.codec : Codec AgentConfig).ofValue r.payload = .ok config
  provided : r.provided = some (.ok (some i))
  signedIn : i.isAnonymous = false

/-- There is a handler for the request. -/
def Known (r : Row) : Prop := r.kind ≠ initKind ∧ (Capability.ofKind? r.kind).isSome = true

/-- The request has this answer, if answers are not `lost`. -/
def Answered (lost : Prop) (r : Row) (e : Envelope) : Prop :=
  r.replies = [e] ∨ lost ∧ r.replies = []

def againReply (r : Row) : Envelope :=
  match (Wire.codec : Codec AgentConfig).ofValue r.payload with
  | .ok _ => .response r.id .null
  | .error x => .error r.id (.invalidPayload initKind x.message)

structure Early (lost : Prop) (r : Row) : Prop where
  founds : ∀ config i, ¬ r.Founds config i
  known : r.Known → r.owner = none ∧ r.Answered lost (.error r.id .agentNotInitialized)

structure Late (lost : Prop) (config : AgentConfig) (r : Row) : Prop where
  config : r.config = some config
  provided : r.provided = none
  again : r.kind = initKind → r.owner = none ∧ r.Answered lost r.againReply

/-- What has come in once the agent was there: at its head the request that founded it. -/
def Founded (lost : Prop) : Option (AgentConfig × Identity) → List Row → Prop
  | none, late => late = []
  | some (config, i), late =>
    ∃ r after, late = r :: after ∧ r.Founds config i ∧ ∀ q ∈ after, q.Late lost config

structure Onward (r r' : Row) : Prop where
  id : r'.id = r.id
  kind : r'.kind = r.kind
  payload : r'.payload = r.payload
  config : r'.config = r.config
  provided : r'.provided = r.provided
  ended : r.owner = none → r'.owner = none ∧ r'.replies = r.replies

variable {lost lost' : Prop} {r r' : Row} {config : AgentConfig} {i : Identity} {e : Envelope}

theorem Onward.refl (r : Row) : Onward r r := ⟨rfl, rfl, rfl, rfl, rfl, fun h => ⟨h, rfl⟩⟩

theorem Answered.mono (h : r.Answered lost e) (hl : lost → lost') : r.Answered lost' e :=
  h.imp (fun x => x) fun x => ⟨hl x.1, x.2⟩

theorem founds_onward (ho : Onward r r') : r'.Founds config i ↔ r.Founds config i := by
  constructor
  · rintro ⟨hk, hd, hp, hs⟩
    exact ⟨ho.kind ▸ hk, ho.payload ▸ hd, ho.provided ▸ hp, hs⟩
  · rintro ⟨hk, hd, hp, hs⟩
    exact ⟨ho.kind ▸ hk, ho.payload ▸ hd, ho.provided ▸ hp, hs⟩

theorem Early.onward (h : r.Early lost) (ho : Onward r r') : r'.Early lost where
  founds config i hf := h.founds config i ((founds_onward ho).mp hf)
  known hk := by
    rw [Known, ho.kind] at hk
    obtain ⟨hown, hrep⟩ := h.known hk
    obtain ⟨hown', hsame⟩ := ho.ended hown
    exact ⟨hown', by rwa [Answered, hsame, ho.id]⟩

theorem Late.onward (h : r.Late lost config) (ho : Onward r r') : r'.Late lost config where
  config := ho.config.trans h.config
  provided := ho.provided.trans h.provided
  again hk := by
    obtain ⟨hown, hrep⟩ := h.again (ho.kind ▸ hk)
    obtain ⟨hown', hsame⟩ := ho.ended hown
    exact ⟨hown', by rwa [Answered, hsame, againReply, ho.payload, ho.id]⟩

theorem Early.mono (h : r.Early lost) (hl : lost → lost') : r.Early lost' :=
  ⟨h.founds, fun hk => ⟨(h.known hk).1, (h.known hk).2.mono hl⟩⟩

theorem Late.mono (h : r.Late lost config) (hl : lost → lost') : r.Late lost' config :=
  ⟨h.config, h.provided, fun hk => ⟨(h.again hk).1, (h.again hk).2.mono hl⟩⟩

theorem Founded.mono {who : Option (AgentConfig × Identity)} {late : List Row}
    (h : Founded lost who late) (hl : lost → lost') : Founded lost' who late := by
  cases who with
  | none => exact h
  | some who =>
    obtain ⟨r, after, hlate, hr, hafter⟩ := h
    exact ⟨r, after, hlate, hr, fun q hq => (hafter q hq).mono hl⟩

theorem Founded.map {who : Option (AgentConfig × Identity)} {late : List Row} {f : Row → Row}
    (h : Founded lost who late) (hf : ∀ q, Onward q (f q)) : Founded lost who (late.map f) := by
  cases who with
  | none =>
    rw [show late = [] from h]
    rfl
  | some who =>
    obtain ⟨r, after, rfl, hr, hafter⟩ := h
    refine ⟨f r, after.map f, rfl, (founds_onward (hf r)).mpr hr, fun q hq => ?_⟩
    obtain ⟨p, hp, rfl⟩ := List.mem_map.mp hq
    exact (hafter p hp).onward (hf p)

end Row

/-- The rows before and after the agent, where nothing is received while setting up goes on. -/
structure Parted (lost : Prop) (rows : List Row) (w : Worker) : Prop where
  abandoned : w.abandoned = true → lost
  waiting : w.settingUp.isSome = true → w.agent = none ∧
    ∃ early r, rows = early ++ [r] ∧ r.owner = some .setUp
  parts : ∃ early late, rows = early ++ late ∧ (∀ q ∈ early, q.Early lost) ∧
    Row.Founded lost w.whose late

namespace Parted

open Worker

variable {lost lost' : Prop} {rows : List Row} {w w' : Worker} {a : Action} {r : Row}

theorem start (disk : Option DataDir) (now : UInt64) : Parted lost [] (Worker.start disk now) where
  abandoned h := by cases h
  waiting h := by cases h
  parts := ⟨[], [], rfl, nofun, rfl⟩

theorem mono (p : Parted lost rows w) (hl : lost → lost') : Parted lost' rows w where
  abandoned h := hl (p.abandoned h)
  waiting := p.waiting
  parts := by
    obtain ⟨early, late, hrows, hearly, hlate⟩ := p.parts
    exact ⟨early, late, hrows, fun q hq => (hearly q hq).mono hl, hlate.mono hl⟩

theorem mapped (p : Parted lost rows w) {f : Row → Row} (hf : ∀ q, Row.Onward q (f q))
    (hw : w'.whose = w.whose) (ha : w'.abandoned = true → lost)
    (hs : w'.settingUp.isSome = true → w'.agent = none ∧
      ∃ early r, rows.map f = early ++ [r] ∧ r.owner = some .setUp) :
    Parted lost (rows.map f) w' where
  abandoned := ha
  waiting := hs
  parts := by
    obtain ⟨early, late, rfl, hearly, hlate⟩ := p.parts
    refine ⟨early.map f, late.map f, List.map_append, fun q hq => ?_, hw ▸ hlate.map hf⟩
    obtain ⟨x, hx, rfl⟩ := List.mem_map.mp hq
    exact (hearly x hx).onward (hf x)

theorem kept (p : Parted lost rows w) (hw : w'.whose = w.whose) (ha : w'.abandoned = true → lost)
    (hs : w'.settingUp = w.settingUp) (hn : w.agent = none → w'.agent = none) :
    Parted lost rows w' where
  abandoned := ha
  waiting h := by
    obtain ⟨hnone, hlast⟩ := p.waiting (hs ▸ h)
    exact ⟨hn hnone, hlast⟩
  parts := by rw [hw]; exact p.parts

theorem entered (p : Parted lost rows w) (hw : w'.whose = w.whose)
    (ha : w'.abandoned = w.abandoned) (hearly : w.agent = none → r.Early lost)
    (hlate : ∀ g, w.agent = some g → r.Late lost g.config)
    (hs : w'.settingUp.isSome = true → w'.agent = none ∧ r.owner = some .setUp) :
    Parted lost (rows ++ [r]) w' where
  abandoned h := p.abandoned (ha ▸ h)
  waiting h := ⟨(hs h).1, rows, r, rfl, (hs h).2⟩
  parts := by
    obtain ⟨early, late, rfl, hold, hfounded⟩ := p.parts
    rw [hw]
    cases hg : w.agent with
    | none =>
      rw [whose, hg] at hfounded ⊢
      cases show late = [] from hfounded
      refine ⟨early ++ [r], [], by simp, fun q hq => ?_, rfl⟩
      rcases List.mem_append.mp hq with hq | hq
      · exact hold q hq
      · cases List.mem_singleton.mp hq
        exact hearly hg
    | some g =>
      rw [whose, hg] at hfounded ⊢
      obtain ⟨f, after, rfl, hf, hafter⟩ := hfounded
      refine ⟨early, f :: (after ++ [r]), by simp, hold, f, after ++ [r], rfl, hf, fun q hq => ?_⟩
      rcases List.mem_append.mp hq with hq | hq
      · exact hafter q hq
      · cases List.mem_singleton.mp hq
        exact hlate g hg

/-! ## Receiving -/

theorem answered_of_post (p : Parted lost rows w) {e : Envelope} (hr : r.replies =
    if w.abandoned then [] else [e]) : r.Answered lost e := by
  by_cases ha : w.abandoned = true
  · rw [if_pos ha] at hr
    exact .inr ⟨p.abandoned ha, hr⟩
  · rw [if_neg ha] at hr
    exact .inl hr

theorem handled_kept {id kind : String} {payload : Json} (h : Handled w id kind payload w') :
    w'.agent = w.agent ∧ w'.abandoned = w.abandoned := by
  cases h with
  | refused _ _ _ => exact ⟨agent_post .., abandoned_post ..⟩
  | again _ _ _ _ => exact ⟨agent_post .., abandoned_post ..⟩
  | early _ _ _ _ => exact ⟨agent_post .., abandoned_post ..⟩
  | _ => exact ⟨rfl, rfl⟩

section
variable (p : Parted lost rows w) (l : Ledger lost' rows w) (hs : w.settingUp = none) {t : Turn}
  (ho : r.owner = ownerAfter ⟨w, t, w'⟩) (hp : r.provided = none)
  (h : Handled w r.id r.kind r.payload w')
  (hpost : ∀ e, e.isReply = true → w' = w.post e → r.replies = if w.abandoned then [] else [e])
include p l hs ho hpost

theorem closed_of_handled {e : Envelope} (he : e.isReply = true) (hw : w' = w.post e) :
    r.owner = none ∧ r.Answered lost e := by
  refine ⟨?_, p.answered_of_post (hpost e he hw)⟩
  rw [ho, hw]
  exact Ledger.ownerAfter_of_kept hs l.not_owes_next (settingUp_post w e) (tasks_post w e)

include hp h in
theorem early_of_handled (hg : w.agent = none) : r.Early lost where
  founds config i hf := by cases hp.symm.trans hf.provided
  known hk := by
    have closed := fun {e} => p.closed_of_handled l hs ho hpost (e := e)
    cases h with
    | refused _ hinit _ => exact absurd hinit hk.1
    | again _ hinit _ _ => exact absurd hinit hk.1
    | begun _ hinit _ _ => exact absurd hinit hk.1
    | unknown _ hc =>
      have := hk.2
      rw [hc] at this
      cases this
    | early _ _ _ _ => exact closed rfl rfl
    | spawned _ g _ _ hg' => cases hg.symm.trans hg'

include hp h in
theorem late_of_handled (hc : r.config = w.config?) {g : Agent} (hg : w.agent = some g) :
    r.Late lost g.config where
  config := by rw [hc, config?, hg]; rfl
  provided := hp
  again hk := by
    have closed := fun {e} => p.closed_of_handled l hs ho hpost (e := e)
    unfold Row.againReply
    cases h with
    | refused x _ hd => rw [hd]; exact closed rfl rfl
    | again _ _ hd _ => rw [hd]; exact closed rfl rfl
    | begun _ _ _ hnone => cases hnone.symm.trans hg
    | unknown hne _ => exact absurd hk hne
    | early _ hne _ _ => exact absurd hk hne
    | spawned _ _ hne _ _ => exact absurd hk hne

include hp h in
theorem entered_handled (hc : r.config = w.config?) : Parted lost (rows ++ [r]) w' := by
  obtain ⟨hagent, hab⟩ := handled_kept h
  refine p.entered (whose_of_agent hagent) hab (p.early_of_handled l hs ho hp h hpost)
    (fun g hg => p.late_of_handled l hs ho hp h hpost hc hg) fun hsome => ?_
  have idle (hs' : w'.settingUp = w.settingUp) : w'.agent = none ∧ r.owner = some .setUp := by
    rw [hs', hs] at hsome
    cases hsome
  cases h with
  | refused _ _ _ => exact idle (settingUp_post ..)
  | again _ _ _ _ => exact idle (settingUp_post ..)
  | begun _ _ _ hnone => exact ⟨hnone, ho⟩
  | unknown _ _ => exact idle rfl
  | early _ _ _ _ => exact idle (settingUp_post ..)
  | spawned _ _ _ _ _ => exact idle rfl

end

theorem received (p : Parted lost rows w) (l : Ledger lost' rows w) (h : w.receive? = some w') :
    Parted lost (note rows ⟨w, .act .receive, w'⟩) w' := by
  obtain ⟨_, hs, e, rest, hi, rfl⟩ := receive?_eq_some h
  have hin : ∀ x, received? ⟨w, .act .receive, x⟩ = some e := fun _ => by simp [received?, hi]
  -- what is left in the inbox has no part in this
  let w₁ : Worker := { w with inbox := rest }
  have p₁ : Parted lost rows w₁ := p.kept rfl p.abandoned rfl fun h => h
  have l₁ : Ledger lost' rows w₁ := l.kept rfl rfl rfl l.abandoned
  show Parted lost (rows ++ (rowOf? ⟨w, .act .receive, w₁.handle e⟩).toList) (w₁.handle e)
  unfold rowOf?
  rw [hin]
  cases e with
  | request id kind payload =>
    refine p₁.entered_handled (t := .act .receive) l₁ hs rfl rfl (handled w₁ id kind payload) ?_ rfl
    exact fun e he hw => repliesOf_of_post (by rw [hw]; exact outbox_post w₁ e) he
  | _ => rw [show (none : Option Row).toList = [] from rfl, List.append_nil]; exact p₁

/-! ## The other steps -/

theorem ran_kept {g : Agent} {t : Task} (h : Ran w g t w') :
    w'.abandoned = w.abandoned ∧ w'.settingUp = w.settingUp := by
  cases h with
  | ended x _ => exact ⟨abandoned_post .., settingUp_post ..⟩
  | waits w₁ _ hq _ => exact ⟨hq.abandoned, hq.settingUp⟩
  | goesOn w₁ _ _ hq _ _ => exact ⟨hq.abandoned, hq.settingUp⟩

theorem endCall?_kept {g : Agent} {t : Task} {e : CallEnd} (hg : w.agent = some g)
    (h : w.endCall? g t e = some w') :
    w'.abandoned = w.abandoned ∧ w'.settingUp = w.settingUp := by
  rcases endCall?_eq_some hg h with ⟨_, _, _, _, rfl⟩ | ⟨_, w₁, hq, rfl⟩
  · exact ⟨rfl, rfl⟩
  · exact ⟨(abandoned_post ..).trans hq.abandoned, (settingUp_post ..).trans hq.settingUp⟩

theorem onward_advance {s : Step Worker Turn} {o : Owner} (hp : providedBy? s = none) (q : Row) :
    Row.Onward q (advance s o q) := by
  unfold advance
  split
  · rename_i ho
    refine ⟨rfl, rfl, rfl, rfl, by rw [hp]; rfl, fun hnone => ?_⟩
    cases hnone.symm.trans ho
  · exact .refl q

theorem onward_halt (q : Row) : Row.Onward q { q with owner := none } :=
  ⟨rfl, rfl, rfl, rfl, rfl, fun _ => ⟨rfl, rfl⟩⟩

theorem advanced (p : Parted lost rows w) {n : Nat} (hg : w.agent.isSome = true)
    (hw : w'.whose = w.whose) (ha : w'.abandoned = w.abandoned) (hs : w'.settingUp = w.settingUp)
    (hp : providedBy? ⟨w, .act a, w'⟩ = none) :
    Parted lost (rows.map (advance ⟨w, .act a, w'⟩ (.task n))) w' := by
  refine p.mapped (onward_advance hp) hw (fun h => p.abandoned (ha ▸ h)) fun h => ?_
  have hnone := (p.waiting (hs ▸ h)).1
  rw [hnone] at hg
  cases hg

/-- The identity decides whether the request that waits for it founds the agent. -/
theorem parts_of_provided {before : List Row} {id : String} {config : AgentConfig} {x : Provided}
    (hearly : ∀ q ∈ before, q.Early lost) (hnone : w.agent = none) (hk : r.kind = initKind)
    (hd : (Wire.codec : Codec AgentConfig).ofValue r.payload = .ok config)
    (hp : r.provided = some x) :
    ∃ early late, before ++ [r] = early ++ late ∧ (∀ q ∈ early, q.Early lost) ∧
      Row.Founded lost (w.endSetUp id config x).whose late := by
  have nobody (hx : ∀ i, resolveIdentity x ≠ .ok (some i))
      (hagent : (w.endSetUp id config x).agent = w.agent) :
      ∃ early late, before ++ [r] = early ++ late ∧ (∀ q ∈ early, q.Early lost) ∧
        Row.Founded lost (w.endSetUp id config x).whose late := by
    refine ⟨before ++ [r], [], (List.append_nil _).symm, fun q hq => ?_, ?_⟩
    · rcases List.mem_append.mp hq with hq | hq
      · exact hearly q hq
      · cases List.mem_singleton.mp hq
        refine ⟨fun config' i hf => hx i ?_, fun hknown => absurd hk hknown.1⟩
        cases hp.symm.trans hf.provided
        exact resolveIdentity_eq_somebody.mpr ⟨rfl, hf.signedIn⟩
    · rw [whose_of_agent hagent, whose, hnone]
      rfl
  cases hi : resolveIdentity x with
  | error e => exact nobody (by simp [hi]) (by rw [endSetUp_of_error hi]; exact agent_post ..)
  | ok i =>
    cases i with
    | none => exact nobody (by simp [hi]) (by rw [endSetUp_of_nobody hi])
    | some i =>
      obtain ⟨rfl, hsigned⟩ := resolveIdentity_eq_somebody.mp hi
      have hwhose : (w.endSetUp id config (.ok (some i))).whose = some (config, i) := by
        rw [endSetUp_of_identity hi, setUp, whose, agent_post]
        rfl
      rw [hwhose]
      exact ⟨before, [r], rfl, hearly, r, [], rfl, ⟨hk, hd, hp, hsigned⟩,
        fun q hq => by cases hq⟩

theorem provided (p : Parted lost rows w) (l : Ledger lost' rows w) {x : Provided}
    (h : w.step? (.provide x) = some w') :
    Parted lost (note rows ⟨w, .act (.provide x), w'⟩) w' := by
  obtain ⟨id, config, hs, rfl⟩ := provide_eq_some h
  obtain ⟨hs', _, _, hab⟩ := @endSetUp_kept w id config x
  obtain ⟨hnone, before, r, rfl, hown⟩ := p.waiting (by rw [hs]; rfl)
  have hearly : ∀ q ∈ before, q.Early lost := by
    obtain ⟨early, late, hrows, hearly, hfounded⟩ := p.parts
    rw [whose, hnone] at hfounded
    rw [show late = [] from hfounded, List.append_nil] at hrows
    exact fun q hq => hearly q (hrows ▸ List.mem_append_left _ hq)
  -- no other request waits for the identity
  have hrest : before.map (advance ⟨w, .act (.provide x), w.endSetUp id config x⟩ .setUp) = before := by
    have hnodup := l.owners
    rw [List.filterMap_append, List.nodup_append] at hnodup
    refine (List.map_congr_left fun q hq => advance_of_ne fun hq' => ?_).trans (List.map_id before)
    exact hnodup.2.2 .setUp (List.mem_filterMap.mpr ⟨q, hq, hq'⟩) .setUp (by simp [hown]) rfl
  have hstands := l.stands (List.mem_append_right before List.mem_cons_self)
  simp only [Row.Stands, hown] at hstands
  obtain ⟨_, hk, _, config', hd, hwait⟩ := hstands
  cases hs.symm.trans hwait
  show Parted lost ((before ++ [r]).map _) _
  rw [List.map_append, hrest, List.map_cons, List.map_nil, advance, if_pos hown]
  refine ⟨fun ha => p.abandoned (hab ▸ ha), fun hsome => ?_, ?_⟩
  · rw [hs'] at hsome
    cases hsome
  · exact parts_of_provided hearly hnone hk hd rfl

/-! ## All steps -/

theorem noted (p : Parted lost rows w) (l : Ledger lost' rows w) {t : Turn}
    (h : w.react? t = some w') (hl : t = .act .abandon → lost) :
    Parted lost (note rows ⟨w, t, w'⟩) w' := by
  cases t with
  | deliver e => cases h; exact p.kept rfl p.abandoned rfl fun h => h
  | collect =>
    unfold react? at h
    dsimp only at h
    split at h
    · cases h
    · cases h; exact p.kept rfl p.abandoned rfl fun h => h
  | act a =>
    cases a with
    | receive => exact p.received l h
    | provide x => exact p.provided l h
    | run n =>
      have hw : w'.whose = w.whose := whose_of_step (a := .run n) h (by simp)
      obtain ⟨g, t, hg, _, h⟩ := withTask_eq_some h
      obtain ⟨hab, hs⟩ := ran_kept (ran_of_run? hg h)
      exact p.advanced (by rw [hg]; rfl) hw hab hs rfl
    | endCall n e =>
      have hw : w'.whose = w.whose := whose_of_step (a := .endCall n e) h (by simp)
      obtain ⟨g, t, hg, _, h⟩ := withTask_eq_some h
      obtain ⟨hab, hs⟩ := endCall?_kept hg h
      exact p.advanced (by rw [hg]; rfl) hw hab hs rfl
    | forward =>
      have hw : w'.whose = w.whose := whose_of_step (a := .forward) h (by simp)
      obtain ⟨w₁, es, hq, _, rfl⟩ := forward?_eq_some h
      exact p.kept hw (fun ha => p.abandoned (hq.abandoned ▸ ha)) hq.settingUp
        fun hnone => agent_of_whose hw hnone
    | stop =>
      simp only [react?, step?] at h
      split at h
      · cases h; exact p.kept rfl p.abandoned rfl fun h => h
      · cases h
    | abandon => cases h; exact p.kept rfl (fun _ => hl rfl) rfl fun h => h
    | halt =>
      cases h
      exact p.mapped onward_halt rfl p.abandoned fun h => by cases h

end Parted

namespace Worker

variable {ss : History} {w w' : Worker} {a : Action} {disk : Option DataDir} {now : UInt64}

theorem parted_of_run (run : Run react? (start disk now) ss w) :
    Parted (Abandoned ss) (ledger ss) w := by
  induction run with
  | nil => exact .start disk now
  | @snoc ss w t w' run h ih =>
    rw [ledger_snoc]
    refine (ih.mono fun hl => ?_).noted (ledger_of_run run) h fun ht => ?_
    · obtain ⟨s, hs, ha⟩ := hl
      exact ⟨s, List.mem_append_left _ hs, ha⟩
    · exact ⟨_, List.mem_append_right _ (List.mem_singleton.mpr rfl), ht⟩

/-! ## What follows -/

theorem inbox_of_run (run : Run react? (start disk now) ss w) :
    ss.filterMap received? ++ w.inbox = ss.filterMap delivered? := by
  induction run with
  | nil => rfl
  | @snoc ss w t w' run h ih =>
    rw [List.filterMap_append, List.filterMap_append, ← ih, List.append_assoc, List.append_assoc]
    congr 1
    cases t with
    | deliver e => cases h; rfl
    | collect =>
      unfold react? at h
      dsimp only at h
      split at h
      · cases h
      · cases h; exact (List.append_nil _).symm
    | act a =>
      have hin := (passing_of_step h).inbox
      rw [hin]
      cases hr : received? ⟨w, .act a, w'⟩ with
      | none => simp [hr, delivered?]
      | some e => simp [hr, delivered?]

theorem not_turned_away {r : Row} {c : Capability} {config : AgentConfig} (hr : r.RunBy c config) :
    ¬ r.Ends (some (.error r.id .agentNotInitialized)) := by
  intro h
  rcases Row.ends_of_runBy hr h with ⟨_, result, hret, he⟩ | ⟨_, he⟩
  · cases result with
    | ok v => cases he
    | error f =>
      cases he
      rcases Operation.fault_of_handle config hret with ⟨_, hf⟩ | hf
      · cases hf
      · exact hf
  · cases he

theorem runBy_of_late {lost : Prop} {config : AgentConfig} {r : Row} (h : r.Late lost config)
    (hk : r.Known) : ∃ c, r.RunBy c config := by
  obtain ⟨c, hc⟩ := Option.isSome_iff_exists.mp hk.2
  exact ⟨c, hk.1, hc, h.config⟩

theorem kept_of_init {id : String} {payload : Json} (h : w.step? a = some w')
    (hr : received? ⟨w, .act a, w'⟩ = some (.request id initKind payload))
    (hg : w.agent.isSome = true) : w'.agent = w.agent ∧ w'.events = w.events := by
  cases a with
  | receive =>
    obtain ⟨_, _, e, rest, hi, rfl⟩ := receive?_eq_some h
    simp only [received?, hi, List.head?_cons, Option.some.injEq] at hr
    subst hr
    have hh := handled { w with inbox := rest } id initKind payload
    refine ⟨agent_handle _, ?_⟩
    generalize ({ w with inbox := rest } : Worker).handle (.request id initKind payload) = w' at hh ⊢
    cases hh with
    | refused _ _ _ => exact events_post ..
    | again _ _ _ _ => exact events_post ..
    | begun _ _ _ hnone => cases hnone.symm.trans (Option.some_get hg).symm
    | unknown hne _ => exact absurd rfl hne
    | early _ hne _ _ => exact absurd rfl hne
    | spawned _ _ hne _ _ => exact absurd rfl hne
  | _ => cases hr

theorem agent_of_react {x : Turn} (h : w.react? x = some w') :
    w'.agent = w.agent ∨ ∃ a, x = .act a ∧ w.step? a = some w' := by
  cases x with
  | deliver e => cases h; exact .inl rfl
  | collect =>
    unfold react? at h
    dsimp only at h
    split at h
    · cases h
    · cases h; exact .inl rfl
  | act a => exact .inr ⟨a, rfl, h⟩

theorem made_of_react {x : Turn} {g : Agent} (h : w.react? x = some w') (hnone : w.agent = none)
    (hg : w'.agent = some g) : providedBy? ⟨w, x, w'⟩ = some (.ok (some g.identity)) ∧
      ∃ id, w.settingUp = some (id, g.config) := by
  rcases agent_of_react h with hsame | ⟨a, rfl, h⟩
  · cases hnone.symm.trans (hsame.symm.trans hg)
  · rcases agent_of_step h with hsame | ⟨id, config, i, hs, rfl, _, hmade⟩ | ⟨_, _, _, _, hold, _⟩
    · cases hnone.symm.trans (hsame.symm.trans hg)
    · cases hg.symm.trans hmade
      exact ⟨rfl, id, hs⟩
    · cases hnone.symm.trans hold

theorem same_of_react {x : Turn} {g : Agent} (h : w.react? x = some w') (hs : w.settingUp = none)
    (hg : w.agent = some g) : providedBy? ⟨w, x, w'⟩ = none ∧
      ∃ g', w'.agent = some g' ∧ Agent.Same g g' := by
  constructor
  · cases x with
    | act a =>
      cases a with
      | provide x =>
        obtain ⟨_, _, hwait, _⟩ := provide_eq_some h
        cases hs.symm.trans hwait
      | _ => rfl
    | _ => rfl
  · rcases agent_of_react h with hsame | ⟨a, rfl, h⟩
    · exact ⟨g, hsame.trans hg, .refl g⟩
    · rcases agent_of_step h with hsame | ⟨_, _, _, hwait, _⟩ | ⟨_, g₀, g', _, hg₀, hg', hsame⟩
      · exact ⟨g, hsame.trans hg, .refl g⟩
      · cases hs.symm.trans hwait
      · cases hg.symm.trans hg₀
        exact ⟨g', hg', hsame⟩

/-! ## Main statement -/

/-- Requests are received in the order of the inbox, and those received are early or late. The early
ones found no agent, and those for a handler are turned away. The first late one founds the agent that
is there, which is that of somebody who has signed in; the others find it there: setting up is
answered without a look at the identity, and no request is turned away. No step takes the agent away
or makes it another's, and a request to set it up leaves it and its events as they are. -/
theorem founding_of_run {disk : Option DataDir} {now : UInt64} {ss : History} {w : Worker}
    (run : Run react? (start disk now) ss w) :
    (ledger ss).map Row.request = (ss.filterMap received?).filter (·.isRequest) ∧
    ss.filterMap received? ++ w.inbox = ss.filterMap delivered? ∧
    (∃ early late, ledger ss = early ++ late ∧
      (∀ r ∈ early, (∀ config i, ¬ r.Founds config i) ∧
        (r.Known → r.Answered (Abandoned ss) (.error r.id .agentNotInitialized))) ∧
      match w.agent with
      | none => late = []
      | some g => g.identity.isAnonymous = false ∧
        ∃ founder after, late = founder :: after ∧ founder.Founds g.config g.identity ∧
          ∀ r ∈ after, r.provided = none ∧
            (r.kind = initKind → r.Answered (Abandoned ss) r.againReply) ∧
            (r.Known → (∃ c, r.RunBy c g.config) ∧
              .error r.id .agentNotInitialized ∉ r.replies)) ∧
    (∀ s ∈ ss, s.before.agent = none → ∀ g, s.after.agent = some g →
      providedBy? s = some (.ok (some g.identity)) ∧
      ∃ id, s.before.settingUp = some (id, g.config)) ∧
    (∀ s ∈ ss, ∀ g, s.before.agent = some g → providedBy? s = none ∧
      (∃ g', s.after.agent = some g' ∧ Agent.Same g g') ∧
      ∀ id payload, received? s = some (.request id initKind payload) →
        s.after.agent = s.before.agent ∧ s.after.events = s.before.events) := by
  have p := parted_of_run run
  have l := ledger_of_run run
  refine ⟨requests_of_run run, inbox_of_run run, ?_, fun s hs hnone g hg => ?_, fun s hs g hg => ?_⟩
  · obtain ⟨early, late, hrows, hearly, hfounded⟩ := p.parts
    refine ⟨early, late, hrows, fun r hr => ⟨(hearly r hr).founds, fun hk => ?_⟩, ?_⟩
    · exact ((hearly r hr).known hk).2
    · cases hg : w.agent with
      | none =>
        rw [whose, hg] at hfounded
        exact hfounded
      | some g =>
        rw [whose, hg] at hfounded
        obtain ⟨founder, after, hlate, hf, hafter⟩ := hfounded
        refine ⟨hf.signedIn, founder, after, hlate, hf, fun r hr => ?_⟩
        have hlater := hafter r hr
        refine ⟨hlater.provided, fun hk => (hlater.again hk).2, fun hk => ?_⟩
        obtain ⟨c, hc⟩ := runBy_of_late hlater hk
        refine ⟨⟨c, hc⟩, fun hmem => ?_⟩
        have hr : r ∈ ledger ss := by rw [hrows, hlate]; simp [hr]
        rcases Row.replies_of_stands (l.stands hr) with hnil | ⟨e, he, _, _, hend⟩
        · rw [hnil] at hmem
          cases hmem
        · rw [he] at hmem
          cases List.mem_singleton.mp hmem
          exact not_turned_away hc hend
  · obtain ⟨_, _, hstep⟩ := run.before_of_mem hs
    exact made_of_react hstep hnone hg
  · obtain ⟨pre, hpre, hstep⟩ := run.before_of_mem hs
    have hidle : s.before.settingUp = none := by
      cases hwait : s.before.settingUp with
      | none => rfl
      | some _ => cases hg.symm.trans ((parted_of_run hpre).waiting (by rw [hwait]; rfl)).1
    obtain ⟨hprov, hsame⟩ := same_of_react hstep hidle hg
    refine ⟨hprov, hsame, fun id payload hrec => ?_⟩
    obtain ⟨w₁, x, w₂⟩ := s
    cases x with
    | act a => exact kept_of_init hstep hrec (by rw [show w₁.agent = some g from hg]; rfl)
    | _ => cases hrec

/-- A request comes too early, one to set up the agent finds the anonymous principal, the next one
founds the agent, and the last one finds it there. -/
theorem founding_of_run_of_four_requests :
    ∃ ss w g, Run react? (start none 0) ss w ∧ w.agent = some g ∧
      g.config = .standard ∧ g.identity = ⟨"me"⟩ ∧
      ∃ early founder after, ledger ss = early ++ founder :: after ∧
        founder.Founds .standard ⟨"me"⟩ ∧
        (∀ r ∈ early, r.Known → r.replies = [.error r.id .agentNotInitialized]) ∧
        (∀ r ∈ after, r.kind = initKind → r.replies = [r.againReply]) := by
  have run : ∃ ss w g, Run react? (start none 0) ss w ∧ w.agent = some g ∧
      g.config = .standard ∧ g.identity = ⟨"me"⟩ ∧ ¬ Abandoned ss := by
    refine ⟨_, _, _, .of_play [.deliver (.request "a" "getBio" .null),
      .deliver (.request "b" "init" ((Wire.codec : Codec AgentConfig).toValue .standard)),
      .deliver (.request "c" "init" ((Wire.codec : Codec AgentConfig).toValue .standard)),
      .deliver (.request "d" "init" .null), .act .receive, .act .receive,
      .act (.provide (.ok (some .anonymous))), .act .receive,
      .act (.provide (.ok (some ⟨"me"⟩))), .act .receive] rfl, rfl, rfl, rfl, ?_⟩
    simp [Abandoned]
  obtain ⟨ss, w, g, run, hg, hc, hi, hab⟩ := run
  obtain ⟨_, _, ⟨early, late, hrows, hearly, hlate⟩, _⟩ := founding_of_run run
  rw [hg] at hlate
  obtain ⟨_, founder, after, rfl, hf, hafter⟩ := hlate
  have sure {r : Row} {e : Envelope} (h : r.Answered (Abandoned ss) e) : r.replies = [e] :=
    h.resolve_right fun x => hab x.1
  refine ⟨ss, w, g, run, hg, hc, hi, early, founder, after, hrows, hc ▸ hi ▸ hf, ?_, ?_⟩
  · exact fun r hr hk => sure ((hearly r hr).2 hk)
  · exact fun r hr hk => sure ((hafter r hr).2.1 hk)

end Worker
end ChatBridge
