import ChatBridge.Proofs.Agent.Outcomes
import ChatBridge.Proofs.Worker.Admitted
import ChatBridge.Proofs.Worker.Notes

/-!
# Requests on their course

Let each call end as its arguments say, and let the agent be set up with the canister of the user. What
a steady request comes to is settled when it is received, and no step of any task takes it off that
course.
-/

namespace ChatBridge

open Operation

def Operation.SteadyAs (kind : String) (payload : Json) : Prop :=
  ∀ c q, Capability.ofKind? kind = some c → c.requestCodec.ofValue payload = .ok q → Steady c q

def Envelope.telling (id kind : String) : Option (Except Fault Json) → Envelope
  | some r => .answering id r
  | none => .error id (.internal (kind ++ " handler panicked"))

/-! ## One request -/

namespace Row

variable {service : ServiceCall → CallEnd} {own : String} {r r' : Row} {c : Capability}
  {config : AgentConfig} {p : Program Json}

variable (service own) in
/-- What is left of the request comes to what the request comes to. -/
structure OnCourse (r : Row) : Prop where
  left : ∀ {c config o p}, r.RunBy c config → (handle config c r.payload).Comes service own o →
    (handle config c r.payload).follow r.told = some p → p.Comes service own o
  crashed : ∀ {c config o}, r.RunBy c config → (handle config c r.payload).Comes service own o →
    r.crashed = true → o = none

theorem onCourse_of_same (h : r.OnCourse service own) (hreq : r'.request = r.request)
    (hc : r'.config = r.config) (ht : r'.told = r.told) (hcr : r'.crashed = r.crashed) :
    r'.OnCourse service own := by
  obtain ⟨id, kind, payload, config, owner, provided, told, crashed, replies⟩ := r
  obtain ⟨id', kind', payload', config', owner', provided', told', crashed', replies'⟩ := r'
  cases hreq
  cases hc
  cases ht
  cases hcr
  exact {
    left := fun hr ho hp => h.left ⟨hr.kind, hr.capability, hr.config⟩ ho hp
    crashed := fun hr ho => h.crashed ⟨hr.kind, hr.capability, hr.config⟩ ho }

theorem onCourse_of_begun (ht : r.told = []) (hcr : r.crashed = false) : r.OnCourse service own where
  left {_ _ _ p} _ ho hp := by
    rw [ht] at hp
    cases hp
    exact ho
  crashed _ _ hc := by
    rw [hcr] at hc
    cases hc

variable (service own) in
theorem RunBy.definite (hr : r.RunBy c config) (hs : SteadyAs r.kind r.payload) :
    (handle config c r.payload).Definite service own :=
  definite_handle config fun q hq => hs c q hr.capability hq

/-- Once the request has come to its end, it is answered with what it comes to. -/
theorem OnCourse.ends {o : Option (Except Fault Json)} {x : Option Envelope}
    (h : r.OnCourse service own) (hr : r.RunBy c config)
    (ho : (handle config c r.payload).Comes service own o) (he : r.Ends x) :
    x = some (.telling r.id r.kind o) := by
  rcases ends_of_runBy hr he with ⟨_, result, hret, rfl⟩ | ⟨hcr, rfl⟩
  · have hend : o = some result := by
      cases result with
      | ok v => exact (h.left hr ho hret).of_returns (r := .ok v) rfl
      | error f => exact (h.left hr ho hret).of_returns (r := .error f) rfl
    rw [hend]
    rfl
  · rw [h.crashed hr ho hcr]
    rfl

theorem ends_of_not_runBy {x : Option Envelope} (hc : r.config = some config)
    (hn : ∀ c, ¬ r.RunBy c config) (he : r.Ends x) :
    x = if r.kind = initKind then some r.againReply else none := by
  have none_of_config {P : Prop} (ha : r.config = none) : P := by cases hc.symm.trans ha
  have not_run {P : Prop} {c : Capability} {config' : AgentConfig} (hr : r.RunBy c config') : P := by
    cases hc.symm.trans hr.config
    exact absurd hr (hn c)
  cases he with
  | unknown hk _ => rw [if_neg hk]
  | refused y hk hd => rw [if_pos hk, againReply, hd]
  | again config' hk hd _ => rw [if_pos hk, againReply, hd]
  | early _ _ _ ha => exact none_of_config ha
  | returned _ _ _ hr _ _ => exact not_run hr
  | crashed _ _ hr _ => exact not_run hr
  | signedIn _ _ _ _ _ ha _ _ => exact none_of_config ha
  | nobody _ _ _ _ ha _ _ => exact none_of_config ha
  | unresolved _ _ _ _ _ ha _ _ => exact none_of_config ha

theorem ends_unique {x x' : Option Envelope} (h : r.OnCourse service own)
    (h' : r'.OnCourse service own) (hs : SteadyAs r.kind r.payload) (hreq : r'.request = r.request)
    (hc : r.config = some config) (hc' : r'.config = some config) (he : r.Ends x)
    (he' : r'.Ends x') : x = x' := by
  obtain ⟨hid, hk, hp⟩ : r'.id = r.id ∧ r'.kind = r.kind ∧ r'.payload = r.payload := by
    simpa [request] using hreq
  by_cases hrun : ∃ c, r.RunBy c config
  · obtain ⟨c, hr⟩ := hrun
    have hr' : r'.RunBy c config := ⟨hk ▸ hr.kind, hk ▸ hr.capability, hc'⟩
    obtain ⟨o, ho⟩ := hr.definite service own hs
    rw [h.ends hr ho he, h'.ends hr' (hp ▸ ho) he', hid, hk]
  · have hn : ∀ c, ¬ r.RunBy c config := not_exists.mp hrun
    have hn' : ∀ c, ¬ r'.RunBy c config := fun c hr =>
      hn c ⟨hk ▸ hr.kind, hk ▸ hr.capability, hc⟩
    rw [ends_of_not_runBy hc hn he, ends_of_not_runBy hc' hn' he', againReply, againReply, hid, hk, hp]

end Row

/-! ## Runs -/

namespace Worker

variable (service : ServiceCall → CallEnd) (config : AgentConfig)

/-- If a call ends, then as its arguments say; if there is an agent, it is set up with this
configuration, and a request that it takes is steady. -/
structure Regular (s : Step Worker Turn) : Prop where
  calls : ∀ n e t c next, s.action = .act (.endCall n e) → s.before.task? n = some t →
    t.program = .call c next → e = service c
  config : ∀ g, s.after.agent = some g → g.config = config
  steady : s.before.agent.isSome = true → ∀ id kind payload,
    received? s = some (.request id kind payload) → SteadyAs kind payload

def Scheduled (ss : History) : Prop := ∀ s ∈ ss, Regular service config s

structure Fair (own : String) (rows : List Row) (w : Worker) : Prop where
  slot : ∀ g, w.agent = some g → g.userCanister = some own
  rows : ∀ r ∈ rows, r.OnCourse service own

variable {service config} {own : String} {lost : Prop} {rows : List Row} {ss : History}
  {s : Step Worker Turn} {w w' : Worker} {x : Turn} {g : Agent} {t : Task} {n : Nat} {r : Row}

theorem Scheduled.steadyAs (h : Scheduled service config ss) (hr : r ∈ ledger ss)
    (hc : r.config.isSome = true) : SteadyAs r.kind r.payload := by
  obtain ⟨s, hs, hrec, hconf⟩ := received_of_mem hr
  refine (h s hs).steady ?_ r.id r.kind r.payload hrec
  rwa [← hconf, config?, Option.isSome_map] at hc

/-! ## Steps -/

theorem fits_of_told {y : Told} (hg : g.userCanister = some own) (h : t.told? g = some y) :
    t.program.Fits service own y := by
  unfold Task.told? at h
  split at h <;> cases h <;> simp_all [Program.Fits]

theorem onCourse_advance {o : Owner} (h : r.OnCourse service own)
    (hs : r.owner = some o → toldBy? s = none ∧ crashes s = false) :
    (advance s o r).OnCourse service own := by
  unfold advance
  split
  · rename_i ho
    obtain ⟨ht, hc⟩ := hs ho
    refine Row.onCourse_of_same h rfl rfl ?_ ?_
    · show r.told ++ (toldBy? s).toList = r.told
      rw [ht, Option.toList_none, List.append_nil]
    · show (r.crashed || crashes s) = r.crashed
      rw [hc, Bool.or_false]
  · exact h

theorem onCourse_told {y : Told} (h : r.OnCourse service own) (ho : r.owner = some (.task n))
    (hr : r.Stands lost w) (ht : w.task? n = some t) (hy : toldBy? s = some y)
    (hcr : crashes s = false) (hf : t.program.Fits service own y) :
    (advance s (.task n) r).OnCourse service own := by
  unfold advance
  rw [if_pos ho, hy, hcr]
  unfold Row.Stands at hr
  rw [ho] at hr
  obtain ⟨_, hcrashed, u, c, config, hu, _, _, hrun, hfollow⟩ := hr
  cases ht.symm.trans hu
  refine ⟨fun {c' config' o p} hrun' hcomes hp => ?_, fun _ _ hc => ?_⟩
  · cases hrun.capability.symm.trans hrun'.capability
    cases hrun.config.symm.trans hrun'.config
    obtain ⟨q, hq, hp⟩ := Option.bind_eq_some_iff.mp ((Program.follow_append _).symm.trans hp)
    cases hfollow.symm.trans hq
    obtain ⟨p', hp', hp⟩ := Option.bind_eq_some_iff.mp hp
    cases hp
    exact (h.left hrun hcomes hfollow).next? hp' hf
  · rw [show (r.crashed || false) = r.crashed from Bool.or_false _, hcrashed] at hc
    cases hc

theorem onCourse_crashed {c : ServiceCall} {next : Except ServiceFailure Json → Program Json}
    (h : r.OnCourse service own) (ho : r.owner = some (.task n)) (hr : r.Stands lost w)
    (ht : w.task? n = some t) (hp : t.program = .call c next) (hy : toldBy? s = none)
    (hc : service c = .crashed) : (advance s (.task n) r).OnCourse service own := by
  unfold advance
  rw [if_pos ho, hy]
  unfold Row.Stands at hr
  rw [ho] at hr
  obtain ⟨_, _, u, c', config, hu, _, _, hrun, hfollow⟩ := hr
  cases ht.symm.trans hu
  refine ⟨fun {c' config' o p} hrun' hcomes hq => ?_, fun {c' config' o} hrun' hcomes _ => ?_⟩
  · cases hrun.capability.symm.trans hrun'.capability
    cases hrun.config.symm.trans hrun'.config
    rw [Option.toList_none, List.append_nil] at hq
    exact h.left hrun hcomes hq
  · cases hrun.capability.symm.trans hrun'.capability
    cases hrun.config.symm.trans hrun'.config
    exact (hp ▸ h.left hrun hcomes hfollow).of_crash hc

section
variable (f : Fair service own rows w) (l : Ledger lost rows w)
include f l

theorem Fair.not_sets (hs : ∀ r ∈ rows, r.config.isSome = true → SteadyAs r.kind r.payload)
    (ht : w.task? n = some t) (c : String) (next : Program Json) :
    t.program ≠ .setUserCanister c next := by
  intro hp
  obtain ⟨r, hr, ho⟩ := l.owed (o := .task n) (congrArg Option.isSome ht)
  have hstands := l.stands hr
  unfold Row.Stands at hstands
  rw [ho] at hstands
  obtain ⟨_, _, u, c', config, hu, _, _, hrun, hfollow⟩ := hstands
  cases ht.symm.trans hu
  have hsteady := hs r hr (by rw [hrun.config]; rfl)
  obtain ⟨o, hcomes⟩ := hrun.definite service own hsteady
  exact Program.Comes.not_sets (hp ▸ (f.rows r hr).left hrun hcomes hfollow)

theorem Fair.ran (hs : ∀ r ∈ rows, r.config.isSome = true → SteadyAs r.kind r.payload)
    (h : w.step? (.run n) = some w') :
    Fair service own (rows.map (advance ⟨w, .act (.run n), w'⟩ (.task n))) w' := by
  obtain ⟨g, t, hg, ht, h'⟩ := withTask_eq_some h
  refine ⟨fun g' hg' => ?_, fun r' hr' => ?_⟩
  · have hslot := slot_of_run? hg ht (f.not_sets l hs ht) h'
    rw [canister?, canister?, hg, hg'] at hslot
    exact hslot.trans (f.slot g hg)
  · obtain ⟨r, hr, rfl⟩ := List.mem_map.mp hr'
    have htold : toldBy? ⟨w, .act (.run n), w'⟩ = t.told? g := by
      simp only [toldBy?, hg, ht, Option.bind_some]
    by_cases ho : r.owner = some (.task n)
    · cases hy : t.told? g with
      | none => exact onCourse_advance (f.rows r hr) fun _ => ⟨htold.trans hy, rfl⟩
      | some y =>
        exact onCourse_told (f.rows r hr) ho (l.stands hr) ht (htold.trans hy) rfl
          (fits_of_told (f.slot g hg) hy)
    · exact onCourse_advance (f.rows r hr) fun h => absurd h ho

theorem Fair.callEnded {e : CallEnd} (h : w.step? (.endCall n e) = some w')
    (hc : ∀ t c next, w.task? n = some t → t.program = .call c next → e = service c) :
    Fair service own (rows.map (advance ⟨w, .act (.endCall n e), w'⟩ (.task n))) w' := by
  obtain ⟨g, t, hg, ht, h'⟩ := withTask_eq_some h
  obtain ⟨c, next, hp, _, hm⟩ := moves_of_endCall? hg ht h'
  have he := hc t c next ht hp
  refine ⟨fun g' hg' => ?_, fun r' hr' => ?_⟩
  · have hslot : w'.canister? = some own := by
      rcases hm with ⟨_, _, hm⟩ | ⟨_, hm⟩
      · rw [canister?_of_site hm.site]
        exact f.slot g hg
      · rw [canister?_of_site hm.site]
        exact f.slot g hg
    rwa [canister?, hg'] at hslot
  · obtain ⟨r, hr, rfl⟩ := List.mem_map.mp hr'
    by_cases ho : r.owner = some (.task n)
    · cases e with
      | answered y =>
        refine onCourse_told (f.rows r hr) ho (l.stands hr) ht (y := .answer y) rfl rfl ?_
        rw [hp]
        exact he.symm
      | crashed => exact onCourse_crashed (f.rows r hr) ho (l.stands hr) ht hp rfl he.symm
    · exact onCourse_advance (f.rows r hr) fun h => absurd h ho

end

theorem Fair.kept (f : Fair service own rows w) (h : w'.agent = w.agent) :
    Fair service own rows w' := ⟨h ▸ f.slot, f.rows⟩

theorem Fair.noted (f : Fair service own rows w) (l : Ledger lost rows w)
    (hs : ∀ r ∈ rows, r.config.isSome = true → SteadyAs r.kind r.payload)
    (hc : ∀ n e t c next, x = .act (.endCall n e) → w.task? n = some t →
      t.program = .call c next → e = service c)
    (hown : ∀ g, w'.agent = some g → g.config.userCanister = some own)
    (h : w.react? x = some w') : Fair service own (note rows ⟨w, x, w'⟩) w' := by
  cases x with
  | deliver e => cases h; exact f.kept rfl
  | collect =>
    unfold react? at h
    dsimp only at h
    split at h
    · cases h
    · cases h; exact f.kept rfl
  | act a =>
    have hagent := agent_of_step h
    cases a with
    | run n => exact f.ran l hs h
    | endCall n e => exact f.callEnded l h fun t c next => hc n e t c next rfl
    | provide p =>
      refine ⟨?_, fun r' hr' => ?_⟩
      · intro g' hg'
        rcases hagent with ha | ⟨_, _, _, _, _, _, ha⟩ | ⟨_, _, _, ho, _⟩
        · exact f.slot g' (ha ▸ hg')
        · have hconf := hown g' hg'
          cases hg'.symm.trans ha
          exact hconf
        · cases ho
      · obtain ⟨r, hr, rfl⟩ := List.mem_map.mp hr'
        exact onCourse_advance (f.rows r hr) fun _ => ⟨rfl, rfl⟩
    | receive =>
      obtain ⟨_, _, e, rest, _, rfl⟩ := receive?_eq_some h
      refine ⟨fun g' hg' => f.slot g' (agent_handle (w := { w with inbox := rest }) e ▸ hg'), ?_⟩
      intro r hr
      rcases List.mem_append.mp hr with hr | hr
      · exact f.rows r hr
      · unfold rowOf? at hr
        split at hr
        · cases List.mem_singleton.mp hr
          exact Row.onCourse_of_begun rfl rfl
        · cases hr
    | halt =>
      cases h
      refine ⟨f.slot, fun r' hr' => ?_⟩
      obtain ⟨r, hr, rfl⟩ := List.mem_map.mp hr'
      exact Row.onCourse_of_same (f.rows r hr) rfl rfl rfl rfl
    | abandon => cases h; exact f.kept rfl
    | _ =>
      refine f.kept (hagent.resolve_right ?_)
      rintro (⟨_, _, _, _, ha, _⟩ | ⟨_, _, _, ha, _⟩)
      · cases ha
      · cases ha

theorem fair_of_run {disk : Option DataDir} {now : UInt64} (run : Run react? (start disk now) ss w)
    (h : Scheduled service config ss) (hown : config.userCanister = some own) :
    Fair service own (ledger ss) w := by
  induction run with
  | nil => exact ⟨nofun, nofun⟩
  | @snoc ss w x w' run hx ih =>
    have hlast : ⟨w, x, w'⟩ ∈ ss ++ [(⟨w, x, w'⟩ : Step Worker Turn)] :=
      List.mem_append_right _ (List.mem_singleton.mpr rfl)
    have hbefore : Scheduled service config ss := fun s hs => h s (List.mem_append_left _ hs)
    rw [ledger_snoc]
    refine (ih hbefore).noted (ledger_of_run run) (fun r => hbefore.steadyAs) (h _ hlast).calls ?_ hx
    intro g hg
    rw [(h _ hlast).config g hg]
    exact hown

end Worker
end ChatBridge
