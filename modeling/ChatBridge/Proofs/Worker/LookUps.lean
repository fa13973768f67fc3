import ChatBridge.Proofs.Capability
import ChatBridge.Proofs.Worker.Resolving

/-!
# The way to the canister of the user

What each step of a worker makes of the places. A task that finds no canister queues up at the gate,
looks again inside, asks, and leaves with what it has been told; a task that has nothing to do with
the canister keeps its place.
-/

namespace ChatBridge

open Operation

section
variable {config : AgentConfig} {queue : List Nat} {n : Nat} {kind : String} {via : Option String}
  {ns : List Note} {cs : List String} {lone : Prop} {p next : Program Json} {phase : Phase}
  (h : Place config queue n kind via ns cs lone p phase)
include h

theorem Place.mem_of_set {c : String} (hp : p = .setUserCanister c next) : c ∈ cs := by
  cases h with
  | aside ha _ _ =>
    rw [hp] at ha
    cases ha
  | holding _ ha _ _ =>
    rw [hp] at ha
    cases ha
  | found _ _ _ hc =>
    cases hp
    exact hc
  | setting _ _ _ hc =>
    cases hp
    exact hc
  | _ => cases hp

theorem Place.not_mem_of_enter (hp : p = .enter .resolving next) (hph : phase = .running) :
    n ∉ queue := by
  cases h with
  | aside _ hq _ => exact hq
  | holding _ _ hq _ => exact hq
  | coming _ hq _ => exact hq
  | queued _ _ _ => cases hph
  | _ => cases hp

end

namespace Worker

variable {ss : History} {w w' : Worker} {n : Nat} {t u : Task} {g : Agent} {a' : Site}
  {via : Option String} {note : Option Note} {P : ServiceCall → Prop}

theorem run?_of_calling {c : ServiceCall} {next : Except ServiceFailure Json → Program Json}
    (hpr : t.program = .call c next) (hph : t.phase = .calling) : w.run? g t = none := by
  unfold run?
  simp only [hpr, hph]

theorem isInside_of_run? {next : Program Json} (hpr : t.program = .enter .resolving next)
    (hph : t.phase = .queued) (h : w.run? g t = some w') : g.isInside .resolving t.number = true := by
  unfold run? at h
  simp only [hpr, hph] at h
  split at h
  · assumption
  · cases h

theorem isInside_iff (hn : t.number = n) :
    g.isInside .resolving t.number = true ↔ g.resolving.head? = some n := by
  rw [hn, Agent.isInside, beq_iff_eq]
  rfl

/-! ## Steps of a task -/

section
variable (f : Resolving ss w) (hg : w.agent = some g) (ht : w.task? n = some t) (hn : n < w.nextTask)
  (ho : StartedFor ss g.config n t.kind via)
include f hg ht hn

theorem stepped_of_run? (h : w.run? g t = some w') : Stepped ss ⟨w, .act (.run n), w'⟩ n t g.site
    (t.siteAfter g) (t.note? g) (t.after? g) := by
  obtain ⟨via, _, hp⟩ := f.place (site?_of_agent hg) ht
  exact {
    toMoves := moves_of_run? hg ht h
    before := site?_of_agent hg
    task := ht
    fresh := hn
    kind := fun u hu => Task.kind_after? hu
    config := Task.config_siteAfter
    slot := by
      unfold Task.siteAfter
      split
      · rename_i c next hpr
        exact .inr ⟨c, hp.mem_of_set hpr, rfl⟩
      · exact .inl rfl
      · exact .inl rfl
      · exact .inl rfl
    queue := by
      unfold Task.siteAfter
      rw [number_of_task? ht]
      split
      · exact .stays
      · rename_i next hpr hph
        exact .joins (hp.not_mem_of_enter hpr hph)
      · exact .goes
      · exact .stays
    noted := noted?_run hg ht
    halt := by simp }

include ho

theorem Resolving.ran (h : w.run? g t = some w')
    (hlive : n ∈ (t.siteAfter g).queue → (t.after? g).isSome = true)
    (hplace : ∀ u, t.after? g = some u → Place g.config (t.siteAfter g).queue n t.kind via
      (notes ss n ++ (t.note? g).toList) (canisters ss) (lookUps ss = []) u.program u.phase) :
    Resolving (ss ++ [⟨w, .act (.run n), w'⟩]) w' := by
  have hcs : canisters (ss ++ [⟨w, .act (.run n), w'⟩]) = canisters ss := by
    rw [canisters, founds_of_none rfl, canisters]
  refine Resolving.moved f (stepped_of_run? f hg ht hn h) ho hlive (lookUps_of_none rfl) ?_ ?_
  · rintro ⟨c, rest, hpr⟩
    simp only [Task.siteAfter, hpr]
    rfl
  · intro u hu
    rw [hcs]
    exact hplace u hu

theorem Resolving.ranTo (h : w.run? g t = some w') (hd : t.Does g a' note u)
    (hplace : Place g.config a'.queue n t.kind via (notes ss n ++ note.toList) (canisters ss)
      (lookUps ss = []) u.program u.phase) :
    Resolving (ss ++ [⟨w, .act (.run n), w'⟩]) w' := by
  obtain ⟨_, rfl, rfl, hu⟩ := hd
  refine f.ran hg ht hn ho h (fun _ => by rw [hu]; rfl) fun v hv => ?_
  cases hu.symm.trans hv
  exact hplace

theorem Resolving.ranAside (h : w.run? g t = some w') (hq : n ∉ g.resolving)
    (hp : t.program.Aside P) (hP : ∀ c, P c → c.asksUser = false)
    (hplace : ∀ p phase, p.Aside P → Place g.config g.resolving n t.kind via (notes ss n)
      (canisters ss) (lookUps ss = []) p phase) :
    Resolving (ss ++ [⟨w, .act (.run n), w'⟩]) w' := by
  obtain ⟨hs, hnote, hafter⟩ := Task.aside_after? (g := g) hp hP
  refine f.ran hg ht hn ho h ?_ fun u hu => ?_
  · rw [hs]
    exact fun hmem => absurd hmem hq
  · rw [hs, hnote, Option.toList_none, List.append_nil]
    exact hplace _ _ (hafter u hu)

end

theorem Resolving.lone (f : Resolving ss w) (hg : w.agent = some g) (ht : w.task? n = some t)
    (hhead : g.resolving.head? = some n) (hset : ¬ t.program.Setting) (hc : g.userCanister = none) :
    lookUps ss = [] := by
  by_contra hne
  rcases f.settled (site?_of_agent hg) hne with hover | hslot | ⟨m, u, hm, hu, hsetting⟩
  · have hnone := (f.ended hover).2 n
    rw [ht] at hnone
    cases hnone
  · rw [show g.site.slot = none from hc] at hslot
    cases hslot
  · cases hhead.symm.trans hm
    cases ht.symm.trans hu
    exact hset hsetting

/-- Where somebody sees the canister, it is the one to go on with; else the task comes to the gate, or
asks if it is inside already. -/
theorem resolving_of_run? (f : Resolving ss w) (hg : w.agent = some g) (ht : w.task? n = some t)
    (hn : n < w.nextTask) (h : w.run? g t = some w') :
    Resolving (ss ++ [⟨w, .act (.run n), w'⟩]) w' := by
  obtain ⟨via, ho, hp⟩ := f.place (site?_of_agent hg) ht
  generalize hpr : t.program = p, hph : t.phase = phase at hp
  have hnum := number_of_task? ht
  have hgone : n ∉ g.resolving.erase n := (f.queue (site?_of_agent hg)).1.not_mem_erase
  -- one case a place; where a call is waited for there is no such step
  cases hp with
  | aside hp hq hns =>
    refine f.ranAside hg ht hn ho h hq (hpr ▸ hp) (fun c hc => hc.1) fun p phase hp => ?_
    exact .aside hp hq hns
  | seeking hw hq hns =>
    have hd := Task.does_look (g := g) hpr
    cases hc : g.userCanister with
    | none =>
      rw [hc] at hd
      refine f.ranTo hg ht hn ho h hd (.coming hw hq ?_)
      rw [hns]
      rfl
    | some c =>
      rw [hc] at hd
      refine f.ranTo hg ht hn ho h hd (.holding hw.unnamed (hw.aside c) hq (.inl ?_))
      rw [hns]
      rfl
  | coming hw hq hns =>
    refine f.ranTo hg ht hn ho h (Task.does_come hpr hph) ?_
    rw [hpr, hns, hnum]
    exact .queued hw (List.mem_append_right _ (List.mem_singleton.mpr rfl)) rfl
  | queued hw hq hns =>
    have hin := isInside_of_run? hpr hph h
    refine f.ranTo hg ht hn ho h (Task.does_enter hpr hph hin) ?_
    rw [hns]
    exact .rechecking hw ((isInside_iff hnum).mp hin) rfl
  | rechecking hw hq hns =>
    have hd := Task.does_look (g := g) hpr
    cases hc : g.userCanister with
    | none =>
      rw [hc] at hd
      refine f.ranTo hg ht hn ho h hd (.asking hw hq ?_ ?_)
      · rw [hns]
        rfl
      · refine f.lone hg ht hq ?_ hc
        rintro ⟨c, rest, hset⟩
        cases hpr.symm.trans hset
    | some c =>
      rw [hc] at hd
      refine f.ranTo hg ht hn ho h hd (.leaving hw hq (.inl ?_))
      rw [hns]
      rfl
  | asking hw hq hns hl =>
    refine f.ranTo hg ht hn ho h (Task.does_ask hpr hph rfl) ?_
    rw [hpr, hns]
    exact .waiting hw hq rfl hl
  | waiting hw hq hns hl => cases (run?_of_calling hpr hph).symm.trans h
  | found hw hq hns hc =>
    refine f.ranTo hg ht hn ho h (Task.does_set hpr) (.leaving hw hq (.inr ?_))
    rw [hns]
    rfl
  | leaving hw hq hns =>
    refine f.ranTo hg ht hn ho h (Task.does_leave hpr) ?_
    rw [hnum, Option.toList_none, List.append_nil]
    exact .holding hw.unnamed (hw.aside _) hgone hns
  | failing hq hns =>
    refine f.ranTo hg ht hn ho h (Task.does_leave hpr) ?_
    rw [hnum, hns]
    exact .aside (.fail _) hgone (.inr rfl)
  | holding hv hp hq hns =>
    refine f.ranAside hg ht hn ho h hq (hpr ▸ hp) (fun c hc => hc.1) fun p phase hp => ?_
    exact .holding hv hp hq hns
  | naming hk hq hns =>
    refine f.ranTo hg ht hn ho h (Task.does_ask hpr hph rfl) ?_
    rw [hpr, hns]
    exact .named hk hq rfl
  | named hk hq hns => cases (run?_of_calling hpr hph).symm.trans h
  | @setting c v hk hq hns hc =>
    refine f.ranTo hg ht hn ho h (Task.does_set hpr) ?_
    rw [hns]
    exact .holding (c := c) hk.unnamed (.done v) hq (.inr rfl)

/-! ## Answers -/

section
variable {c : ServiceCall} {next : Except ServiceFailure Json → Program Json}
  {r : Except ServiceFailure Json} {k : String}

theorem found?_of_answer (ht : w.task? n = some t) : found? ⟨w, .act (.endCall n (.answered r)), w'⟩ =
    (t.found? r).map (t, ·) := by
  unfold found?
  dsimp only
  rw [ht, Option.bind_some]

theorem founds_of_answer (ht : w.task? n = some t) (hk : t.found? r = some k) :
    founds (ss ++ [⟨w, .act (.endCall n (.answered r)), w'⟩]) = founds ss ++ [(t, k)] := by
  rw [founds_snoc, found?_of_answer ht, hk]
  rfl

theorem mem_canisters_of_answer (ht : w.task? n = some t) (hk : t.found? r = some k) :
    k ∈ canisters (ss ++ [⟨w, .act (.endCall n (.answered r)), w'⟩]) := by
  rw [canisters, founds_of_answer ht hk, List.map_append]
  exact List.mem_append_right _ (List.mem_singleton.mpr rfl)

theorem lookUps_of_answer (ht : w.task? n = some t) (hk : t.found? r = some k) :
    lookUps (ss ++ [⟨w, .act (.endCall n (.answered r)), w'⟩]) =
      lookUps ss ++ if t.kind = Capability.getCurrentUser.kind then [] else [(t, k)] := by
  rw [lookUps, founds_of_answer ht hk, List.filter_append, lookUps]
  congr 1
  by_cases hkind : t.kind = Capability.getCurrentUser.kind
  · rw [if_pos hkind, List.filter_cons_of_neg (by simpa using hkind), List.filter_nil]
  · rw [if_neg hkind, List.filter_cons_of_pos (by simpa using hkind), List.filter_nil]

variable (f : Resolving ss w) (hg : w.agent = some g) (ht : w.task? n = some t) (hn : n < w.nextTask)
include hg ht hn

theorem stepped_of_endCall {e : CallEnd} {queue : List Nat} {new : Option Task}
    (hm : Moves w w' n { g.site with queue := queue } new) (hk : ∀ u, new = some u → u.kind = t.kind)
    (hq : Shift n g.resolving queue) : Stepped ss ⟨w, .act (.endCall n e), w'⟩ n t g.site
      { g.site with queue := queue } none new where
  toMoves := hm
  before := site?_of_agent hg
  task := ht
  fresh := hn
  kind := hk
  config := rfl
  slot := .inl rfl
  queue := hq
  noted := rfl
  halt := by simp

include f

theorem resolving_of_crashed (hpr : t.program = .call c next)
    (hm : Moves w w' n { g.site with queue := g.resolving.erase n } none) :
    Resolving (ss ++ [⟨w, .act (.endCall n .crashed), w'⟩]) w' := by
  obtain ⟨via, ho, _⟩ := f.place (site?_of_agent hg) ht
  have hstep : Stepped ss ⟨w, .act (.endCall n .crashed), w'⟩ n t g.site
      { g.site with queue := g.resolving.erase n } none none :=
    stepped_of_endCall hg ht hn hm (by simp) .goes
  have hgone : n ∉ g.resolving.erase n := (f.queue (site?_of_agent hg)).1.not_mem_erase
  refine Resolving.moved f hstep ho (fun hq => absurd hq hgone) (lookUps_of_none rfl) ?_ (by simp)
  rintro ⟨d, rest, hset⟩
  cases hpr.symm.trans hset

/-- The look-up that finds the user created is the first one to do so. -/
theorem resolving_of_answered (hpr : t.program = .call c next) (hph : t.phase = .calling)
    (hm : Moves w w' n g.site (some (t.answered next r))) :
    Resolving (ss ++ [⟨w, .act (.endCall n (.answered r)), w'⟩]) w' := by
  obtain ⟨via, ho, hp⟩ := f.place (site?_of_agent hg) ht
  have hstep : Stepped ss ⟨w, .act (.endCall n (.answered r)), w'⟩ n t g.site g.site none
      (some (t.answered next r)) :=
    stepped_of_endCall hg ht hn hm (fun u hu => by cases hu; rfl) .stays
  have hlive : n ∈ g.resolving → (some (t.answered next r)).isSome = true := fun _ => rfl
  have hset : ¬ t.program.Setting := by
    rintro ⟨d, rest, hset⟩
    cases hpr.symm.trans hset
  -- an answer that no look-up waits for, or that finds nobody
  have moved (hlook : lookUps (ss ++ [⟨w, .act (.endCall n (.answered r)), w'⟩]) = lookUps ss)
      (hplace : Place g.config g.resolving n t.kind via (notes ss n)
        (canisters (ss ++ [⟨w, .act (.endCall n (.answered r)), w'⟩])) (lookUps ss = []) (next r)
        .running) : Resolving (ss ++ [⟨w, .act (.endCall n (.answered r)), w'⟩]) w' := by
    refine Resolving.moved f hstep ho hlive hlook (fun h => absurd h hset) fun u hu => ?_
    cases hu
    rw [Option.toList_none, List.append_nil]
    exact hplace
  have nobody (hnone : t.found? r = none) :
      lookUps (ss ++ [⟨w, .act (.endCall n (.answered r)), w'⟩]) = lookUps ss := by
    refine lookUps_of_none ?_
    rw [found?_of_answer ht, hnone]
    rfl
  have aside {P : ServiceCall → Prop} (hP : ∀ c, P c → c.asksUser = false)
      (ha : (Program.call c next).Aside P) : t.found? r = none ∧ (next r).Aside P := by
    cases ha with
    | call hc hnext => exact ⟨by simp [Task.found?, hpr, hP c hc], hnext r⟩
  have asks (hc : c.asksUser = true) : t.found? r = created? r := by simp [Task.found?, hpr, hc]
  rw [hpr, hph] at hp
  cases hp with
  | aside hp hq hns =>
    obtain ⟨hnone, hnext⟩ := aside (fun c hc => hc.1) hp
    exact moved (nobody hnone) (.aside hnext hq hns)
  | holding hv hp hq hns =>
    obtain ⟨hnone, hnext⟩ := aside (fun c hc => hc.1) hp
    exact moved (nobody hnone) (.holding hv hnext hq hns)
  | @waiting after hw hq hns hl =>
    have hfound := asks rfl
    cases hk : created? r with
    | none =>
      obtain ⟨e, he⟩ := settle_of_created? after hk
      refine moved (nobody (hfound.trans hk)) ?_
      dsimp only
      rw [he]
      exact .failing hq hns
    | some k =>
      have hwhere := settle_of_created after hk
      have hlook : lookUps (ss ++ [⟨w, .act (.endCall n (.answered r)), w'⟩]) = [(t, k)] := by
        rw [lookUps_of_answer ht (hfound.trans hk), if_neg hw.kind, hl, List.nil_append]
      -- whoever waits is alone, so this answer is the first of its kind
      refine Resolving.stepped f hstep ho hlive (fun _ => .inr hq) ?_ ?_ ?_
      · rw [hlook]
        exact Nat.le_refl 1
      · refine fun _ => .inr ⟨n, _, hq, (hm.tasks n).trans (if_pos rfl), k, after k, hwhere⟩
      · intro u hu
        cases hu
        rw [Option.toList_none, List.append_nil]
        show Place _ _ _ _ _ _ _ _ (settle _ _) .running
        rw [hwhere]
        exact .found hw hq hns (mem_canisters_of_answer ht (hfound.trans hk))
  | named hk hq hns =>
    have hfound := asks rfl
    cases hc : created? r with
    | none =>
      exact moved (nobody (hfound.trans hc)) (.aside (introduce_of_created? hc) hq (.inr hns))
    | some k =>
      obtain ⟨v, hv⟩ := introduce_of_created hc
      have hlook : lookUps (ss ++ [⟨w, .act (.endCall n (.answered r)), w'⟩]) = lookUps ss := by
        rw [lookUps_of_answer ht (hfound.trans hc), if_pos hk.kind, List.append_nil]
      refine moved hlook ?_
      dsimp only
      rw [hv]
      exact .setting hk hq hns (mem_canisters_of_answer ht (hfound.trans hc))

end

/-! ## The other steps -/

section
variable (f : Resolving ss w) {lost : Prop} {rows : List Row} (l : Ledger lost rows w)
include f

theorem resolving_of_founded {p : Provided} {config : AgentConfig} {i : Identity} {cache : UserCache}
    (hnone : w.agent = none) (hg : w'.agent = some (.start config i cache))
    (htasks : w'.tasks = w.tasks) (hnext : w'.nextTask = w.nextTask)
    (hserving : w'.serving = w.serving) : Resolving (ss ++ [⟨w, .act (.provide p), w'⟩]) w' := by
  obtain ⟨hnil, hidle⟩ := f.idle (by rw [site?, hnone]; rfl)
  have hs := site?_of_agent hg
  have hfounds : founds (ss ++ [⟨w, .act (.provide p), w'⟩]) = founds ss := founds_of_none rfl
  have hlook : lookUps (ss ++ [⟨w, .act (.provide p), w'⟩]) = [] := by
    rw [lookUps, hfounds, hnil]
    rfl
  have htask : ∀ n, w'.task? n = none := fun n => (task?_of_tasks htasks n).trans (hidle n)
  exact {
    idle := fun h => by cases hs.symm.trans h
    fresh := fun n hle => by
      rw [notes_of_none rfl]
      exact f.fresh n (hnext ▸ hle)
    queue := fun h => by
      cases hs.symm.trans h
      exact ⟨.nil, fun n hn => by cases hn⟩
    held := fun h hq => by
      cases hs.symm.trans h
      cases hq
    ended := fun ho => by
      have hover := (halted_snoc (s := ⟨w, .act (.provide p), w'⟩) (by simp)).mp ho
      exact ⟨hserving.trans (f.ended hover).1, htask⟩
    place := fun {_ n _} _ ht => by cases (htask n).symm.trans ht
    source := fun h hc => by
      cases hs.symm.trans h
      exact .inl hc
    once := by
      rw [hlook]
      exact Nat.zero_le 1
    settled := fun _ hne => absurd hlook hne }

theorem resolving_of_halt : Resolving (ss ++ [⟨w, .act .halt, w'⟩])
    { w with serving := false, settingUp := none, tasks := [], events := none } := by
  have hlook : lookUps (ss ++ [⟨w, .act .halt, w'⟩]) = lookUps ss := lookUps_of_none rfl
  have hhalt : Halted (ss ++ [⟨w, .act .halt, w'⟩]) := ⟨_, List.mem_append_right _ (.head _), rfl⟩
  exact {
    idle := fun hs => ⟨(founds_of_none rfl).trans (f.idle hs).1, fun _ => rfl⟩
    fresh := fun n hle => (notes_of_none rfl n).trans (f.fresh n hle)
    queue := f.queue
    held := fun _ _ => .inl hhalt
    ended := fun _ => ⟨rfl, fun _ => rfl⟩
    place := fun _ ht => by cases ht
    source := fun hs hc => (f.source hs hc).imp_right mem_canisters_snoc
    once := by
      rw [hlook]
      exact f.once
    settled := fun _ _ => .inl hhalt }

theorem resolving_of_provide {p : Provided} (hwait : w.settingUp.isSome = true → w.agent = none)
    (h : w.step? (.provide p) = some w') : Resolving (ss ++ [⟨w, .act (.provide p), w'⟩]) w' := by
  obtain ⟨id, config, hset, rfl⟩ := provide_eq_some h
  have hkept : Unmoved w { w with settingUp := none } := ⟨rfl, rfl, rfl, fun h => h⟩
  cases hi : resolveIdentity p with
  | error e =>
    rw [endSetUp_of_error hi]
    exact f.unmoved (hkept.post _) rfl rfl (by simp)
  | ok i =>
    cases i with
    | none =>
      rw [endSetUp_of_nobody hi]
      exact f.unmoved hkept rfl rfl (by simp)
    | some i =>
      rw [endSetUp_of_identity hi]
      refine resolving_of_founded f (i := i) (hwait (by rw [hset]; rfl)) (agent_post ..) ?_ ?_ ?_
      · exact tasks_post ..
      · exact nextTask_post ..
      · exact serving_post ..

theorem resolving_of_forward (h : w.forward? = some w') :
    Resolving (ss ++ [⟨w, .act .forward, w'⟩]) w' := by
  have hevents (es : Option (Backlog Event)) : Unmoved w { w with events := es } :=
    ⟨rfl, rfl, rfl, fun h => h⟩
  refine f.unmoved ?_ rfl rfl (by simp)
  unfold forward? at h
  split at h
  · cases h
  · cases h
    exact hevents _
  · split at h
    · cases h
      exact hevents _
    · cases h
      exact (hevents _).post _

theorem Resolving.begins (c : Capability) (payload : Json) (hg : w.agent = some g) :
    Place g.config g.resolving w.nextTask c.kind (Operation.direct? c payload)
      (notes ss w.nextTask) (canisters ss) (lookUps ss = []) (Operation.handle g.config c payload)
      .running := by
  have hq : w.nextTask ∉ g.resolving := by
    intro hq
    exact Nat.lt_irrefl _ ((f.queue (site?_of_agent hg)).2 _ hq)
  rw [f.fresh _ (Nat.le_refl _)]
  have hbegins := Operation.begins_handle g.config c payload
  generalize Operation.direct? c payload = via, Operation.handle g.config c payload = p at hbegins
  cases hbegins with
  | aside hp => exact .aside hp hq (.inl rfl)
  | seeking hk hv ha =>
    exact .seeking ⟨fun h => hk (Capability.eq_of_kind h), hv, ha⟩ hq rfl
  | naming hk hv => exact .naming ⟨congrArg _ hk, hv⟩ hq rfl

theorem resolving_of_spawn {w₁ : Worker} {c : Capability} {id : String} {payload : Json}
    (hg : w.agent = some g) (hserving : w.serving = true) (h : Unmoved w w₁)
    (l : Ledger lost rows w) :
    Resolving (ss ++ [⟨w, .act .receive, w₁.spawn g.config id c payload⟩])
      (w₁.spawn g.config id c payload) := by
  have hs := site?_of_agent hg
  have hs' : (w₁.spawn g.config id c payload).site? = some g.site := h.site.trans hs
  have hlook : lookUps (ss ++ [⟨w, .act .receive, w₁.spawn g.config id c payload⟩]) = lookUps ss :=
    lookUps_of_none rfl
  have hfree : w₁.task? w₁.nextTask = none := by
    rw [h.nextTask, task?_of_tasks h.tasks]
    exact l.not_owes_next
  have htask : ∀ n, (w₁.spawn g.config id c payload).task? n = if n = w.nextTask then
      some ⟨w.nextTask, id, c.kind, Operation.handle g.config c payload, .running⟩
        else w.task? n := by
    intro n
    rw [task?_spawn hfree, h.nextTask, task?_of_tasks h.tasks]
  have hnext : (w₁.spawn g.config id c payload).nextTask = w.nextTask + 1 :=
    congrArg (· + 1) h.nextTask
  have old {n : Nat} {t : Task} (ht : w.task? n = some t) :
      (w₁.spawn g.config id c payload).task? n = some t := by
    have hne : n ≠ w.nextTask := Nat.ne_of_lt (l.fresh (by rw [ht]; rfl))
    rw [htask, if_neg hne]
    exact ht
  have hover : ¬ Halted (ss ++ [⟨w, .act .receive, w₁.spawn g.config id c payload⟩]) := by
    intro ho
    have hold : Halted ss :=
      (halted_snoc (s := ⟨w, .act .receive, w₁.spawn g.config id c payload⟩) (by simp)).mp ho
    cases hserving.symm.trans (f.ended hold).1
  have hstarted : StartedFor (ss ++ [⟨w, .act .receive, w₁.spawn g.config id c payload⟩]) g.config
      w.nextTask c.kind (Operation.direct? c payload) := by
    refine ⟨⟨w.nextTask, id, c.kind, Operation.handle g.config c payload, .running⟩, ?_, c, payload,
      rfl, rfl, rfl, rfl⟩
    rw [started, List.flatMap_append, List.flatMap_singleton]
    refine List.mem_append_right _ (List.mem_filter.mpr ⟨?_, by simp⟩)
    rw [← h.nextTask]
    exact List.mem_append_right _ (List.mem_singleton.mpr rfl)
  exact {
    idle := fun hnone => by cases hs'.symm.trans hnone
    fresh := fun n hle => by
      rw [hnext] at hle
      rw [notes_of_none rfl]
      exact f.fresh n (Nat.le_of_succ_le hle)
    queue := fun hq => by
      rw [hnext]
      cases hs'.symm.trans hq
      exact ⟨(f.queue hs).1, fun n hn => Nat.lt_succ_of_lt ((f.queue hs).2 n hn)⟩
    held := fun {_ n} hq hn => by
      cases hs'.symm.trans hq
      refine .inr ?_
      rcases f.held hs hn with ho | hsome
      · cases hserving.symm.trans (f.ended ho).1
      · obtain ⟨t, ht⟩ := Option.isSome_iff_exists.mp hsome
        rw [old ht]
        rfl
    ended := fun ho => absurd ho hover
    place := fun {_ n u} hq hu => by
      cases hs'.symm.trans hq
      rw [htask] at hu
      rw [notes_of_none rfl, hlook, canisters, founds_of_none rfl, ← canisters]
      by_cases hn : n = w.nextTask
      · rw [if_pos hn] at hu
        cases hu
        subst hn
        exact ⟨_, hstarted, f.begins c payload hg⟩
      · rw [if_neg hn] at hu
        obtain ⟨via, ho, hp⟩ := f.place hs hu
        exact ⟨via, ho.snoc _, hp⟩
    source := fun hq hc => by
      cases hs'.symm.trans hq
      exact (f.source hs hc).imp_right mem_canisters_snoc
    once := by
      rw [hlook]
      exact f.once
    settled := fun hq hne => by
      cases hs'.symm.trans hq
      rw [hlook] at hne
      rcases f.settled hs hne with ho | hslot | ⟨n, t, hn, ht, hset⟩
      · cases hserving.symm.trans (f.ended ho).1
      · exact .inr (.inl hslot)
      · exact .inr (.inr ⟨n, t, hn, old ht, hset⟩) }

theorem resolving_of_receive (l : Ledger lost rows w) (h : w.receive? = some w') :
    Resolving (ss ++ [⟨w, .act .receive, w'⟩]) w' := by
  obtain ⟨hserving, _, e, rest, _, rfl⟩ := receive?_eq_some h
  have hkept : Unmoved w { w with inbox := rest } := ⟨rfl, rfl, rfl, fun h => h⟩
  cases e with
  | request id kind payload =>
    have h := handled { w with inbox := rest } id kind payload
    generalize { w with inbox := rest }.handle (.request id kind payload) = w' at h ⊢
    cases h with
    | refused _ _ _ => exact f.unmoved (hkept.post _) rfl rfl (by simp)
    | again _ _ _ _ => exact f.unmoved (hkept.post _) rfl rfl (by simp)
    | begun _ _ _ _ => exact f.unmoved ⟨rfl, rfl, rfl, fun h => h⟩ rfl rfl (by simp)
    | unknown _ _ => exact f.unmoved hkept rfl rfl (by simp)
    | early _ _ _ _ => exact f.unmoved (hkept.post _) rfl rfl (by simp)
    | spawned c g _ _ hg => exact resolving_of_spawn f hg hserving hkept l
  | _ => exact f.unmoved hkept rfl rfl (by simp)

theorem resolving_of_react {x : Turn} (l : Ledger lost rows w)
    (hwait : w.settingUp.isSome = true → w.agent = none) (h : w.react? x = some w') :
    Resolving (ss ++ [⟨w, x, w'⟩]) w' := by
  cases x with
  | deliver e => cases h; exact f.unmoved ⟨rfl, rfl, rfl, fun h => h⟩ rfl rfl (by simp)
  | collect =>
    unfold react? at h
    dsimp only at h
    split at h
    · cases h
    · cases h; exact f.unmoved ⟨rfl, rfl, rfl, fun h => h⟩ rfl rfl (by simp)
  | act a =>
    cases a with
    | receive => exact resolving_of_receive f l h
    | provide p => exact resolving_of_provide f hwait h
    | run n =>
      obtain ⟨g, t, hg, ht, h⟩ := withTask_eq_some h
      exact resolving_of_run? f hg ht (l.fresh (by rw [ht]; rfl)) h
    | endCall n e =>
      obtain ⟨g, t, hg, ht, h⟩ := withTask_eq_some h
      have hn : n < w.nextTask := l.fresh (by rw [ht]; rfl)
      obtain ⟨c, next, hpr, hph, ⟨r, rfl, hm⟩ | ⟨rfl, hm⟩⟩ := moves_of_endCall? hg ht h
      · exact resolving_of_answered f hg ht hn hpr hph hm
      · exact resolving_of_crashed f hg ht hn hpr hm
    | forward => exact resolving_of_forward f h
    | stop =>
      simp only [react?, step?] at h
      split at h
      · cases h; exact f.unmoved ⟨rfl, rfl, rfl, fun _ => rfl⟩ rfl rfl (by simp)
      · cases h
    | abandon => cases h; exact f.unmoved ⟨rfl, rfl, rfl, fun h => h⟩ rfl rfl (by simp)
    | halt => cases h; exact resolving_of_halt f

end

/-! ## Runs -/

theorem resolving_start (disk : Option DataDir) (now : UInt64) : Resolving [] (start disk now) where
  idle _ := ⟨rfl, fun _ => rfl⟩
  fresh _ _ := rfl
  queue h := by cases h
  held h := by cases h
  ended h := by
    obtain ⟨s, hs, _⟩ := h
    cases hs
  place h := by cases h
  source h := by cases h
  once := Nat.zero_le 1
  settled h := by cases h

theorem resolving_of_run {disk : Option DataDir} {now : UInt64}
    (run : Run react? (start disk now) ss w) : Resolving ss w := by
  induction run with
  | nil => exact resolving_start disk now
  | snoc run h ih =>
    exact resolving_of_react ih (ledger_of_run run) (fun hset => ((parted_of_run run).waiting hset).1) h

end Worker
end ChatBridge
