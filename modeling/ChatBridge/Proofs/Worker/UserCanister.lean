import ChatBridge.Proofs.Worker.LookUps

/-!
# The canister of the user

All requests that need the canister of the user share one look-up. Whoever finds the canister known
goes on with it; the others queue up, and the one inside the gate asks. A look-up that comes to
nothing lets the next one try again, one that finds the canister is the last.
-/

namespace ChatBridge

open Operation

def Tidy (ns : List Note) : Prop := ns = [] ∨ ns = [.asked] ∨ ∃ c, Holds ns c

section
variable {config : AgentConfig} {queue : List Nat} {n : Nat} {kind : String} {via : Option String}
  {ns : List Note} {cs : List String} {lone : Prop} {p : Program Json} {phase : Phase}
  (h : Place config queue n kind via ns cs lone p phase)
include h

theorem Place.tidy : Tidy ns := by
  cases h with
  | aside _ _ hns => exact hns.imp_right .inl
  | leaving _ _ hns => exact .inr (.inr ⟨_, hns⟩)
  | holding _ _ _ hns => exact .inr (.inr ⟨_, hns⟩)
  | waiting _ _ hns _ => exact .inr (.inl hns)
  | found _ _ hns _ => exact .inr (.inl hns)
  | failing _ hns => exact .inr (.inl hns)
  | named _ _ hns => exact .inr (.inl hns)
  | setting _ _ hns _ => exact .inr (.inl hns)
  | _ => exact .inl (by assumption)

theorem Place.notes_of_look {next : Option String → Program Json} (hp : p = .userCanister next) :
    ns = [] := by
  cases h with
  | seeking _ _ hns => exact hns
  | rechecking _ _ hns => exact hns
  | aside ha _ _ =>
    rw [hp] at ha
    cases ha
  | holding _ ha _ _ =>
    rw [hp] at ha
    cases ha
  | _ => cases hp

theorem Place.destination {c : ServiceCall} {next : Except ServiceFailure Json → Program Json}
    (hp : p = .call c next) (hu : c.isOfUser = true) :
    via = some c.canister ∨ via = none ∧ Holds ns c.canister := by
  cases h with
  | aside ha _ _ =>
    rw [hp] at ha
    cases ha with
    | call hc _ => exact .inl (hc.2 hu)
  | holding hv ha _ hns =>
    rw [hp] at ha
    cases ha with
    | call hc _ =>
      cases hc.2 hu
      exact .inr ⟨hv, hns⟩
  | asking _ _ _ _ =>
    cases hp
    cases hu
  | waiting _ _ _ _ =>
    cases hp
    cases hu
  | naming _ _ _ =>
    cases hp
    cases hu
  | named _ _ _ =>
    cases hp
    cases hu
  | _ => cases hp

theorem Place.inside {c : ServiceCall} {next : Except ServiceFailure Json → Program Json}
    (hk : kind ≠ Capability.getCurrentUser.kind) (hph : phase = .calling) (hp : p = .call c next)
    (hc : c.asksUser = true) : queue.head? = some n ∧
      ∃ after : String → Program Json, next = fun r => settle after (answerTo CurrentUser "current_user" r) := by
  cases h with
  | aside ha _ _ =>
    rw [hp] at ha
    cases ha with
    | call h _ => cases hc.symm.trans h.1
  | holding _ ha _ _ =>
    rw [hp] at ha
    cases ha with
    | call h _ => cases hc.symm.trans h.1
  | waiting _ hq _ _ =>
    cases hp
    exact ⟨hq, _, rfl⟩
  | named h _ _ => exact absurd h.kind hk
  | _ => cases hph

theorem Place.head_of_leave {next : Program Json} (hp : p = .leave .resolving next) :
    queue.head? = some n := by
  cases h with
  | aside ha _ _ =>
    rw [hp] at ha
    cases ha
  | holding _ ha _ _ =>
    rw [hp] at ha
    cases ha
  | leaving _ hq _ => exact hq
  | failing hq _ => exact hq
  | _ => cases hp

end

namespace Worker

def atGate (w : Worker) : List Nat := (w.agent.map (·.resolving)).getD []

/-- The step leaves the canister of the user as it was, and the task `n`, which was inside the gate, is
gone or has only to leave the gate. -/
def ComesToNothing (s : Step Worker Turn) (n : Nat) (t : Task) (e : CallEnd) : Prop :=
  s.after.canister? = s.before.canister? ∧ ∃ rest, s.before.atGate = n :: rest ∧
    match e with
    | .crashed => s.after.task? n = none ∧ s.after.atGate = rest
    | .answered _ => s.after.atGate = n :: rest ∧ ∃ f, s.after.task? n =
        some { t with program := .leave .resolving (.fail f), phase := .running }

/-- The task inside the gate can leave it to the next one. -/
def Releases (w : Worker) (n : Nat) : Prop :=
  ∃ w' rest, w.react? (.act (.run n)) = some w' ∧ w.atGate = n :: rest ∧ w'.atGate = rest ∧
    w'.canister? = w.canister?

/-- The task can look for the canister once more, and ask for it if there is still none. -/
def Retries (w : Worker) (n : Nat) : Prop :=
  ∃ w₁ w₂, w.react? (.act (.run n)) = some w₁ ∧ w₁.react? (.act (.run n)) = some w₂ ∧
    noted? ⟨w₁, .act (.run n), w₂⟩ = w.canister?.map (fun c => (n, .got c)) ∧
    (w.canister? = none → ∃ w₃ t, w₂.react? (.act (.run n)) = some w₃ ∧ w₃.task? n = some t ∧
      t.LooksUp)

variable {ss : History} {s : Step Worker Turn} {w w' : Worker} {n : Nat} {t : Task} {g : Agent}
  {a : Site} {disk : Option DataDir} {now : UInt64}

/-! ## Reading a step back -/

theorem atGate_of_site (h : w.site? = some a) : w.atGate = a.queue := by
  obtain ⟨g, hg, rfl⟩ := Option.map_eq_some_iff.mp h
  rw [atGate, hg]
  rfl

theorem agent_of_task (f : Resolving ss w) (ht : w.task? n = some t) : ∃ g, w.agent = some g := by
  cases hg : w.agent with
  | none =>
    have hnone := (f.idle (by rw [site?, hg]; rfl)).2 n
    cases hnone.symm.trans ht
  | some g => exact ⟨g, rfl⟩

theorem agent_of_atGate {rest : List Nat} (h : w.atGate = n :: rest) : ∃ g, w.agent = some g := by
  cases hg : w.agent with
  | none =>
    rw [atGate, hg] at h
    cases h
  | some g => exact ⟨g, rfl⟩

/-! ## The slot -/

theorem canister?_of_noted {x : Turn} (h : w.react? x = some w') {c : String}
    (hn : noted? ⟨w, x, w'⟩ = some (n, .got c)) : w'.canister? = some c := by
  obtain ⟨⟨g, t⟩, hst, hnote⟩ := Option.bind_eq_some_iff.mp hn
  obtain ⟨m, rfl, hg, ht⟩ := stepper?_eq_some hst
  obtain ⟨note, hnote, heq⟩ := Option.map_eq_some_iff.mp hnote
  cases heq
  have hm := moves_of_run? hg ht ((react?_run hg ht).symm.trans h)
  rw [canister?_of_site hm.site]
  unfold Task.note? at hnote
  split at hnote
  · rename_i next hpr
    obtain ⟨d, hd, heq⟩ := Option.map_eq_some_iff.mp hnote
    cases heq
    rw [(Task.does_look hpr).site]
    exact hd
  · rename_i d next hpr
    cases hnote
    rw [(Task.does_set hpr).site]
  · split at hnote
    · cases hnote
    · cases hnote
  · cases hnote

theorem isSome_canister?_of_react {x : Turn} (hwait : w.settingUp.isSome = true → w.agent = none)
    (h : w.react? x = some w') (hc : w.canister?.isSome = true) : w'.canister?.isSome = true := by
  have same (hw : w'.agent = w.agent) : w'.canister?.isSome = true := by
    rw [canister?, hw]
    exact hc
  rcases agent_of_react h with hw | ⟨a, rfl, h'⟩
  · exact same hw
  · rcases agent_of_step h' with hw | ⟨id, config, i, hset, _⟩ | ⟨n, g, g', ha, hg, hg', _⟩
    · exact same hw
    · rw [canister?, hwait (by rw [hset]; rfl)] at hc
      cases hc
    · cases a with
      | run m =>
        obtain ⟨g, t, hg, ht, h'⟩ := withTask_eq_some h'
        rw [canister?, hg] at hc
        rw [canister?_of_site (moves_of_run? hg ht h').site]
        unfold Task.siteAfter
        split
        · rfl
        · exact hc
        · exact hc
        · exact hc
      | endCall m e =>
        obtain ⟨g, t, hg, ht, h'⟩ := withTask_eq_some h'
        rw [canister?, hg] at hc
        obtain ⟨c, next, _, _, ⟨r, _, hm⟩ | ⟨_, hm⟩⟩ := moves_of_endCall? hg ht h'
        · rw [canister?_of_site hm.site]
          exact hc
        · rw [canister?_of_site hm.site]
          exact hc
      | _ => cases ha

theorem isSome_canister?_of_run (run : Run react? (start disk now) ss w) (hs : s ∈ ss)
    (hc : s.after.canister?.isSome = true) : w.canister?.isSome = true := by
  induction run with
  | nil => cases hs
  | snoc run h ih =>
    rcases List.mem_append.mp hs with hs | hs
    · exact isSome_canister?_of_react (fun hset => ((parted_of_run run).waiting hset).1) h (ih hs)
    · cases List.mem_singleton.mp hs
      exact hc

/-! ## Notes -/

theorem notes_append (pre post : History) (n : Nat) : notes (pre ++ post) n =
    notes pre n ++ notes post n := by
  unfold notes
  rw [List.filterMap_append, List.map_append]

theorem isSome_task?_of_noted {x : Turn} {note : Note} (h : w.react? x = some w')
    (hn : noted? ⟨w, x, w'⟩ = some (n, note)) : (w'.task? n).isSome = true := by
  obtain ⟨⟨g, t⟩, hst, hnote⟩ := Option.bind_eq_some_iff.mp hn
  obtain ⟨m, rfl, hg, ht⟩ := stepper?_eq_some hst
  obtain ⟨_, hnote, heq⟩ := Option.map_eq_some_iff.mp hnote
  cases heq
  have hm := moves_of_run? hg ht ((react?_run hg ht).symm.trans h)
  rw [hm.tasks, number_of_task? ht, if_pos rfl]
  unfold Task.note? at hnote
  split at hnote
  · rename_i next hpr
    rw [(Task.does_look hpr).after]
    rfl
  · rename_i d next hpr
    rw [(Task.does_set hpr).after]
    rfl
  · rename_i c next hpr hph
    split at hnote
    · rename_i hc
      rw [(Task.does_ask hpr hph hc).after]
      rfl
    · cases hnote
  · cases hnote

theorem tidy_of_run (run : Run react? (start disk now) ss w) (n : Nat) : Tidy (notes ss n) := by
  induction run with
  | nil => exact .inl rfl
  | @snoc ss w x w' run h ih =>
    cases hx : noted? ⟨w, x, w'⟩ with
    | none =>
      rw [notes_of_none hx]
      exact ih
    | some p =>
      obtain ⟨m, note⟩ := p
      by_cases hm : n = m
      · -- who makes a note is still there, and its place says what it can have noted
        subst hm
        have f := resolving_of_run (run.snoc h)
        obtain ⟨t, ht⟩ := Option.isSome_iff_exists.mp (isSome_task?_of_noted h hx)
        obtain ⟨g, hg⟩ := agent_of_task f ht
        obtain ⟨_, _, hp⟩ := f.place (site?_of_agent hg) ht
        exact hp.tidy
      · have hmap : noted? ⟨w, x, w'⟩ = (some note).map (m, ·) := hx
        rw [notes_snoc hmap, if_neg hm]
        exact ih

theorem notes_of_seen (run : Run react? (start disk now) ss w) (hs : s ∈ ss)
    (ha : s.action = .act (.run n)) (ht : s.before.task? n = some t)
    {next : Option String → Program Json} (hpr : t.program = .userCanister next) {c : String}
    (hc : s.before.canister? = some c) : notes ss n = [.got c] := by
  obtain ⟨pre, post, rfl⟩ := List.append_of_mem hs
  obtain ⟨hrun, _⟩ := run.before_of_split rfl
  obtain ⟨w, x, w'⟩ := s
  dsimp only at ha ht hc hrun
  subst ha
  have f := resolving_of_run hrun
  obtain ⟨g, hg⟩ := agent_of_task f ht
  obtain ⟨_, _, hp⟩ := f.place (site?_of_agent hg) ht
  have hslot : g.userCanister = some c := by
    rw [canister?, hg] at hc
    exact hc
  have hnote : t.note? g = some (.got c) := by
    simp only [Task.note?, hpr, hslot]
    rfl
  have hnow : notes (pre ++ [⟨w, .act (.run n), w'⟩]) n = [.got c] := by
    rw [notes_snoc (noted?_run hg ht), if_pos rfl, hp.notes_of_look hpr, hnote]
    rfl
  have hall : notes (pre ++ ⟨w, .act (.run n), w'⟩ :: post) n = .got c :: notes post n := by
    rw [← List.singleton_append, ← List.append_assoc, notes_append, hnow]
    rfl
  -- nothing can follow such a note
  rcases tidy_of_run run n with hnil | hask | ⟨d, hd | hd⟩
  · cases hall.symm.trans hnil
  · cases (List.cons.inj (hall.symm.trans hask)).1
  · rw [hall, (List.cons.inj (hall.symm.trans hd)).2]
  · cases (List.cons.inj (hall.symm.trans hd)).1

/-! ## The gate -/

theorem looksUp_inside (f : Resolving ss w) (hg : w.agent = some g) (ht : w.task? n = some t)
    (h : t.LooksUp) : g.resolving.head? = some n := by
  obtain ⟨hk, hph, c, next, hpr, hc⟩ := h
  obtain ⟨_, _, hp⟩ := f.place (site?_of_agent hg) ht
  exact (hp.inside hk hph hpr hc).1

theorem atGate_of_head (hg : w.agent = some g) (hh : g.resolving.head? = some n) :
    w.atGate = n :: g.resolving.tail := by
  rw [atGate_of_site (site?_of_agent hg)]
  cases hq : g.resolving with
  | nil =>
    rw [hq] at hh
    cases hh
  | cons m rest =>
    rw [hq] at hh
    cases hh
    exact hq

theorem erase_of_head {queue : List Nat} (h : queue.head? = some n) : queue.erase n = queue.tail := by
  cases queue with
  | nil => cases h
  | cons m rest =>
    cases h
    exact List.erase_cons_head n rest

theorem comesToNothing_of_endCall (f : Resolving ss w) {e : CallEnd}
    (h : w.react? (.act (.endCall n e)) = some w') (ht : w.task? n = some t) (hl : t.LooksUp)
    (hnone : ∀ r, e = .answered r → created? r = none) :
    ComesToNothing ⟨w, .act (.endCall n e), w'⟩ n t e := by
  obtain ⟨g, t', hg, ht', h⟩ := withTask_eq_some h
  cases ht.symm.trans ht'
  have hinside := looksUp_inside f hg ht hl
  have hhead := atGate_of_head hg hinside
  obtain ⟨hk, hph, c, next, hpr, hc⟩ := hl
  obtain ⟨_, _, hp⟩ := f.place (site?_of_agent hg) ht
  obtain ⟨hq, after, rfl⟩ := hp.inside hk hph hpr hc
  have hbefore := canister?_of_site (site?_of_agent hg)
  obtain ⟨c', next', hpr', _, ⟨r, rfl, hm⟩ | ⟨rfl, hm⟩⟩ := moves_of_endCall? hg ht h
  · cases hpr.symm.trans hpr'
    refine ⟨(canister?_of_site hm.site).trans hbefore.symm, _, hhead, ?_, ?_⟩
    · exact (atGate_of_site hm.site).trans ((atGate_of_site (site?_of_agent hg)).symm.trans hhead)
    · obtain ⟨x, hx⟩ := settle_of_created? after (hnone r rfl)
      refine ⟨x, ?_⟩
      rw [hm.tasks, if_pos rfl, Task.answered, hx]
  · refine ⟨(canister?_of_site hm.site).trans hbefore.symm, _, hhead, ?_, ?_⟩
    · rw [hm.tasks, if_pos rfl]
    · exact (atGate_of_site hm.site).trans (erase_of_head hinside)

theorem next_of_does {note : Option Note} {u : Task} (hg : w.agent = some g) (ht : w.task? n = some t)
    (hd : t.Does g a note u) : ∃ w' g', w.react? (.act (.run n)) = some w' ∧ w'.agent = some g' ∧
      g'.site = a ∧ w'.task? n = some u ∧ noted? ⟨w, .act (.run n), w'⟩ = note.map (n, ·) := by
  obtain ⟨w', hrun⟩ := Option.isSome_iff_exists.mp (hd.runs w)
  have hm := moves_of_run? hg ht hrun
  rw [hd.site, hd.after] at hm
  obtain ⟨g', hg', hsite⟩ := Option.map_eq_some_iff.mp hm.site
  refine ⟨w', g', (react?_run hg ht).trans hrun, hg', hsite, (hm.tasks n).trans (if_pos rfl), ?_⟩
  rw [noted?_run hg ht, hd.note]

theorem releases_of_leave (f : Resolving ss w) (ht : w.task? n = some t) {next : Program Json}
    (hpr : t.program = .leave .resolving next) : w.Releases n := by
  obtain ⟨g, hg⟩ := agent_of_task f ht
  obtain ⟨_, _, hp⟩ := f.place (site?_of_agent hg) ht
  have hhead : g.resolving.head? = some n := hp.head_of_leave hpr
  obtain ⟨w', g', hstep, hg', hsite, _, _⟩ := next_of_does hg ht (Task.does_leave hpr)
  rw [number_of_task? ht, erase_of_head hhead] at hsite
  have hs' : w'.site? = some { g.site with queue := g.resolving.tail } :=
    (site?_of_agent hg').trans (congrArg some hsite)
  refine ⟨w', _, hstep, atGate_of_head hg hhead, atGate_of_site hs', ?_⟩
  exact (canister?_of_site hs').trans (canister?_of_site (site?_of_agent hg)).symm

theorem live_of_head (f : Resolving ss w) {rest : List Nat} (h : w.atGate = n :: rest) :
    Halted ss ∨ ∃ t, w.task? n = some t ∧
      (t.LooksUp ∨ (w.react? (.act (.run n))).isSome = true) := by
  obtain ⟨g, hg⟩ := agent_of_atGate h
  have hs := site?_of_agent hg
  have hqueue : g.resolving = n :: rest := (atGate_of_site hs).symm.trans h
  have hhead : g.resolving.head? = some n := congrArg List.head? hqueue
  have hmem : n ∈ g.resolving := List.mem_of_head? hhead
  refine (f.held hs hmem).imp_right fun hsome => ?_
  obtain ⟨t, ht⟩ := Option.isSome_iff_exists.mp hsome
  refine ⟨t, ht, ?_⟩
  rw [react?_run hg ht]
  obtain ⟨_, _, hp⟩ := f.place hs ht
  generalize hpr : t.program = p, hph : t.phase = phase at hp
  -- the first of the queue is at none of the places outside the gate
  cases hp with
  | aside _ hq _ => exact absurd hmem hq
  | seeking _ hq _ => exact absurd hmem hq
  | coming _ hq _ => exact absurd hmem hq
  | holding _ _ hq _ => exact absurd hmem hq
  | naming _ hq _ => exact absurd hmem hq
  | named _ hq _ => exact absurd hmem hq
  | setting _ hq _ _ => exact absurd hmem hq
  | queued _ _ _ =>
    have hin := (isInside_iff (number_of_task? ht)).mpr hhead
    exact .inr ((Task.does_enter hpr hph hin).runs w)
  | rechecking _ _ _ => exact .inr ((Task.does_look hpr).runs w)
  | asking _ _ _ _ => exact .inr ((Task.does_ask hpr hph rfl).runs w)
  | waiting hw _ _ _ => exact .inl ⟨hw.kind, hph, _, _, hpr, rfl⟩
  | found _ _ _ _ => exact .inr ((Task.does_set hpr).runs w)
  | leaving _ _ _ => exact .inr ((Task.does_leave hpr).runs w)
  | failing _ _ => exact .inr ((Task.does_leave hpr).runs w)

theorem retries_of_queued (f : Resolving ss w) {rest : List Nat} (h : w.atGate = n :: rest)
    (ht : w.task? n = some t) (hph : t.phase = .queued) : w.Retries n := by
  obtain ⟨g, hg⟩ := agent_of_atGate h
  have hs := site?_of_agent hg
  have hqueue : g.resolving = n :: rest := (atGate_of_site hs).symm.trans h
  have hhead : g.resolving.head? = some n := congrArg List.head? hqueue
  have hmem : n ∈ g.resolving := List.mem_of_head? hhead
  obtain ⟨via, _, hp⟩ := f.place hs ht
  obtain ⟨after, hw, hpr⟩ : ∃ after, Way t.kind via after ∧
      t.program = .enter .resolving (recheck g.config after) := by
    generalize hpr : t.program = p, hph' : t.phase = phase at hp
    cases hp with
    | queued hw _ _ => exact ⟨_, hw, rfl⟩
    | aside _ hq _ => exact absurd hmem hq
    | holding _ _ hq _ => exact absurd hmem hq
    | _ => cases hph.symm.trans hph'
  have hin := (isInside_iff (number_of_task? ht)).mpr hhead
  obtain ⟨w₁, g₁, hstep₁, hg₁, hsite, ht₁, _⟩ := next_of_does hg ht (Task.does_enter hpr hph hin)
  have hslot : g₁.userCanister = w.canister? :=
    (congrArg Site.slot hsite).trans (canister?_of_site hs).symm
  obtain ⟨w₂, g₂, hstep₂, hg₂, _, ht₂, hnote⟩ := next_of_does hg₁ ht₁ (Task.does_look rfl)
  rw [hslot] at ht₂ hnote
  refine ⟨w₁, w₂, hstep₁, hstep₂, hnote.trans (Option.map_map ..), fun hnone => ?_⟩
  rw [hnone] at ht₂
  obtain ⟨w₃, _, hstep₃, _, _, ht₃, _⟩ := next_of_does hg₂ ht₂ (Task.does_ask rfl rfl rfl)
  exact ⟨w₃, _, hstep₃, ht₃, hw.kind, rfl, _, _, rfl, rfl⟩

/-! ## Main statement -/

theorem destination_of_called (f : Resolving ss s.before) {c : ServiceCall}
    (h : called? s = some (t, c)) (hu : c.isOfUser = true) : ∃ config via,
      s.before.config? = some config ∧ StartedFor ss config t.number t.kind via ∧
        (via = some c.canister ∨ via = none ∧ Holds (notes ss t.number) c.canister) := by
  obtain ⟨⟨g, u⟩, hst, hcall⟩ := Option.bind_eq_some_iff.mp h
  obtain ⟨n, _, hg, ht⟩ := stepper?_eq_some hst
  obtain ⟨d, hcall, heq⟩ := Option.map_eq_some_iff.mp hcall
  cases heq
  obtain ⟨via, ho, hp⟩ := f.place (site?_of_agent hg) ht
  rw [number_of_task? ht]
  unfold Task.call? at hcall
  split at hcall
  · rename_i next hpr _
    cases hcall
    exact ⟨g.config, via, congrArg (Option.map Agent.config) hg, ho, hp.destination hpr hu⟩
  · cases hcall

/-- At most one look-up for the canister of the user is under way at a time, and at most one in the
whole run is told of a user that has been created. Once the canister is known it stays so, and a task
that sees it goes on with it and never asks. A look-up that comes to nothing, by its answer or by a
crash, leaves the canister as it was and the gate to the next in the queue, who is never stuck there,
looks again, and asks if there is still no canister. A call to the canister of a user goes to the one
that the request names, or else to the one that its task got hold of, which was that of the agent at
that time; and that is the one that the agent was set up with or one that was found created. -/
theorem lookUps_of_run {disk : Option DataDir} {now : UInt64} {ss : History} {w : Worker}
    (run : Run react? (start disk now) ss w) :
    (∀ m n t u, w.task? m = some t → w.task? n = some u → t.LooksUp → u.LooksUp → m = n) ∧
    (lookUps ss).length ≤ 1 ∧
    (∀ s ∈ ss, s.after.canister?.isSome = true → w.canister?.isSome = true) ∧
    (∀ s ∈ ss, ∀ n t next c, s.action = .act (.run n) → s.before.task? n = some t →
      t.program = .userCanister next → s.before.canister? = some c → notes ss n = [.got c]) ∧
    (∀ s ∈ ss, ∀ n t e, s.action = .act (.endCall n e) → s.before.task? n = some t → t.LooksUp →
      (∀ r, e = .answered r → created? r = none) → ComesToNothing s n t e) ∧
    (∀ n t next, w.task? n = some t → t.program = .leave .resolving next → w.Releases n) ∧
    (∀ n rest, w.atGate = n :: rest → Halted ss ∨ ∃ t, w.task? n = some t ∧
      (t.LooksUp ∨ (w.react? (.act (.run n))).isSome = true) ∧
      (t.phase = .queued → w.Retries n)) ∧
    (∀ pre s post t c, ss = pre ++ s :: post → called? s = some (t, c) → c.isOfUser = true →
      ∃ config via, s.before.config? = some config ∧ StartedFor pre config t.number t.kind via ∧
        (via = some c.canister ∨ via = none ∧ Holds (notes pre t.number) c.canister)) ∧
    (∀ s ∈ ss, ∀ n c, noted? s = some (n, .got c) → s.after.canister? = some c) ∧
    (∀ g c, w.agent = some g → g.userCanister = some c →
      g.config.userCanister = some c ∨ c ∈ canisters ss) := by
  have f := resolving_of_run run
  refine ⟨?_, f.once, fun s hs => isSome_canister?_of_run run hs, ?_, ?_, ?_, ?_, ?_, ?_, ?_⟩
  · intro m n t u ht hu hm hn
    obtain ⟨g, hg⟩ := agent_of_task f ht
    have hhead := looksUp_inside f hg ht hm
    exact Option.some.inj (hhead.symm.trans (looksUp_inside f hg hu hn))
  · intro s hs n t next c ha ht hpr hc
    exact notes_of_seen run hs ha ht hpr hc
  · intro s hs n t e ha ht hl hnone
    obtain ⟨pre, hrun, hstep⟩ := run.before_of_mem hs
    obtain ⟨w, x, w'⟩ := s
    cases ha
    exact comesToNothing_of_endCall (resolving_of_run hrun) hstep ht hl hnone
  · intro n t next ht hpr
    exact releases_of_leave f ht hpr
  · intro n rest h
    refine (live_of_head f h).imp_right fun ⟨t, ht, hlive⟩ => ⟨t, ht, hlive, fun hph => ?_⟩
    exact retries_of_queued f h ht hph
  · intro pre s post t c hss h hu
    obtain ⟨hrun, _⟩ := run.before_of_split hss
    exact destination_of_called (resolving_of_run hrun) h hu
  · intro s hs n c hn
    obtain ⟨pre, _, hstep⟩ := run.before_of_mem hs
    exact canister?_of_noted hstep hn
  · intro g c hg hc
    exact f.source (site?_of_agent hg) hc

/-- Two requests wait for the canister. The look-up of the first crashes, that of the second is
answered, and its call goes to the canister that was found. -/
theorem lookUps_of_run_of_crash : ∃ ss w g p, Run react? (start none 0) ss w ∧
    w.agent = some g ∧ g.userCanister = some "own" ∧ "own" ∈ canisters ss ∧
    (lookUps ss).map Prod.snd = ["own"] ∧ notes ss 0 = [.asked] ∧ notes ss 1 = [.asked, .got "own"] ∧
    ss.getLast?.bind called? = some p ∧ p.2.canister = "own" := by
  have run : ∃ ss w g p, Run react? (start none 0) ss w ∧ w.agent = some g ∧
      g.userCanister = some "own" ∧ g.config.userCanister = none ∧
      ss.getLast?.bind called? = some p ∧ p.2.canister = "own" ∧
      (lookUps ss).map Prod.snd = ["own"] ∧ notes ss 0 = [.asked] ∧
      notes ss 1 = [.asked, .got "own"] := by
    refine ⟨_, _, _, _, .of_play [
      .deliver (.request "a" "init" ((Wire.codec : Codec AgentConfig).toValue .standard)),
      .deliver (.request "b" "getBio" (.obj [])), .deliver (.request "c" "getBio" (.obj [])),
      .act .receive, .act (.provide (.ok (some ⟨"me"⟩))), .act .receive, .act .receive,
      .act (.run 0), .act (.run 1), .act (.run 0), .act (.run 1), .act (.run 0), .act (.run 0),
      .act (.run 0), .act (.endCall 0 .crashed), .act (.run 1), .act (.run 1), .act (.run 1),
      .act (.endCall 1 (.answered (.ok ((Wire.codec : Codec CurrentUser).toValue
        (.created ⟨"u", "name", "own", 0⟩))))),
      .act (.run 1), .act (.run 1), .act (.run 1)] rfl, rfl, rfl, rfl, rfl, rfl, rfl, rfl, rfl⟩
  obtain ⟨ss, w, g, p, run, hg, hslot, hconfig, hcall, hown, hlook, hfirst, hsecond⟩ := run
  obtain ⟨_, _, _, _, _, _, _, _, _, hsource⟩ := lookUps_of_run run
  refine ⟨ss, w, g, p, run, hg, hslot, ?_, hlook, hfirst, hsecond, hcall, hown⟩
  exact (hsource g "own" hg hslot).resolve_left (by simp [hconfig])

end Worker
end ChatBridge
