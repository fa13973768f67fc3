import ChatBridge.Proofs.Agent.Seeking
import ChatBridge.Proofs.Worker.Saves

/-!
# What tasks do about the canister of the user

A run is read into notes: who asks for the current user, who has been told of one that has been
created, and who goes on with which canister. `Moves` says what one step of a task leaves of the task
and of what all tasks share on their way to the canister.
-/

namespace ChatBridge

/-- What a task does about the canister of the current user. -/
inductive Note where
  | asked
  | got (canister : String)
deriving DecidableEq, Repr

def Holds (ns : List Note) (c : String) : Prop := ns = [.got c] ∨ ns = [.asked, .got c]

/-- What the tasks share on their way to the canister: how the agent is set up, the canister if there
is one, and the queue at the gate. -/
structure Site where
  config : AgentConfig
  slot : Option String
  queue : List Nat

def Agent.site (g : Agent) : Site := ⟨g.config, g.userCanister, g.resolving⟩

namespace Task

section
variable (t : Task) (g : Agent)

def note? : Option Note :=
  match t.program, t.phase with
  | .userCanister _, _ => g.userCanister.map .got
  | .setUserCanister c _, _ => some (.got c)
  | .call c _, .running => if c.asksUser then some .asked else none
  | _, _ => none

def call? : Option ServiceCall :=
  match t.program, t.phase with
  | .call c _, .running => some c
  | _, _ => none

def found? (r : Except ServiceFailure Json) : Option String :=
  match t.program with
  | .call c _ => if c.asksUser then Operation.created? r else none
  | _ => none

/-- The task waits for the look-up of the canister; the request for the current user makes none. -/
def LooksUp : Prop :=
  t.kind ≠ Capability.getCurrentUser.kind ∧ t.phase = .calling ∧
    ∃ c next, t.program = .call c next ∧ c.asksUser = true

def siteAfter : Site :=
  match t.program, t.phase with
  | .setUserCanister c _, _ => { g.site with slot := some c }
  | .enter .resolving _, .running => { g.site with queue := g.resolving ++ [t.number] }
  | .leave .resolving _, _ => { g.site with queue := g.resolving.erase t.number }
  | _, _ => g.site

def after? : Option Task :=
  match t.program, t.phase with
  | .enter _ _, .running => some { t with phase := .queued }
  | .call _ _, .running => some { t with phase := .calling }
  | p, _ => ((t.told? g).bind p.next?).map fun p => { t with program := p, phase := .running }

def answered (next : Except ServiceFailure Json → Program Json) (r : Except ServiceFailure Json) :
    Task := { t with program := next r, phase := .running }

end

/-! ## The next step of a task -/

variable {t u : Task} {g : Agent} {P : ServiceCall → Prop}

theorem kind_after? (h : t.after? g = some u) : u.kind = t.kind := by
  unfold after? at h
  split at h
  · cases h
    rfl
  · cases h
    rfl
  · obtain ⟨p, _, rfl⟩ := Option.map_eq_some_iff.mp h
    rfl

theorem config_siteAfter : (t.siteAfter g).config = g.config := by
  unfold siteAfter
  split <;> rfl

theorem after?_of_told {x : Told} {p : Program Json} (h : t.told? g = some x)
    (hp : t.program.next? x = some p) :
    t.after? g = some { t with program := p, phase := .running } := by
  unfold after?
  split
  · rename_i hpr hph
    simp [told?, hpr, hph] at h
  · rename_i hpr hph
    simp [told?, hpr] at h
  · rw [h, Option.bind_some, hp]
    rfl

structure Does (t : Task) (g : Agent) (a : Site) (note : Option Note) (u : Task) : Prop where
  runs : ∀ w : Worker, (w.run? g t).isSome = true
  site : t.siteAfter g = a
  note : t.note? g = note
  after : t.after? g = some u

section
variable {c : String} {next : Program Json}

theorem does_look {next : Option String → Program Json} (hpr : t.program = .userCanister next) :
    t.Does g g.site (g.userCanister.map .got)
      { t with program := next g.userCanister, phase := .running } where
  runs w := by
    unfold Worker.run?
    simp only [hpr]
    rfl
  site := by simp only [siteAfter, hpr]
  note := by simp only [note?, hpr]
  after := after?_of_told (x := .canister g.userCanister) (by simp only [told?, hpr]) (by rw [hpr]; rfl)

theorem does_set (hpr : t.program = .setUserCanister c next) :
    t.Does g { g.site with slot := some c } (some (.got c))
      { t with program := next, phase := .running } where
  runs w := by
    unfold Worker.run?
    simp only [hpr]
    rfl
  site := by simp only [siteAfter, hpr]
  note := by simp only [note?, hpr]
  after := after?_of_told (x := .nothing) (by simp only [told?, hpr]) (by rw [hpr]; rfl)

theorem does_come (hpr : t.program = .enter .resolving next) (hph : t.phase = .running) :
    t.Does g { g.site with queue := g.resolving ++ [t.number] } none { t with phase := .queued } where
  runs w := by
    unfold Worker.run?
    simp only [hpr, hph]
    rfl
  site := by simp only [siteAfter, hpr, hph]
  note := by simp only [note?, hpr]
  after := by simp only [after?, hpr, hph]

theorem does_enter (hpr : t.program = .enter .resolving next) (hph : t.phase = .queued)
    (hin : g.isInside .resolving t.number = true) :
    t.Does g g.site none { t with program := next, phase := .running } where
  runs w := by
    unfold Worker.run?
    simp only [hpr, hph]
    rw [if_pos hin]
    rfl
  site := by simp only [siteAfter, hpr, hph]
  note := by simp only [note?, hpr]
  after := after?_of_told (x := .nothing) (by simp only [told?, hpr, hph]) (by rw [hpr]; rfl)

theorem does_leave (hpr : t.program = .leave .resolving next) :
    t.Does g { g.site with queue := g.resolving.erase t.number } none
      { t with program := next, phase := .running } where
  runs w := by
    unfold Worker.run?
    simp only [hpr]
    rfl
  site := by simp only [siteAfter, hpr]
  note := by simp only [note?, hpr]
  after := after?_of_told (x := .nothing) (by simp only [told?, hpr]) (by rw [hpr]; rfl)

theorem does_ask {c : ServiceCall} {next : Except ServiceFailure Json → Program Json}
    (hpr : t.program = .call c next) (hph : t.phase = .running) (hc : c.asksUser = true) :
    t.Does g g.site (some .asked) { t with phase := .calling } where
  runs w := by
    unfold Worker.run?
    simp only [hpr, hph]
    rfl
  site := by simp only [siteAfter, hpr]
  note := by simp only [note?, hpr, hph, if_pos hc]
  after := by simp only [after?, hpr, hph]

end

theorem aside_after? (hp : t.program.Aside P) (hP : ∀ c, P c → c.asksUser = false) :
    t.siteAfter g = g.site ∧ t.note? g = none ∧ ∀ u, t.after? g = some u → u.program.Aside P := by
  generalize hpr : t.program = p at hp
  have goesOn (x : Told) {q : Program Json} (hq : q.Aside P) (hx : t.told? g = some x)
      (hn : p.next? x = some q) : ∀ u, t.after? g = some u → u.program.Aside P := by
    intro u hu
    cases (after?_of_told hx (hpr ▸ hn)).symm.trans hu
    exact hq
  have waits (phase : Phase) (h : t.after? g = some { t with phase := phase }) :
      ∀ u, t.after? g = some u → u.program.Aside P := by
    intro u hu
    cases h.symm.trans hu
    rw [hpr]
    assumption
  cases hp with
  | done v => simp [siteAfter, note?, after?, told?, hpr]
  | fail f => simp [siteAfter, note?, after?, told?, hpr]
  | enter hn =>
    refine ⟨by simp [siteAfter, hpr], by simp [note?, hpr], ?_⟩
    cases hph : t.phase with
    | running => exact waits .queued (by simp [after?, hpr, hph])
    | _ => exact goesOn .nothing hn (by simp [told?, hpr, hph]) rfl
  | leave hn =>
    refine ⟨by simp [siteAfter, hpr], by simp [note?, hpr], ?_⟩
    exact goesOn .nothing hn (by simp [told?, hpr]) rfl
  | call hc hn =>
    refine ⟨by simp [siteAfter, hpr], ?_⟩
    cases hph : t.phase with
    | running => exact ⟨by simp [note?, hpr, hph, hP _ hc], waits .calling (by simp [after?, hpr, hph])⟩
    | _ => simp [note?, after?, told?, hpr, hph]
  | users hn =>
    refine ⟨by simp [siteAfter, hpr], by simp [note?, hpr], ?_⟩
    exact goesOn (.users g.cache.users) (hn g.cache.users) (by simp [told?, hpr]) rfl
  | @upsert us _ hn =>
    refine ⟨by simp [siteAfter, hpr], by simp [note?, hpr], ?_⟩
    exact goesOn (.count (g.cache.upsert us).2) (hn _) (by simp [told?, hpr]) rfl
  | save hn =>
    refine ⟨by simp [siteAfter, hpr], by simp [note?, hpr], ?_⟩
    exact goesOn .nothing hn (by simp [told?, hpr]) rfl
  | emit hn =>
    refine ⟨by simp [siteAfter, hpr], by simp [note?, hpr], ?_⟩
    exact goesOn .nothing hn (by simp [told?, hpr]) rfl

end Task

namespace Worker

/-! ## Reading a run -/

def noted? (s : Step Worker Turn) : Option (Nat × Note) :=
  (stepper? s).bind fun (g, t) => (t.note? g).map (t.number, ·)

def called? (s : Step Worker Turn) : Option (Task × ServiceCall) :=
  (stepper? s).bind fun (_, t) => t.call?.map (t, ·)

def found? (s : Step Worker Turn) : Option (Task × String) :=
  match s.action with
  | .act (.endCall n (.answered r)) => (s.before.task? n).bind fun t => (t.found? r).map (t, ·)
  | _ => none

def notes (ss : History) (n : Nat) : List Note :=
  (ss.filterMap fun s => (noted? s).filter (·.1 = n)).map Prod.snd

def founds (ss : History) : List (Task × String) := ss.filterMap found?

/-- What the look-ups have found; the request for the current user is not one of them. -/
def lookUps (ss : History) : List (Task × String) :=
  (founds ss).filter (·.1.kind ≠ Capability.getCurrentUser.kind)

def canisters (ss : History) : List String := (founds ss).map Prod.snd

def Halted (ss : History) : Prop := ∃ s ∈ ss, s.action = .act .halt

def site? (w : Worker) : Option Site := w.agent.map Agent.site

def canister? (w : Worker) : Option String := w.agent.bind (·.userCanister)

variable {ss : History} {s : Step Worker Turn} {w w₁ w' : Worker} {n : Nat} {t : Task} {g : Agent}
  {a : Site} {note : Option Note}

theorem notes_snoc (h : noted? s = note.map (n, ·)) (m : Nat) :
    notes (ss ++ [s]) m = if m = n then notes ss n ++ note.toList else notes ss m := by
  unfold notes
  rw [filterMap_snoc, List.map_append, h]
  cases note with
  | none => by_cases hm : m = n <;> simp [hm]
  | some x =>
    by_cases hm : m = n
    · subst hm
      simp
    · simp [hm, Ne.symm hm]

theorem notes_of_none (h : noted? s = none) (m : Nat) : notes (ss ++ [s]) m = notes ss m := by
  have hnone : noted? s = (none : Option Note).map (m, ·) := h
  rw [notes_snoc hnone, if_pos rfl, Option.toList_none, List.append_nil]

theorem founds_snoc : founds (ss ++ [s]) = founds ss ++ (found? s).toList := filterMap_snoc ..

theorem founds_of_none (h : found? s = none) : founds (ss ++ [s]) = founds ss := by
  rw [founds_snoc, h, Option.toList_none, List.append_nil]

theorem lookUps_of_none (h : found? s = none) : lookUps (ss ++ [s]) = lookUps ss := by
  rw [lookUps, founds_of_none h, lookUps]

theorem mem_canisters_snoc {c : String} (h : c ∈ canisters ss) : c ∈ canisters (ss ++ [s]) := by
  rw [canisters, founds_snoc, List.map_append]
  exact List.mem_append_left _ h

theorem halted_snoc (h : s.action ≠ .act .halt) : Halted (ss ++ [s]) ↔ Halted ss := by
  constructor
  · rintro ⟨x, hx, ha⟩
    rcases List.mem_append.mp hx with hx | hx
    · exact ⟨x, hx, ha⟩
    · cases List.mem_singleton.mp hx
      exact absurd ha h
  · rintro ⟨x, hx, ha⟩
    exact ⟨x, List.mem_append_left _ hx, ha⟩

/-! ## Steps of a task -/

structure Moves (w w' : Worker) (n : Nat) (a : Site) (new : Option Task) : Prop where
  site : w'.site? = some a
  nextTask : w'.nextTask = w.nextTask
  tasks : ∀ m, w'.task? m = if m = n then new else w.task? m

theorem site?_of_agent (hg : w.agent = some g) : w.site? = some g.site := by
  rw [site?, hg]
  rfl

theorem canister?_of_site (h : w.site? = some a) : w.canister? = a.slot := by
  obtain ⟨g, hg, rfl⟩ := Option.map_eq_some_iff.mp h
  rw [canister?, hg]
  rfl

section
variable (hg : w.agent = some g) (ht : w.task? n = some t)
include hg ht

theorem noted?_run : noted? ⟨w, .act (.run n), w'⟩ = (t.note? g).map (n, ·) := by
  unfold noted?
  rw [stepper?_run hg ht, ← number_of_task? ht]
  rfl

omit hg in
theorem moves_setTask (hq : Quiet w w₁) (hs : w₁.site? = some a) {u : Task}
    (hu : u.number = t.number) : Moves w (w₁.setTask u) n a (some u) where
  site := hs
  nextTask := hq.nextTask
  tasks := task?_put hq.tasks ht hu

omit hg in
theorem moves_finish (hq : Quiet w w₁) (hs : w₁.site? = some a) (e : Envelope) :
    Moves w (w₁.finish t e) n a none where
  site := by
    unfold site? finish
    rw [agent_post]
    exact hs
  nextTask := (nextTask_post ..).trans hq.nextTask
  tasks m := by
    rw [task?_finish, number_of_task? ht, task?_of_tasks hq.tasks]

theorem moves_of_run? (h : w.run? g t = some w') :
    Moves w w' n (t.siteAfter g) (t.after? g) := by
  have hs : w.site? = some g.site := site?_of_agent hg
  -- a step that only goes on with the program
  have goesOn {w₁ : Worker} {p : Program Json} (hq : Quiet w w₁)
      (hsite : w₁.site? = some (t.siteAfter g))
      (ha : t.after? g = some { t with program := p, phase := .running }) :
      Moves w (w₁.proceed t p) n (t.siteAfter g) (t.after? g) := by
    rw [ha]
    exact moves_setTask ht hq hsite rfl
  unfold run? at h
  cases hpr : t.program with
  | done v =>
    simp only [hpr] at h
    cases h
    simp only [Task.siteAfter, Task.after?, Task.told?, hpr]
    exact moves_finish ht (.refl w) hs _
  | fail f =>
    simp only [hpr] at h
    cases h
    simp only [Task.siteAfter, Task.after?, Task.told?, hpr]
    exact moves_finish ht (.refl w) hs _
  | userCanister next =>
    simp only [hpr] at h
    cases h
    refine goesOn (.refl w) ?_ ?_
    · simp only [Task.siteAfter, hpr, hs]
    · simp only [Task.after?, Task.told?, hpr]
      rfl
  | setUserCanister c next =>
    simp only [hpr] at h
    cases h
    refine goesOn (quiet_withAgent hg rfl) ?_ ?_
    · simp only [Task.siteAfter, hpr]
      rfl
    · simp only [Task.after?, Task.told?, hpr]
      rfl
  | enter gate next =>
    simp only [hpr] at h
    cases hph : t.phase with
    | running =>
      simp only [hph] at h
      cases h
      rw [← hpr]
      have hafter : t.after? g = some { t with phase := .queued } := by
        simp only [Task.after?, hpr, hph]
      rw [hafter]
      refine moves_setTask ht (quiet_withAgent hg (Agent.config_enter ..)) ?_ rfl
      cases gate with
      | resolving =>
        simp only [Task.siteAfter, hpr, hph]
        rfl
      | saving =>
        simp only [Task.siteAfter, hpr]
        rfl
    | _ =>
      simp only [hph] at h
      split at h
      · cases h
        refine goesOn (.refl w) ?_ ?_
        · cases gate with
          | _ => simp only [Task.siteAfter, hpr, hph, hs]
        · simp only [Task.after?, Task.told?, hpr, hph]
          rfl
      · cases h
  | leave gate next =>
    simp only [hpr] at h
    cases h
    refine goesOn (quiet_withAgent hg (Agent.config_leave ..)) ?_ ?_
    · cases gate with
      | resolving =>
        simp only [Task.siteAfter, hpr]
        rfl
      | saving =>
        simp only [Task.siteAfter, hpr]
        rfl
    · simp only [Task.after?, Task.told?, hpr]
      rfl
  | call c next =>
    simp only [hpr] at h
    cases hph : t.phase with
    | running =>
      simp only [hph] at h
      cases h
      rw [← hpr]
      have hafter : t.after? g = some { t with phase := .calling } := by
        simp only [Task.after?, hpr, hph]
      rw [hafter]
      refine moves_setTask ht (quiet_calls w _) ?_ rfl
      simp only [Task.siteAfter, hpr]
      exact hs
    | _ => simp only [hph] at h; cases h
  | users next =>
    simp only [hpr] at h
    cases h
    refine goesOn (.refl w) ?_ ?_
    · simp only [Task.siteAfter, hpr, hs]
    · simp only [Task.after?, Task.told?, hpr]
      rfl
  | upsert us next =>
    simp only [hpr] at h
    cases h
    refine goesOn (quiet_withAgent hg rfl) ?_ ?_
    · simp only [Task.siteAfter, hpr]
      rfl
    · simp only [Task.after?, Task.told?, hpr]
      rfl
  | save us next =>
    simp only [hpr] at h
    cases h
    refine goesOn (quiet_saveUsers us g) ?_ ?_
    · simp only [Task.siteAfter, hpr]
      exact site?_of_agent ((agent_saveUsers us).trans hg)
    · simp only [Task.after?, Task.told?, hpr]
      rfl
  | emit e next =>
    simp only [hpr] at h
    cases h
    refine goesOn (quiet_events w _) ?_ ?_
    · simp only [Task.siteAfter, hpr]
      exact hs
    · simp only [Task.after?, Task.told?, hpr]
      rfl

theorem slot_of_run? (hs : ∀ c next, t.program ≠ .setUserCanister c next) (h : w.run? g t = some w') :
    w'.canister? = w.canister? := by
  have hm := moves_of_run? hg ht h
  rw [canister?_of_site hm.site, canister?_of_site (site?_of_agent hg)]
  unfold Task.siteAfter
  split
  · rename_i c next hp
    exact absurd hp (hs c next)
  · rfl
  · rfl
  · rfl

/-- A call is answered, or it takes its task with it, out of the gate too. -/
theorem moves_of_endCall? {e : CallEnd} (h : w.endCall? g t e = some w') :
    ∃ c next, t.program = .call c next ∧ t.phase = .calling ∧
      ((∃ r, e = .answered r ∧ Moves w w' n g.site (some (t.answered next r))) ∨
        e = .crashed ∧ Moves w w' n { g.site with queue := g.resolving.erase n } none) := by
  unfold endCall? at h
  split at h
  · rename_i c next r hpr hph
    cases h
    refine ⟨c, next, hpr, hph, .inl ⟨r, rfl, ?_⟩⟩
    exact moves_setTask ht (.refl w) (site?_of_agent hg) rfl
  · rename_i c next hpr hph
    cases h
    refine ⟨c, next, hpr, hph, .inr ⟨rfl, ?_⟩⟩
    refine moves_finish ht (quiet_withAgent hg (by simp)) ?_ _
    rw [number_of_task? ht]
    rfl
  · cases h

end

end Worker
end ChatBridge
