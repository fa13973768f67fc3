import ChatBridge.Proofs.Worker.Founding
import ChatBridge.Proofs.Worker.Gate

/-!
# The way through the gate

What each step of a worker makes of the intakes and the saves. A task that has changed the users
queues up at the gate, copies them inside, saves the copy and leaves; all other steps pass it by.
-/

namespace ChatBridge

def Task.intake? (t : Task) (g : Agent) : Option Intake :=
  match t.program with
  | .upsert users _ => some ⟨t.number, users, (g.cache.upsert users).2⟩
  | _ => none

def Task.saves? (t : Task) (g : Agent) : Option UserCache :=
  match t.program with
  | .save users _ => some ⟨users, g.cache.onDisk⟩
  | _ => none

namespace Worker

/-! ## Reading a step -/

def stepper? (s : Step Worker Turn) : Option (Agent × Task) :=
  match s.action with
  | .act (.run n) => s.before.agent.bind fun g => (s.before.task? n).map fun t => (g, t)
  | _ => none

def intake? (s : Step Worker Turn) : Option Intake := (stepper? s).bind fun (g, t) => t.intake? g

def saveEnd? (s : Step Worker Turn) : Option (Except DiskError Unit) :=
  (stepper? s).bind fun (g, t) => (t.saves? g).bind fun c =>
    s.before.disk.map fun d => (c.save s.before.now d).2

def written? (s : Step Worker Turn) : Option (List UInt8) :=
  (saveEnd? s).bind fun _ => s.after.disk.bind DataDir.cacheBytes?

variable {d : DataDir} {now : UInt64} {xs : List Intake} {ks : List Nat} {w w₁ w' : Worker}
  {cache : UserCache} {queue : List Nat} {n : Nat} {t u : Task} {g : Agent} {s : Step Worker Turn}

theorem shared?_of_agent (hg : w.agent = some g) : w.shared? = some (g.cache, g.saving) := by
  rw [shared?, hg]
  rfl

section
variable (hg : w.agent = some g) (ht : w.task? n = some t)
include hg ht

theorem stepper?_run : stepper? ⟨w, .act (.run n), w'⟩ = some (g, t) := by
  simp [stepper?, hg, ht]

theorem intake?_run : intake? ⟨w, .act (.run n), w'⟩ = t.intake? g := by
  rw [intake?, stepper?_run hg ht]
  rfl

theorem saveEnd?_run : saveEnd? ⟨w, .act (.run n), w'⟩ =
    (t.saves? g).bind fun c => w.disk.map fun d => (c.save w.now d).2 := by
  rw [saveEnd?, stepper?_run hg ht]
  rfl

theorem saveEnd?_run_of_none (h : t.saves? g = none) : saveEnd? ⟨w, .act (.run n), w'⟩ = none := by
  rw [saveEnd?_run hg ht, h]
  rfl

end

theorem stepper?_eq_some (h : stepper? s = some (g, t)) :
    ∃ n, s.action = .act (.run n) ∧ s.before.agent = some g ∧ s.before.task? n = some t := by
  unfold stepper? at h
  split at h
  · rename_i n ha
    obtain ⟨g', hg, h⟩ := Option.bind_eq_some_iff.mp h
    obtain ⟨t', ht, heq⟩ := Option.map_eq_some_iff.mp h
    cases heq
    exact ⟨n, ha, hg, ht⟩
  · cases h

/-! ## What a step leaves behind -/

theorem saveUsers_eq {e : DataDir} {users : UserLookup} (hd : w.disk = some e) :
    w.saveUsers users g = { w with disk := some ((UserCache.mk users g.cache.onDisk).save w.now e).1 } := by
  rw [saveUsers, hd]

theorem task?_proceed (hw : w₁.tasks = w.tasks) (ht : w.task? n = some t) (p : Program Json)
    (m : Nat) : (w₁.proceed t p).task? m =
      if m = n then some { t with program := p, phase := .running } else w.task? m :=
  task?_put (t := { t with program := p, phase := .running }) hw ht rfl m

@[simp] theorem shared?_post (e : Envelope) : (w.post e).shared? = w.shared? := by
  rw [shared?, shared?, agent_post]

theorem beside_post (e : Envelope) : Beside w (w.post e) where
  nextTask := nextTask_post w e
  disk := disk_post w e
  second := now_post w e
  tasks := tasks_post w e
  shared := shared?_post e

/-- The intakes and the saves go on by those of the step. -/
def Goes (d : DataDir) (now : UInt64) (xs : List Intake) (ks : List Nat) (s : Step Worker Turn) :
    Prop :=
  ∃ js, Sound d now (xs ++ (intake? s).toList) (ks ++ js) s.after ∧
    (written? s).toList = js.map (UserCache.fileAt d now (xs ++ (intake? s).toList))

theorem goes_of_unsaved (h : Sound d now (xs ++ (intake? s).toList) ks s.after)
    (hw : saveEnd? s = none) : Goes d now xs ks s := by
  refine ⟨[], ?_, ?_⟩
  · rw [List.append_nil]
    exact h
  · rw [written?, hw]
    rfl

theorem goes_of_sound (h : Sound d now xs ks s.after) (hi : intake? s = none)
    (hw : saveEnd? s = none) : Goes d now xs ks s := by
  refine goes_of_unsaved ?_ hw
  rw [hi, Option.toList_none, List.append_nil]
  exact h

theorem goes_of_stepper (h : Sound d now xs ks s.after) (hs : stepper? s = none) :
    Goes d now xs ks s := by
  refine goes_of_sound h ?_ ?_
  · rw [intake?, hs]
    rfl
  · rw [saveEnd?, hs]
    rfl

theorem goes_of_quiet (hg : w.agent = some g) (ht : w.task? n = some t) (hi : t.intake? g = none)
    (hs : t.saves? g = none) (h : Sound d now xs ks w') : Goes d now xs ks ⟨w, .act (.run n), w'⟩ :=
  goes_of_sound h ((intake?_run hg ht).trans hi) (saveEnd?_run_of_none hg ht hs)

/-! ## Steps of a task -/

section
variable (f : Sound d now xs ks w) (hs : w.shared? = some (cache, queue)) (ht : w.task? n = some t)
  (hc : Calm w w₁) (hs₁ : w₁.shared? = w.shared?) (htasks : w₁.tasks = w.tasks)
  (hp : t.program.Careful) (hq : n ∉ queue)
include f hs ht hc hs₁ htasks hp hq

theorem Sound.goesOn (hn : u.number = t.number) (hu : u.program.Careful) :
    Sound d now xs ks (w₁.setTask u) := by
  refine f.stays hs ht (task?_put htasks ht hn) ⟨hc.nextTask, hc.disk, hc.second⟩ hs₁ ?_ ?_
  · intro v hv
    cases hv
    exact .free hu hq
  · exact fun h => absurd h hp.not_unsaved

omit hq in
theorem Sound.ends (e : Envelope) : Sound d now xs ks (w₁.finish t e) := by
  have hgone : ∀ m, (w₁.finish t e).task? m = if m = n then none else w.task? m := by
    intro m
    rw [task?_finish, number_of_task? ht, task?_of_tasks htasks]
  have hcalm : Calm w (w₁.finish t e) := {
    nextTask := (nextTask_post _ _).trans hc.nextTask
    disk := (disk_post _ _).trans hc.disk
    second := (now_post _ _).trans hc.second }
  refine f.stays hs ht hgone hcalm ((shared?_post _).trans hs₁) nofun ?_
  exact fun h => absurd h hp.not_unsaved

end

section
variable (f : Sound d now xs ks w) (hg : w.agent = some g) (ht : w.task? n = some t)
include f hg ht

theorem goes_of_upsert {users : List UserSummary} {next : Nat → Program Json}
    (hpr : t.program = .upsert users next) (hp : (Program.upsert users next).Careful)
    (hq : n ∉ g.saving) (hc : Calm w w₁) (htasks : w₁.tasks = w.tasks)
    (hs₁ : w₁.shared? = some ((g.cache.upsert users).1, g.saving)) :
    Goes d now xs ks ⟨w, .act (.run n), w₁.proceed t (next (g.cache.upsert users).2)⟩ := by
  have hi : t.intake? g = some ⟨n, users, (g.cache.upsert users).2⟩ := by
    rw [Task.intake?, hpr, number_of_task? ht]
  refine goes_of_unsaved ?_ (saveEnd?_run_of_none hg ht (by rw [Task.saves?, hpr]))
  rw [intake?_run hg ht, hi]
  have hcalm : Calm w (w₁.proceed t (next (g.cache.upsert users).2)) :=
    ⟨hc.nextTask, hc.disk, hc.second⟩
  have hput := task?_proceed htasks ht (next (g.cache.upsert users).2)
  refine f.takes (shared?_of_agent hg) ht hput hcalm rfl rfl hs₁ (hpr ▸ hp) ?_ ?_
  · intro u hu
    cases hu
    cases hp with
    | upsert rest h₀ hs h =>
      cases hcount : (g.cache.upsert users).2 with
      | zero => exact .free h₀ hq
      | succ k =>
        show Stage _ _ _ _ _ (next (k + 1)) .running
        rw [hs k]
        exact .coming (h k) hq
  · intro hne
    cases hp with
    | upsert rest h₀ hs h =>
      obtain ⟨k, hk⟩ := Nat.exists_eq_succ_of_ne_zero hne
      refine ⟨_, rfl, rest k, .inl ?_⟩
      show next (g.cache.upsert users).2 = _
      rw [show (g.cache.upsert users).2 = k + 1 from hk, hs k]

theorem goes_of_careful (hp : t.program.Careful) (hq : n ∉ g.saving) (h : w.run? g t = some w') :
    Goes d now xs ks ⟨w, .act (.run n), w'⟩ := by
  have hs : w.shared? = some (g.cache, g.saving) := shared?_of_agent hg
  have hcalm : Calm w w := ⟨rfl, rfl, rfl⟩
  have hc := hp
  unfold run? at h
  cases hpr : t.program with
  | done v =>
    simp only [hpr] at h
    cases h
    exact goes_of_quiet hg ht (by rw [Task.intake?, hpr]) (by rw [Task.saves?, hpr])
      (f.ends hs ht hcalm rfl rfl hp _)
  | fail e =>
    simp only [hpr] at h
    cases h
    exact goes_of_quiet hg ht (by rw [Task.intake?, hpr]) (by rw [Task.saves?, hpr])
      (f.ends hs ht hcalm rfl rfl hp _)
  | userCanister next =>
    simp only [hpr] at h hc
    cases h
    cases hc with
    | userCanister hnext =>
      exact goes_of_quiet hg ht (by rw [Task.intake?, hpr]) (by rw [Task.saves?, hpr])
        (f.goesOn hs ht hcalm rfl rfl hp hq rfl (hnext _))
  | setUserCanister canister next =>
    simp only [hpr] at h hc
    cases h
    cases hc with
    | setUserCanister hnext =>
      exact goes_of_quiet hg ht (by rw [Task.intake?, hpr]) (by rw [Task.saves?, hpr])
        (f.goesOn hs ht ⟨rfl, rfl, rfl⟩ hs.symm rfl hp hq rfl hnext)
  | enter gate next =>
    simp only [hpr] at h hc
    cases hc with
    | enter hnext =>
      refine goes_of_quiet hg ht (by rw [Task.intake?, hpr]) (by rw [Task.saves?, hpr]) ?_
      cases hph : t.phase with
      | running =>
        simp only [hph] at h
        cases h
        exact f.goesOn hs ht ⟨rfl, rfl, rfl⟩ hs.symm rfl hp hq rfl (.enter hnext)
      | _ =>
        simp only [hph] at h
        split at h
        · cases h
          exact f.goesOn hs ht hcalm rfl rfl hp hq rfl hnext
        · cases h
  | leave gate next =>
    simp only [hpr] at h hc
    cases h
    cases hc with
    | leave hnext =>
      exact goes_of_quiet hg ht (by rw [Task.intake?, hpr]) (by rw [Task.saves?, hpr])
        (f.goesOn hs ht ⟨rfl, rfl, rfl⟩ hs.symm rfl hp hq rfl hnext)
  | call c next =>
    simp only [hpr] at h hc
    cases hph : t.phase with
    | running =>
      simp only [hph] at h
      cases h
      exact goes_of_quiet hg ht (by rw [Task.intake?, hpr]) (by rw [Task.saves?, hpr])
        (f.goesOn hs ht ⟨rfl, rfl, rfl⟩ rfl rfl hp hq rfl hc)
    | _ => simp only [hph] at h; cases h
  | users next =>
    simp only [hpr] at h hc
    cases h
    cases hc with
    | users hnext =>
      exact goes_of_quiet hg ht (by rw [Task.intake?, hpr]) (by rw [Task.saves?, hpr])
        (f.goesOn hs ht hcalm rfl rfl hp hq rfl (hnext _))
  | upsert users next =>
    simp only [hpr] at h hc
    cases h
    exact goes_of_upsert f hg ht hpr hc hq ⟨rfl, rfl, rfl⟩ rfl rfl
  | save users next =>
    rw [hpr] at hc
    cases hc
  | emit e next =>
    simp only [hpr] at h hc
    cases h
    cases hc with
    | emit hnext =>
      exact goes_of_quiet hg ht (by rw [Task.intake?, hpr]) (by rw [Task.saves?, hpr])
        (f.goesOn hs ht ⟨rfl, rfl, rfl⟩ rfl rfl hp hq rfl hnext)

/-- The task inside the gate saves its copy, which is the cache of some time ago. -/
theorem goes_of_save {k : Nat} {next : Program Json}
    (hpr : t.program = .save ((UserCache.openIn d now).after (xs.take k)).users next)
    (hk : k ≤ xs.length) (hsaved : ∀ j ∈ ks, j ≤ k)
    (hown : ∀ i x, xs[i]? = some x → x.task = n → i < k) (hhead : g.saving.head? = some n)
    (hstage : Stage (.openIn d now) xs (ks ++ [k]) g.saving n next .running)
    (hs : ∀ e, saveEnd? ⟨w, .act (.run n), w'⟩ ≠ some (.error e)) (h : w.run? g t = some w') :
    Goes d now xs ks ⟨w, .act (.run n), w'⟩ := by
  -- the copy is saved as a cache that is kept on disk, as the one in memory is
  have hcopy : UserCache.mk ((UserCache.openIn d now).after (xs.take k)).users g.cache.onDisk =
      (UserCache.openIn d now).after (xs.take k) := by
    rw [f.memory (shared?_of_agent hg), UserCache.onDisk_after,
      ← @UserCache.onDisk_after _ (xs.take k)]
  have hend : saveEnd? ⟨w, .act (.run n), w'⟩ =
      some (((UserCache.openIn d now).after (xs.take k)).save now (diskAfter d now xs ks)).2 := by
    rw [saveEnd?_run hg ht, Task.saves?, hpr, Option.bind_some, hcopy, f.disk, f.second]
    rfl
  have hok : ((UserCache.openIn d now).after (xs.take k)).save now (diskAfter d now xs ks) =
      (.folder (.file (UserCache.fileAt d now xs k)) none, .ok ()) := by
    cases hsave : ((UserCache.openIn d now).after (xs.take k)).save now (diskAfter d now xs ks) with
    | mk d' r =>
      rw [hsave] at hend
      cases r with
      | error e => exact absurd hend (hs e)
      | ok _ => rw [UserCache.save_eq_ok UserCache.onDisk_after hsave]; rfl
  unfold run? at h
  simp only [hpr] at h
  cases h
  have hw := @saveUsers_eq w g _ ((UserCache.openIn d now).after (xs.take k)).users f.disk
  rw [hcopy, f.second, hok] at hw
  have hi : t.intake? g = none := by rw [Task.intake?, hpr]
  refine ⟨[k], ?_, ?_⟩
  · rw [intake?_run hg ht, hi, Option.toList_none, List.append_nil]
    have hquiet := quiet_saveUsers (w := w) ((UserCache.openIn d now).after (xs.take k)).users g
    refine f.saves (shared?_of_agent hg) (task?_proceed hquiet.tasks ht next) hquiet.nextTask
      ((congrArg Worker.now hw).trans f.second.symm) ?_ hk hsaved hown hhead
      (congrArg Worker.disk hw) ?_
    · exact shared?_of_agent ((agent_saveUsers _).trans hg)
    · intro u hu
      cases hu
      exact hstage
  · rw [intake?_run hg ht, hi, Option.toList_none, List.append_nil, written?, hend, hw]
    rfl

theorem goes_of_coming {rest : Program Json} (hpr : t.program = .enter .saving (.copying rest))
    (hph : t.phase = .running) (hp : rest.Careful) (hq : n ∉ g.saving) (hn : n < w.nextTask)
    (h : w.run? g t = some w') : Goes d now xs ks ⟨w, .act (.run n), w'⟩ := by
  refine goes_of_quiet hg ht (by rw [Task.intake?, hpr]) (by rw [Task.saves?, hpr]) ?_
  unfold run? at h
  simp only [hpr, hph] at h
  cases h
  rw [← hpr]
  refine f.enters (shared?_of_agent hg) ht (task?_put rfl ht rfl) ⟨rfl, rfl, rfl⟩ ?_ hn hq ?_ ?_
  · rw [number_of_task? ht]
    rfl
  · intro u hu
    cases hu
    rw [hpr]
    exact .queued hp (by simp)
  · exact fun hu => ⟨_, rfl, hu⟩

theorem goes_of_queued {rest : Program Json} (hpr : t.program = .enter .saving (.copying rest))
    (hph : t.phase = .queued) (hp : rest.Careful) (h : w.run? g t = some w') :
    Goes d now xs ks ⟨w, .act (.run n), w'⟩ := by
  refine goes_of_quiet hg ht (by rw [Task.intake?, hpr]) (by rw [Task.saves?, hpr]) ?_
  unfold run? at h
  simp only [hpr, hph] at h
  split at h
  · rename_i hinside
    cases h
    have hhead : g.saving.head? = some n := by
      rw [← number_of_task? ht]
      exact beq_iff_eq.mp hinside
    refine f.stays (shared?_of_agent hg) ht (task?_proceed rfl ht _) ⟨rfl, rfl, rfl⟩ rfl ?_ ?_
    · intro u hu
      cases hu
      exact .inside hp hhead
    · exact fun _ => ⟨_, rfl, rest, .inr (.inl rfl)⟩
  · cases h

/-- Inside the gate all is copied that has been taken in so far. -/
theorem goes_of_copying {rest : Program Json} (hpr : t.program = .copying rest) (hp : rest.Careful)
    (hhead : g.saving.head? = some n) (h : w.run? g t = some w') :
    Goes d now xs ks ⟨w, .act (.run n), w'⟩ := by
  refine goes_of_quiet hg ht (by rw [Task.intake?, hpr]; rfl) (by rw [Task.saves?, hpr]; rfl) ?_
  unfold run? at h
  simp only [hpr, Program.copying] at h
  cases h
  have hs := shared?_of_agent hg
  have hall : g.cache.users = ((UserCache.openIn d now).after (xs.take xs.length)).users := by
    rw [f.memory hs, List.take_length]
  refine f.stays hs ht (task?_proceed rfl ht _) ⟨rfl, rfl, rfl⟩ rfl ?_ ?_
  · intro u hu
    cases hu
    show Stage _ _ _ _ _ (.save g.cache.users _) .running
    rw [hall]
    refine .holding xs.length hp hhead (Nat.le_refl _) f.bound fun i x hx _ => ?_
    exact (List.getElem?_eq_some_iff.mp hx).1
  · exact fun _ => ⟨_, rfl, rest, .inr (.inr ⟨_, rfl⟩)⟩

theorem goes_of_stored {rest : Program Json} (hpr : t.program = .leave .saving rest)
    (hp : rest.Careful) (h : w.run? g t = some w') : Goes d now xs ks ⟨w, .act (.run n), w'⟩ := by
  refine goes_of_quiet hg ht (by rw [Task.intake?, hpr]) (by rw [Task.saves?, hpr]) ?_
  unfold run? at h
  simp only [hpr] at h
  cases h
  refine f.leaves (shared?_of_agent hg) ht (task?_proceed rfl ht rest) ⟨rfl, rfl, rfl⟩ ?_ ?_ ?_
  · rw [number_of_task? ht]
    rfl
  · intro u hu hgone
    cases hu
    exact .free hp hgone
  · rintro ⟨rest', hu | hu | ⟨all, hu⟩⟩
    · cases hpr.symm.trans hu
    · cases hpr.symm.trans hu
    · cases hpr.symm.trans hu

theorem goes_of_run (hn : n < w.nextTask)
    (hs : ∀ e, saveEnd? ⟨w, .act (.run n), w'⟩ ≠ some (.error e)) (h : w.run? g t = some w') : Goes d now xs ks ⟨w, .act (.run n), w'⟩ := by
  have hstage := f.stage (shared?_of_agent hg) ht
  generalize hpr : t.program = p, hph : t.phase = phase at hstage
  cases hstage with
  | free hp hq => exact goes_of_careful f hg ht (hpr ▸ hp) hq h
  | coming hp hq => exact goes_of_coming f hg ht hpr hph hp hq hn h
  | queued hp hq => exact goes_of_queued f hg ht hpr hph hp h
  | inside hp hq => exact goes_of_copying f hg ht hpr hp hq h
  | holding k hp hq hk hsaved hown =>
    exact goes_of_save f hg ht hpr hk hsaved hown hq (.stored hp hq) hs h
  | stored hp hq => exact goes_of_stored f hg ht hpr hp h

theorem goes_of_endCall {e : CallEnd} (h : w.endCall? g t e = some w') :
    Goes d now xs ks ⟨w, .act (.endCall n e), w'⟩ := by
  refine goes_of_stepper ?_ rfl
  have hs := shared?_of_agent hg
  have hstage := f.stage hs ht
  have hfree {c : ServiceCall} {next : Except ServiceFailure Json → Program Json}
      (hpr : t.program = .call c next) : (∀ r, (next r).Careful) ∧ n ∉ g.saving := by
    rw [hpr] at hstage
    cases hstage with
    | free hp hq =>
      cases hp with
      | call hnext => exact ⟨hnext, hq⟩
  unfold endCall? at h
  split at h
  · rename_i c next r hpr _
    cases h
    obtain ⟨hnext, hq⟩ := hfree hpr
    exact f.goesOn hs ht ⟨rfl, rfl, rfl⟩ rfl rfl (hpr ▸ .call hnext) hq rfl (hnext r)
  · rename_i c next hpr _
    cases h
    obtain ⟨hnext, hq⟩ := hfree hpr
    have hcalm : Calm w { w with agent := some (g.abandon t.number) } := ⟨rfl, rfl, rfl⟩
    refine f.ends hs ht hcalm ?_ rfl (hpr ▸ .call hnext) _
    rw [hs, ← List.erase_of_not_mem hq, ← number_of_task? ht]
    rfl
  · cases h

end

/-! ## The other steps -/

section
variable (f : Sound d now xs ks w)
include f

theorem sound_of_founded {config : AgentConfig} {i : Identity} (hnone : w.agent = none)
    (hg : w'.agent = some (.start config i w.openCache)) (hc : Calm w w')
    (htasks : w'.tasks = w.tasks) : Sound d now xs ks w' := by
  obtain ⟨rfl, rfl, hidle⟩ := f.idle (by rw [shared?, hnone]; rfl)
  have hs : w'.shared? = some (.openIn d now, []) := by
    rw [shared?, hg, openCache, f.disk, f.second]
    rfl
  exact {
    second := hc.second.trans f.second
    disk := hc.disk.trans f.disk
    rising := f.rising
    bound := f.bound
    counted := f.counted
    idle := fun h => by cases hs.symm.trans h
    memory := fun h => by cases hs.symm.trans h; rfl
    queue := fun h => by cases hs.symm.trans h; exact ⟨.nil, nofun⟩
    stage := fun {_ _ n _} _ ht => by cases (hidle n).symm.trans (task?_of_tasks htasks n ▸ ht)
    due := nofun }

theorem sound_of_provide {p : Provided} (hwait : w.settingUp.isSome = true → w.agent = none)
    (h : w.step? (.provide p) = some w') : Sound d now xs ks w' := by
  obtain ⟨id, config, hset, rfl⟩ := provide_eq_some h
  have f₁ : Sound d now xs ks { w with settingUp := none } := f.beside ⟨⟨rfl, rfl, rfl⟩, rfl, rfl⟩
  cases hi : resolveIdentity p with
  | error e =>
    rw [endSetUp_of_error hi]
    exact f₁.beside (beside_post _)
  | ok i =>
    cases i with
    | none =>
      rw [endSetUp_of_nobody hi]
      exact f₁
    | some i =>
      rw [endSetUp_of_identity hi]
      refine Sound.beside ?_ (beside_post _)
      exact sound_of_founded f₁ (hwait (by rw [hset]; rfl)) rfl ⟨rfl, rfl, rfl⟩ rfl

theorem sound_of_forward (h : w.forward? = some w') : Sound d now xs ks w' := by
  have hevents {es : Option (Backlog Event)} : Sound d now xs ks { w with events := es } :=
    f.beside ⟨⟨rfl, rfl, rfl⟩, rfl, rfl⟩
  unfold forward? at h
  split at h
  · cases h
  · cases h
    exact hevents
  · split at h
    · cases h
      exact hevents
    · cases h
      exact hevents.beside (beside_post _)

variable {lost : Prop} {rows : List Row} (l : Ledger lost rows w)
include l

theorem sound_of_spawn {config : AgentConfig} {id : String} {c : Capability} {payload : Json}
    (hg : w.agent = some g) : Sound d now xs ks (w.spawn config id c payload) := by
  have htask := @task?_spawn w config id c payload l.not_owes_next
  exact {
    second := f.second
    disk := f.disk
    rising := f.rising
    bound := f.bound
    counted := f.counted
    idle := fun h => by cases (shared?_of_agent hg).symm.trans h
    memory := f.memory
    queue := fun h => ⟨(f.queue h).1, fun m hm => Nat.lt_succ_of_lt ((f.queue h).2 m hm)⟩
    stage := fun {_ _ m u} hs ht => by
      rw [htask] at ht
      by_cases hm : m = w.nextTask
      · rw [if_pos hm] at ht
        cases ht
        refine .free (Operation.careful_handle ..) fun hq => ?_
        exact Nat.lt_irrefl _ (hm ▸ (f.queue hs).2 m hq)
      · rw [if_neg hm] at ht
        exact f.stage hs ht
    due := fun {_ x} hx hc => by
      refine (f.due hx hc).imp (fun h => h) fun ⟨t, ht, hu⟩ => ⟨t, ?_, hu⟩
      have hne : x.task ≠ w.nextTask := Nat.ne_of_lt (l.fresh (by rw [ht]; rfl))
      rw [htask, if_neg hne]
      exact ht }

theorem sound_of_handle (e : Envelope) : Sound d now xs ks (w.handle e) := by
  cases e with
  | request id kind payload =>
    have h := handled w id kind payload
    generalize w.handle (.request id kind payload) = w' at h ⊢
    cases h with
    | refused _ _ _ => exact f.beside (beside_post _)
    | again _ _ _ _ => exact f.beside (beside_post _)
    | begun _ _ _ _ => exact f.beside ⟨⟨rfl, rfl, rfl⟩, rfl, rfl⟩
    | unknown _ _ => exact f
    | early _ _ _ _ => exact f.beside (beside_post _)
    | spawned _ g _ _ hg => exact sound_of_spawn f l hg
  | _ => exact f

theorem goes_of_react {x : Turn} (hwait : w.settingUp.isSome = true → w.agent = none)
    (h : w.react? x = some w') (hs : ∀ e, saveEnd? ⟨w, x, w'⟩ ≠ some (.error e))
    (hx : x ≠ .act .halt) : Goes d now xs ks ⟨w, x, w'⟩ := by
  have beside (hb : Beside w w') (hst : stepper? ⟨w, x, w'⟩ = none) : Goes d now xs ks ⟨w, x, w'⟩ :=
    goes_of_stepper (f.beside hb) hst
  cases x with
  | deliver e => cases h; exact beside ⟨⟨rfl, rfl, rfl⟩, rfl, rfl⟩ rfl
  | collect =>
    unfold react? at h
    dsimp only at h
    split at h
    · cases h
    · cases h; exact beside ⟨⟨rfl, rfl, rfl⟩, rfl, rfl⟩ rfl
  | act a =>
    cases a with
    | receive =>
      obtain ⟨_, _, e, rest, _, rfl⟩ := receive?_eq_some h
      have f₁ : Sound d now xs ks { w with inbox := rest } := f.beside ⟨⟨rfl, rfl, rfl⟩, rfl, rfl⟩
      exact goes_of_stepper (sound_of_handle f₁ (l.kept rfl rfl rfl l.abandoned) e) rfl
    | provide p => exact goes_of_stepper (sound_of_provide f hwait h) rfl
    | run n =>
      obtain ⟨g, t, hg, ht, h⟩ := withTask_eq_some h
      exact goes_of_run f hg ht (l.fresh (by rw [ht]; rfl)) hs h
    | endCall n e =>
      obtain ⟨g, t, hg, ht, h⟩ := withTask_eq_some h
      exact goes_of_endCall f hg ht h
    | forward => exact goes_of_stepper (sound_of_forward f h) rfl
    | stop =>
      simp only [react?, step?] at h
      split at h
      · cases h; exact beside ⟨⟨rfl, rfl, rfl⟩, rfl, rfl⟩ rfl
      · cases h
    | abandon => cases h; exact beside ⟨⟨rfl, rfl, rfl⟩, rfl, rfl⟩ rfl
    | halt => exact absurd rfl hx

end

end Worker
end ChatBridge
