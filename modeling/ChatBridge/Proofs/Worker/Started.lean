import ChatBridge.Proofs.Worker.Replies

/-!
# One task for each request that a handler takes

The tasks that a run starts are those of the rows for which there was a handler and an agent, in the
order of the rows. No other step brings a new task.
-/

namespace ChatBridge

def Row.start? (r : Row) : Option (String × Program Json) :=
  if r.kind = initKind then none
  else match Capability.ofKind? r.kind, r.config with
    | some c, some config => some (r.id, Operation.handle config c r.payload)
    | _, _ => none

theorem Row.start?_of_runBy {r : Row} {c : Capability} {config : AgentConfig}
    (h : r.RunBy c config) : r.start? = some (r.id, Operation.handle config c r.payload) := by
  simp only [start?, if_neg h.kind, h.capability, h.config]

def Task.start (t : Task) : String × Program Json := (t.correlationId, t.program)

namespace Worker

def startedBy (s : Step Worker Turn) : List Task :=
  s.after.tasks.filter fun t => s.before.nextTask ≤ t.number

def started (ss : History) : List Task := ss.flatMap startedBy

variable {lost : Prop} {rows : List Row} {w w' : Worker} {x : Turn} {s : Step Worker Turn}

theorem number_lt (l : Ledger lost rows w) {t : Task} (ht : t ∈ w.tasks) : t.number < w.nextTask := by
  refine l.fresh ?_
  rw [task?, List.find?_isSome]
  exact ⟨t, ht, beq_self_eq_true _⟩

theorem startedBy_eq_nil (l : Ledger lost rows w)
    (h : ∀ u ∈ w'.tasks, ∃ t ∈ w.tasks, u.number = t.number) : startedBy ⟨w, x, w'⟩ = [] := by
  rw [startedBy, List.filter_eq_nil_iff]
  intro u hu
  obtain ⟨t, ht, hn⟩ := h u hu
  have := number_lt l ht
  simp only [decide_eq_true_eq]
  omega

theorem startedBy_of_tasks (l : Ledger lost rows w) (h : w'.tasks = w.tasks) :
    startedBy ⟨w, x, w'⟩ = [] :=
  startedBy_eq_nil l fun u hu => ⟨u, h ▸ hu, rfl⟩

theorem startedBy_of_finish (l : Ledger lost rows w) {w₁ : Worker} (hq : Quiet w w₁) (t : Task)
    (e : Envelope) : startedBy ⟨w, x, w₁.finish t e⟩ = [] := by
  refine startedBy_eq_nil l fun u hu => ⟨u, ?_, rfl⟩
  unfold finish at hu
  rw [tasks_post] at hu
  exact hq.tasks ▸ (List.mem_filter.mp hu).1

theorem startedBy_of_setTask (l : Ledger lost rows w) {w₁ : Worker} (hq : Quiet w w₁) (t : Task) :
    startedBy ⟨w, x, w₁.setTask t⟩ = [] := by
  refine startedBy_eq_nil l fun u hu => ?_
  obtain ⟨v, hv, rfl⟩ := List.mem_map.mp hu
  rw [hq.tasks] at hv
  refine ⟨v, hv, ?_⟩
  split
  · rename_i h; exact h.symm
  · rfl

theorem starts_of_tasks (l : Ledger lost rows w) (h : w'.tasks = w.tasks) {r : Option Row}
    (hr : r.bind Row.start? = none) :
    r.toList.filterMap Row.start? = (startedBy ⟨w, x, w'⟩).map Task.start := by
  rw [startedBy_of_tasks l h]
  cases r with
  | none => rfl
  | some r => exact List.filterMap_cons_none hr

theorem starts_of_handled (l : Ledger lost rows w) {w₁ : Worker} {r : Row}
    (h : Handled w₁ r.id r.kind r.payload w') (ht : w₁.tasks = w.tasks)
    (hn : w₁.nextTask = w.nextTask) (hc : r.config = w₁.config?) :
    [r].filterMap Row.start? = (startedBy ⟨w, x, w'⟩).map Task.start := by
  cases h with
  | refused _ hk _ =>
    exact starts_of_tasks (r := some r) l ((tasks_post ..).trans ht) (if_pos hk)
  | again _ hk _ _ =>
    exact starts_of_tasks (r := some r) l ((tasks_post ..).trans ht) (if_pos hk)
  | begun _ hk _ _ => exact starts_of_tasks (x := x) (r := some r) l ht (if_pos hk)
  | unknown hk hcap =>
    refine starts_of_tasks (r := some r) l ht ?_
    simp only [Option.bind_some, Row.start?, if_neg hk, hcap]
  | early c hk hcap ha =>
    have hnone : r.config = none := by rw [hc, config?, ha]; rfl
    refine starts_of_tasks (r := some r) l ((tasks_post ..).trans ht) ?_
    simp only [Option.bind_some, Row.start?, if_neg hk, hcap, hnone]
  | spawned c a hk hcap ha =>
    have hsome : r.config = some a.config := by rw [hc, config?, ha]; rfl
    have hold : startedBy ⟨w, x, w⟩ = [] := startedBy_of_tasks l rfl
    unfold startedBy at hold ⊢
    dsimp only [spawn] at hold ⊢
    rw [ht, hn, List.filter_append, hold]
    simp [Row.start?, hk, hcap, hsome, Task.start]

/-! ## Runs -/

theorem start?_advance (o : Owner) (r : Row) : (advance s o r).start? = r.start? := by
  unfold advance
  split
  · rfl
  · rfl

theorem starts_advance (o : Owner) : (rows.map (advance s o)).filterMap Row.start? =
    rows.filterMap Row.start? := by
  rw [List.filterMap_map]
  exact congrArg (rows.filterMap ·) (funext fun r => start?_advance o r)

theorem starts_receive (l : Ledger lost rows w) (h : w.receive? = some w') :
    (note rows ⟨w, .act .receive, w'⟩).filterMap Row.start? =
      rows.filterMap Row.start? ++ (startedBy ⟨w, .act .receive, w'⟩).map Task.start := by
  obtain ⟨_, _, e, rest, hi, rfl⟩ := receive?_eq_some h
  have hin : ∀ x, received? ⟨w, .act .receive, x⟩ = some e := fun _ => by simp [received?, hi]
  show (rows ++ (rowOf? _).toList).filterMap Row.start? = _
  rw [List.filterMap_append]
  congr 1
  unfold rowOf?
  rw [hin]
  cases e with
  | request id kind payload =>
    exact starts_of_handled l (handled { w with inbox := rest } id kind payload) rfl rfl rfl
  | response id v => exact starts_of_tasks (x := .act .receive) (r := none) l rfl rfl
  | error id f => exact starts_of_tasks (x := .act .receive) (r := none) l rfl rfl
  | event e => exact starts_of_tasks (x := .act .receive) (r := none) l rfl rfl

theorem starts_note (l : Ledger lost rows w) (h : w.react? x = some w') :
    (note rows ⟨w, x, w'⟩).filterMap Row.start? =
      rows.filterMap Row.start? ++ (startedBy ⟨w, x, w'⟩).map Task.start := by
  have none : (note rows ⟨w, x, w'⟩).filterMap Row.start? = rows.filterMap Row.start? →
      startedBy ⟨w, x, w'⟩ = [] → (note rows ⟨w, x, w'⟩).filterMap Row.start? =
        rows.filterMap Row.start? ++ (startedBy ⟨w, x, w'⟩).map Task.start := by
    intro hn hs
    rw [hn, hs, List.map_nil, List.append_nil]
  cases x with
  | deliver e => cases h; exact none rfl (startedBy_of_tasks l rfl)
  | collect =>
    unfold react? at h
    dsimp only at h
    split at h
    · cases h
    · cases h; exact none rfl (startedBy_of_tasks l rfl)
  | act a =>
    cases a with
    | receive => exact starts_receive l h
    | provide p =>
      obtain ⟨id, config, _, rfl⟩ := provide_eq_some h
      refine none (starts_advance _) (startedBy_of_tasks l ?_)
      unfold endSetUp
      split <;> simp [setUp]
    | run n =>
      obtain ⟨a, t, ha, _, h⟩ := withTask_eq_some h
      refine none (starts_advance _) ?_
      cases ran_of_run? ha h with
      | ended r _ => exact startedBy_of_finish l (.refl w) t _
      | waits w₁ p hq _ => exact startedBy_of_setTask l hq _
      | goesOn w₁ y p hq _ _ => exact startedBy_of_setTask l hq _
    | endCall n e =>
      obtain ⟨a, t, ha, _, h⟩ := withTask_eq_some h
      refine none (starts_advance _) ?_
      rcases endCall?_eq_some ha h with ⟨r, p, _, _, rfl⟩ | ⟨_, w₁, hq, rfl⟩
      · exact startedBy_of_setTask l (.refl w) _
      · exact startedBy_of_finish l hq t _
    | forward =>
      obtain ⟨w₁, es, hq, _, rfl⟩ := forward?_eq_some h
      exact none rfl (startedBy_of_tasks l hq.tasks)
    | stop =>
      simp only [react?, step?] at h
      split at h
      · cases h; exact none rfl (startedBy_of_tasks l rfl)
      · cases h
    | abandon => cases h; exact none rfl (startedBy_of_tasks l rfl)
    | halt =>
      cases h
      refine none ?_ rfl
      show (rows.map fun r => { r with owner := Option.none }).filterMap Row.start? = _
      rw [List.filterMap_map]
      rfl

/-- A task for each row that has one, in the order of the rows. -/
theorem starts_of_run {ss : History} {disk : Option DataDir} {now : UInt64}
    (run : Run react? (start disk now) ss w) :
    (started ss).map Task.start = (ledger ss).filterMap Row.start? := by
  induction run with
  | nil => rfl
  | @snoc ss w x w' run h ih =>
    rw [ledger_snoc, starts_note (ledger_of_run run) h, ← ih, started, List.flatMap_append,
      List.map_append, List.flatMap_singleton]
    rfl

end Worker
end ChatBridge
