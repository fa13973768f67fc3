import ChatBridge.Proofs.Stack.Answers
import ChatBridge.Runtime

/-!
# Runs of a runtime

A run of the runtime is a run of client and worker in which the channels close in order: that for
requests first, then that for answers, and then the client stops listening. Once the runtime has
been shut down, the thread of the worker is over and the channel for requests closed, for good.
-/

namespace ChatBridge.Runtime

abbrev History := List (Step Runtime Action)

def stackStep? (x : Step Runtime Action) : Option (Step Stack Stack.Action) :=
  match x.action with
  | .stack a => some ⟨x.before.stack, a, x.after.stack⟩
  | _ => none

def stackSteps (rr : History) : Stack.History := rr.filterMap stackStep?

variable {r r' r₀ : Runtime} {x : Action} {rr : History} {b : Stack.Action}

/-! ## One step -/

theorem stack_eq_some (h : r.step? (.stack b) = some r') :
    r.permits b = true ∧ ∃ s, r.stack.step? b = some s ∧ r' = { r with stack := s } := by
  simp only [step?] at h
  split at h
  · rename_i hp
    obtain ⟨s, hs, rfl⟩ := Option.map_eq_some_iff.mp h
    exact ⟨hp, s, hs, rfl⟩
  · cases h

theorem client_eq_some {a : Client.Action} (h : r.step? (.stack (.client a)) = some r') :
    ∃ c, r.stack.client.step? a = some c ∧ r' = { r with stack := ⟨c, r.stack.worker⟩ } := by
  obtain ⟨_, s, hs, rfl⟩ := stack_eq_some h
  cases Stack.acted_of_step hs with
  | client _ c _ hc => exact ⟨c, hc, rfl⟩

theorem shutDown_eq_some (h : r.step? .shutDown = some r') :
    r.stage = .running ∧ r' = { r with stage := .stopping } ∨ r.stage = .over ∧ r' = r := by
  simp only [step?, shutDown?] at h
  split at h
  · rename_i hs; cases h; exact .inl ⟨hs, rfl⟩
  · cases h
  · rename_i hs; cases h; exact .inr ⟨hs, rfl⟩

theorem join_eq_some (h : r.step? .join = some r') :
    r.stage = .stopping ∧ r.threadOver = true ∧ r' = { r with stage := .over } := by
  simp only [step?, join?] at h
  split at h
  · rename_i hc; cases h; exact ⟨hc.1, hc.2, rfl⟩
  · cases h

theorem stack_of_step (h : r.step? x = some r') :
    Run Stack.step? r.stack (stackStep? ⟨r, x, r'⟩).toList r'.stack := by
  cases x with
  | stack b =>
    obtain ⟨_, s, hs, rfl⟩ := stack_eq_some h
    exact .single hs
  | shutDown =>
    rcases shutDown_eq_some h with ⟨_, rfl⟩ | ⟨_, rfl⟩
    · exact .nil
    · exact .nil
  | join =>
    obtain ⟨_, _, rfl⟩ := join_eq_some h
    exact .nil

theorem stack_of_run (run : Run step? r₀ rr r) :
    Run Stack.step? r₀.stack (stackSteps rr) r.stack := by
  induction run with
  | nil => exact .nil
  | snoc _ h ih =>
    unfold stackSteps
    rw [filterMap_snoc]
    exact ih.append (stack_of_step h)

theorem stackSteps_append (rr tt : History) :
    stackSteps (rr ++ tt) = stackSteps rr ++ stackSteps tt := List.filterMap_append

theorem mem_stackSteps {y : Step Stack Stack.Action} : y ∈ stackSteps rr ↔
    ∃ x ∈ rr, x.action = .stack y.action ∧ x.before.stack = y.before ∧ x.after.stack = y.after := by
  unfold stackSteps
  rw [List.mem_filterMap]
  constructor
  · rintro ⟨⟨before, action, after⟩, hx, hy⟩
    cases action with
    | stack b => cases hy; exact ⟨_, hx, rfl, rfl, rfl⟩
    | _ => cases hy
  · rintro ⟨x, hx, ha, hb, hc⟩
    refine ⟨x, hx, ?_⟩
    unfold stackStep?
    rw [ha, hb, hc]

/-! ## The channels -/

/-- The channels close in order, and the thread of a runtime that has been shut down is over. -/
structure Wired (r : Runtime) : Prop where
  sealed : r.stack.Sealed
  table : Table r.stack.client.calls r.stack.client.pending
  inOrder : r.stack.client.inboxOpen = false → r.stack.client.outboxOpen = false
  deaf : r.stack.client.listening = false → r.stack.client.Deaf
  ended : r.stage = .over → r.threadOver = true

theorem threadOver_iff : r.threadOver = true ↔
    r.stack.worker.isOver = true ∧ r.stack.client.outboxOpen = false := by
  simp [threadOver]

theorem silent_of_threadOver (f : r.Wired) (ht : r.threadOver = true) : r.stack.worker.Silent :=
  have hover := (threadOver_iff.mp ht).1
  ⟨hover, f.sealed.attends (Worker.isOver_iff.mp hover).1⟩

theorem threadOver_of_step (f : r.Wired) (h : r.step? x = some r') (ht : r.threadOver = true) :
    r'.threadOver = true := by
  have hsilent := silent_of_threadOver f ht
  rw [threadOver_iff] at ht ⊢
  obtain ⟨hover, hopen⟩ := ht
  cases x with
  | stack b =>
    obtain ⟨_, s, hs, rfl⟩ := stack_eq_some h
    cases Stack.moved_of_step hs with
    | client _ a c _ _ hc => exact ⟨hover, Client.outboxOpen_stays hc hopen⟩
    | worker a w hw => exact ⟨(Worker.silent_of_step hw hsilent).1.isOver, hopen⟩
    | request e rest he => exact ⟨hover, hopen⟩
    | reply e rest he => exact ⟨hover, hopen⟩
  | shutDown =>
    rcases shutDown_eq_some h with ⟨_, rfl⟩ | ⟨_, rfl⟩
    · exact ⟨hover, hopen⟩
    · exact ⟨hover, hopen⟩
  | join =>
    obtain ⟨_, _, rfl⟩ := join_eq_some h
    exact ⟨hover, hopen⟩

theorem inOrder_of_step (f : r.Wired) (h : r.step? (.stack b) = some r')
    (hi : r'.stack.client.inboxOpen = false) : r'.stack.client.outboxOpen = false := by
  obtain ⟨hp, s, hs, rfl⟩ := stack_eq_some h
  cases Stack.acted_of_step hs with
  | client a c ha hc =>
    have hold := Client.inboxOpen_of_step hc (by rintro rfl; cases ha)
    exact Client.outboxOpen_stays hc (f.inOrder (hold.symm.trans hi))
  | worker a w _ => exact f.inOrder hi
  | request e rest _ => exact f.inOrder hi
  | reply e rest _ => exact f.inOrder hi
  | closedRequests _ => rfl
  | closedReplies _ _ => simpa [permits] using hp

theorem deaf_of_step (f : r.Wired) (h : r.step? (.stack b) = some r')
    (hl : r'.stack.client.listening = false) : r'.stack.client.Deaf := by
  obtain ⟨_, s, hs, rfl⟩ := stack_eq_some h
  have deaf (hold : r.stack.client.listening = false) {c : Client} (hc : c.listening = false)
      (ho : r.stack.client.outboxOpen = false → c.outboxOpen = false)
      (hcalls : c.calls = r.stack.client.calls) : c.Deaf :=
    ⟨hc, ho (f.deaf hold).outboxOpen, fun hn => (f.deaf hold).unsent (hcalls ▸ hn)⟩
  cases Stack.acted_of_step hs with
  | client a c ha hc =>
    by_cases hend : a = .endListening
    · subst hend
      obtain ⟨_, _, hi, _⟩ := Client.endListening?_eq_some hc
      exact Client.deaf_of_endListening f.table hc (f.inOrder hi)
    · have hends := Client.sameEnds_of_step hc (by rintro rfl; cases ha) (by rintro rfl; cases ha)
        hend
      exact (f.deaf (hends.listening.symm.trans hl)).step hc
  | worker a w _ => exact f.deaf hl
  | request e rest _ => exact deaf hl hl id rfl
  | reply e rest _ => exact deaf hl hl id rfl
  | closedRequests _ => exact deaf hl hl (fun _ => rfl) rfl
  | closedReplies _ _ => exact deaf hl hl id rfl

theorem Wired.step (f : r.Wired) (h : r.step? x = some r') : r'.Wired := by
  have hover (hs : r.stage = .over) : r'.threadOver = true := threadOver_of_step f h (f.ended hs)
  cases x with
  | stack b =>
    obtain ⟨_, s, hs, rfl⟩ := stack_eq_some h
    exact ⟨f.sealed.step hs, Stack.table_of_step f.table hs, inOrder_of_step f h, deaf_of_step f h,
      hover⟩
  | shutDown =>
    rcases shutDown_eq_some h with ⟨_, rfl⟩ | ⟨_, rfl⟩
    · exact ⟨f.sealed, f.table, f.inOrder, f.deaf, nofun⟩
    · exact f
  | join =>
    obtain ⟨_, ht, rfl⟩ := join_eq_some h
    exact ⟨f.sealed, f.table, f.inOrder, f.deaf, fun _ => ht⟩

theorem wired_start (config : AgentConfig) (timeout : Nat) (disk : Option DataDir) (now : UInt64) :
    Wired ⟨⟨.connect config timeout, .start disk now⟩, .running⟩ where
  sealed := ⟨nofun, nofun⟩
  table := Table.start _
  inOrder := nofun
  deaf := nofun
  ended := nofun

theorem start_eq_ok {config : AgentConfig} {timeout : Nat} {d : DataDir} {now : UInt64}
    (h : start config timeout d now = .ok r) :
    ∃ disk, r = ⟨⟨.connect config timeout, .start (some disk) now⟩, .running⟩ := by
  unfold start at h
  cases hd : d.makeDirectory with
  | error e => rw [hd] at h; cases h
  | ok disk => rw [hd] at h; cases h; exact ⟨disk, rfl⟩

theorem wired_of_run (f : r₀.Wired) (run : Run step? r₀ rr r) : r.Wired :=
  run.keeps (fun h f => f.step h) f

/-- Behind its thread the worker says nothing any more. -/
theorem sentBack_of_threadOver (f : r₀.Wired) (run : Run step? r₀ rr r)
    (ht : r₀.threadOver = true) : Stack.sentBack (stackSteps rr) = [] :=
  Stack.sentBack_of_silent (silent_of_threadOver f ht) (stack_of_run run)

/-! ## Shutting down twice -/

theorem over_of_step (h : r.step? x = some r') (hs : r.stage = .over) : r'.stage = .over := by
  cases x with
  | stack b =>
    obtain ⟨_, s, _, rfl⟩ := stack_eq_some h
    exact hs
  | shutDown =>
    rcases shutDown_eq_some h with ⟨hrun, _⟩ | ⟨_, rfl⟩
    · cases hs.symm.trans hrun
    · exact hs
  | join =>
    obtain ⟨hstop, _⟩ := join_eq_some h
    cases hs.symm.trans hstop

theorem over_of_run (run : Run step? r₀ rr r) (hs : r₀.stage = .over) : r.stage = .over :=
  run.keeps (P := fun r => r.stage = .over) over_of_step hs

theorem shutDown_of_over (hs : r.stage = .over) : r.step? .shutDown = some r := by
  simp only [step?, shutDown?, hs]

end ChatBridge.Runtime
