import ChatBridge.Proofs.Agent.Saving
import ChatBridge.Proofs.UserCache.Intakes
import ChatBridge.Proofs.Worker.Ledger

/-!
# One save at a time

What the tasks have taken into the user cache is a list of intakes, and what was saved is the cache
as it was after so many of them. `Sound` ties both to the state: a task that has changed the users
has still to save them or has done so, the copy that it saves holds all that it has taken in, and
since only the task inside the gate has a copy, no save goes behind an earlier one.
-/

namespace ChatBridge

namespace Program

def Unsaved (p : Program Json) : Prop :=
  ∃ rest, p = .enter .saving (copying rest) ∨ p = copying rest ∨
    ∃ all, p = .save all (.leave .saving rest)

theorem Careful.not_unsaved {p : Program Json} (h : p.Careful) : ¬ p.Unsaved := by
  rintro ⟨rest, rfl | rfl | ⟨all, rfl⟩⟩
  · cases h
  · cases h with
    | users h => cases h ∅
  · cases h

end Program

/-- How a task stands to the gate: `queue` is the queue at it, `xs` and `ks` are what has been taken
in and what has been saved. -/
inductive Stage (c : UserCache) (xs : List Intake) (ks queue : List Nat) (n : Nat) :
    Program Json → Phase → Prop
  | free {p phase} (hp : p.Careful) (hq : n ∉ queue) : Stage c xs ks queue n p phase
  | coming {rest} (hp : rest.Careful) (hq : n ∉ queue) :
      Stage c xs ks queue n (.enter .saving (.copying rest)) .running
  | queued {rest} (hp : rest.Careful) (hq : n ∈ queue) :
      Stage c xs ks queue n (.enter .saving (.copying rest)) .queued
  | inside {rest} (hp : rest.Careful) (hq : queue.head? = some n) :
      Stage c xs ks queue n (.copying rest) .running
  | holding {rest} (k : Nat) (hp : rest.Careful) (hq : queue.head? = some n)
      (hk : k ≤ xs.length) (hsaved : ∀ j ∈ ks, j ≤ k)
      (hown : ∀ i x, xs[i]? = some x → x.task = n → i < k) :
      Stage c xs ks queue n (.save (c.after (xs.take k)).users (.leave .saving rest)) .running
  | stored {rest} (hp : rest.Careful) (hq : queue.head? = some n) :
      Stage c xs ks queue n (.leave .saving rest) .running

namespace Worker

def shared? (w : Worker) : Option (UserCache × List Nat) := w.agent.map fun g => (g.cache, g.saving)

def diskAfter (d : DataDir) (now : UInt64) (xs : List Intake) (ks : List Nat) : DataDir :=
  match ks.getLast? with
  | none => d
  | some k => .folder (.file (UserCache.fileAt d now xs k)) none

structure Sound (d : DataDir) (now : UInt64) (xs : List Intake) (ks : List Nat) (w : Worker) :
    Prop where
  second : w.now = now
  disk : w.disk = some (diskAfter d now xs ks)
  rising : ks.Pairwise (· ≤ ·)
  bound : ∀ k ∈ ks, k ≤ xs.length
  counted : (UserCache.openIn d now).Counted xs
  idle : w.shared? = none → xs = [] ∧ ks = [] ∧ ∀ n, w.task? n = none
  memory : ∀ {cache queue}, w.shared? = some (cache, queue) →
    cache = (UserCache.openIn d now).after xs
  queue : ∀ {cache queue}, w.shared? = some (cache, queue) →
    queue.Nodup ∧ ∀ n ∈ queue, n < w.nextTask
  stage : ∀ {cache queue n t}, w.shared? = some (cache, queue) → w.task? n = some t →
    Stage (.openIn d now) xs ks queue n t.program t.phase
  due : ∀ {i x}, xs[i]? = some x → x.changed ≠ 0 →
    (∃ k ∈ ks, i < k) ∨ ∃ t, w.task? x.task = some t ∧ t.program.Unsaved

variable {d : DataDir} {now : UInt64} {xs ys : List Intake} {ks js : List Nat} {w w' : Worker}
  {cache cache' : UserCache} {queue queue' : List Nat} {n : Nat} {t : Task} {new : Option Task}

/-! ## Other tasks -/

theorem diskAfter_append (h : ∀ k ∈ ks, k ≤ xs.length) :
    diskAfter d now (xs ++ ys) ks = diskAfter d now xs ks := by
  unfold diskAfter
  cases hk : ks.getLast? with
  | none => rfl
  | some k =>
    have hle : k ≤ xs.length := h k (List.mem_of_getLast? hk)
    simp only [UserCache.fileAt_append hle]

structure Apart (n : Nat) (queue queue' : List Nat) : Prop where
  mem : ∀ m, m ≠ n → (m ∈ queue' ↔ m ∈ queue)
  head : ∀ m, m ≠ n → queue.head? = some m → queue'.head? = some m

theorem Apart.refl (n : Nat) (queue : List Nat) : Apart n queue queue :=
  ⟨fun _ _ => Iff.rfl, fun _ _ h => h⟩

theorem apart_enter (n : Nat) (queue : List Nat) : Apart n queue (queue ++ [n]) where
  mem m hm := by simp [hm]
  head m _ h := by
    cases queue with
    | nil => cases h
    | cons q queue => exact h

theorem nodup_enter (h : queue.Nodup) (hn : n ∉ queue) : (queue ++ [n]).Nodup := by
  rw [List.nodup_append]
  refine ⟨h, by simp, fun a ha b hb hab => ?_⟩
  cases List.mem_singleton.mp hb
  exact hn (hab ▸ ha)

theorem apart_leave (n : Nat) (queue : List Nat) : Apart n queue (queue.erase n) where
  mem m hm := List.mem_erase_of_ne hm
  head m hm h := by
    cases queue with
    | nil => cases h
    | cons q queue =>
      cases h
      rw [List.erase_cons_tail (by simpa using hm)]
      rfl

theorem stage_of_apart {c : UserCache} {m : Nat} {p : Program Json} {phase : Phase}
    (h : Stage c xs ks queue m p phase) (hm : m ≠ n) (ha : Apart n queue queue')
    (hys : ∀ y ∈ ys, y.task = n) (hjs : js ≠ [] → queue.head? = some n) :
    Stage c (xs ++ ys) (ks ++ js) queue' m p phase := by
  cases h with
  | free hp hq => exact .free hp fun h => hq ((ha.mem m hm).mp h)
  | coming hp hq => exact .coming hp fun h => hq ((ha.mem m hm).mp h)
  | queued hp hq => exact .queued hp ((ha.mem m hm).mpr hq)
  | inside hp hq => exact .inside hp (ha.head m hm hq)
  | stored hp hq => exact .stored hp (ha.head m hm hq)
  | holding k hp hq hk hsaved hown =>
    -- only the one inside the gate saves
    have hnone : js = [] := by
      by_contra hne
      cases hq.symm.trans (hjs hne)
      exact hm rfl
    subst hnone
    have hcopy : xs.take k = (xs ++ ys).take k := (List.take_append_of_le_length hk).symm
    rw [hcopy, List.append_nil]
    refine .holding k hp (ha.head m hm hq) (by rw [List.length_append]; omega) hsaved ?_
    intro i x hx hxm
    by_cases hi : i < xs.length
    · rw [List.getElem?_append_left hi] at hx
      exact hown i x hx hxm
    · rw [List.getElem?_append_right (by omega)] at hx
      exact absurd (hxm.symm.trans (hys x (List.mem_of_getElem? hx))) hm

/-! ## Steps beside the gate -/

structure Calm (w w' : Worker) : Prop where
  nextTask : w'.nextTask = w.nextTask
  disk : w'.disk = w.disk
  second : w'.now = w.now

structure Beside (w w' : Worker) : Prop extends Calm w w' where
  tasks : w'.tasks = w.tasks
  shared : w'.shared? = w.shared?

theorem Sound.beside (f : Sound d now xs ks w) (h : Beside w w') : Sound d now xs ks w' where
  second := h.second.trans f.second
  disk := h.disk.trans f.disk
  rising := f.rising
  bound := f.bound
  counted := f.counted
  idle hs := by
    obtain ⟨hxs, hks, hnone⟩ := f.idle (h.shared ▸ hs)
    exact ⟨hxs, hks, fun n => (task?_of_tasks h.tasks n).trans (hnone n)⟩
  memory hs := f.memory (h.shared ▸ hs)
  queue hs := by
    rw [h.nextTask]
    exact f.queue (h.shared ▸ hs)
  stage {_ _ n _} hs ht := f.stage (h.shared ▸ hs) (task?_of_tasks h.tasks n ▸ ht)
  due {_ x} hx hc := by
    rw [task?_of_tasks h.tasks]
    exact f.due hx hc

/-! ## Steps of a task -/

/-- What a step of the task `n` may do: the disk, the cache and the queue follow the intakes `ys` and
the saves `js` of this step. -/
structure Turned (d : DataDir) (now : UInt64) (xs ys : List Intake) (ks js : List Nat)
    (w w' : Worker) (n : Nat) (queue queue' : List Nat) (new : Option Task) : Prop where
  shared : w'.shared? = some ((UserCache.openIn d now).after (xs ++ ys), queue')
  second : w'.now = w.now
  nextTask : w'.nextTask = w.nextTask
  tasks : ∀ m, w'.task? m = if m = n then new else w.task? m
  disk : w'.disk = some (diskAfter d now (xs ++ ys) (ks ++ js))
  intakes : ∀ y ∈ ys, y.task = n
  saves : js ≠ [] → queue.head? = some n
  rising : (ks ++ js).Pairwise (· ≤ ·)
  bound : ∀ k ∈ js, k ≤ xs.length
  counted : (UserCache.openIn d now).Counted (xs ++ ys)
  apart : Apart n queue queue'
  nodup : queue'.Nodup
  own : n ∈ queue' → n < w.nextTask

theorem Sound.turned (f : Sound d now xs ks w) (h : Turned d now xs ys ks js w w' n queue queue' new)
    (hs : w.shared? = some (cache, queue))
    (hstage : ∀ u, new = some u →
      Stage (.openIn d now) (xs ++ ys) (ks ++ js) queue' n u.program u.phase)
    (hdue : ∀ i x, (xs ++ ys)[i]? = some x → x.task = n → x.changed ≠ 0 →
      (∃ k ∈ ks ++ js, i < k) ∨ ∃ u, new = some u ∧ u.program.Unsaved) :
    Sound d now (xs ++ ys) (ks ++ js) w' where
  second := h.second.trans f.second
  disk := h.disk
  rising := h.rising
  bound k hk := by
    rw [List.length_append]
    rcases List.mem_append.mp hk with hk | hk
    · exact Nat.le_add_right_of_le (f.bound k hk)
    · exact Nat.le_add_right_of_le (h.bound k hk)
  counted := h.counted
  idle hnone := by cases h.shared.symm.trans hnone
  memory hs' := by
    cases h.shared.symm.trans hs'
    rfl
  queue hs' := by
    cases h.shared.symm.trans hs'
    refine ⟨h.nodup, fun m hm => ?_⟩
    rw [h.nextTask]
    by_cases hmn : m = n
    · subst hmn
      exact h.own hm
    · exact (f.queue hs).2 m ((h.apart.mem m hmn).mp hm)
  stage {_ _ m u} hs' ht := by
    cases h.shared.symm.trans hs'
    rw [h.tasks] at ht
    by_cases hm : m = n
    · subst hm
      rw [if_pos rfl] at ht
      exact hstage u ht
    · rw [if_neg hm] at ht
      exact stage_of_apart (f.stage hs ht) hm h.apart h.intakes h.saves
  due {i x} hx hc := by
    rw [h.tasks]
    by_cases hn : x.task = n
    · rw [if_pos hn]
      exact hdue i x hx hn hc
    · rw [if_neg hn]
      by_cases hi : i < xs.length
      · rw [List.getElem?_append_left hi] at hx
        refine (f.due hx hc).imp (fun ⟨k, hk, hik⟩ => ?_) fun h => h
        exact ⟨k, List.mem_append_left _ hk, hik⟩
      · rw [List.getElem?_append_right (by omega)] at hx
        exact absurd (h.intakes x (List.mem_of_getElem? hx)) hn

theorem Sound.due_of_task (f : Sound d now xs ks w) (ht : w.task? n = some t) {i : Nat} {x : Intake}
    (hx : xs[i]? = some x) (hn : x.task = n) (hc : x.changed ≠ 0) :
    (∃ k ∈ ks, i < k) ∨ t.program.Unsaved := by
  refine (f.due hx hc).imp (fun h => h) ?_
  rintro ⟨u, hu, hunsaved⟩
  rw [hn, ht] at hu
  cases hu
  exact hunsaved

section
variable (f : Sound d now xs ks w) (hs : w.shared? = some (cache, queue)) (ht : w.task? n = some t)
  (htasks : ∀ m, w'.task? m = if m = n then new else w.task? m)
include f hs ht htasks

theorem Sound.moved (hc : Calm w w') (hs' : w'.shared? = some (cache, queue'))
    (ha : Apart n queue queue') (hnodup : queue'.Nodup) (hown : n ∈ queue' → n < w.nextTask)
    (hstage : ∀ u, new = some u → Stage (.openIn d now) xs ks queue' n u.program u.phase)
    (hdue : t.program.Unsaved → ∃ u, new = some u ∧ u.program.Unsaved) : Sound d now xs ks w' := by
  have hturned : Turned d now xs [] ks [] w w' n queue queue' new := {
    shared := by rw [hs', f.memory hs, List.append_nil]
    second := hc.second
    nextTask := hc.nextTask
    tasks := htasks
    disk := by rw [hc.disk, f.disk, List.append_nil, List.append_nil]
    intakes := nofun
    saves := fun h => absurd rfl h
    rising := by rw [List.append_nil]; exact f.rising
    bound := nofun
    counted := by rw [List.append_nil]; exact f.counted
    apart := ha
    nodup := hnodup
    own := hown }
  have h := f.turned hturned hs
  rw [List.append_nil, List.append_nil] at h
  exact h hstage fun i x hx hn hchanged => (f.due_of_task ht hx hn hchanged).imp (fun h => h) hdue

theorem Sound.stays (hc : Calm w w') (hs' : w'.shared? = w.shared?)
    (hstage : ∀ u, new = some u → Stage (.openIn d now) xs ks queue n u.program u.phase)
    (hdue : t.program.Unsaved → ∃ u, new = some u ∧ u.program.Unsaved) : Sound d now xs ks w' :=
  f.moved hs ht htasks hc (hs'.trans hs) (.refl n queue) (f.queue hs).1 ((f.queue hs).2 n) hstage
    hdue

theorem Sound.enters (hc : Calm w w') (hs' : w'.shared? = some (cache, queue ++ [n]))
    (hn : n < w.nextTask) (hq : n ∉ queue)
    (hstage : ∀ u, new = some u → Stage (.openIn d now) xs ks (queue ++ [n]) n u.program u.phase)
    (hdue : t.program.Unsaved → ∃ u, new = some u ∧ u.program.Unsaved) : Sound d now xs ks w' := by
  have hnodup : (queue ++ [n]).Nodup := nodup_enter (f.queue hs).1 hq
  exact f.moved hs ht htasks hc hs' (apart_enter n queue) hnodup (fun _ => hn) hstage hdue

theorem Sound.leaves (hc : Calm w w') (hs' : w'.shared? = some (cache, queue.erase n))
    (hstage : ∀ u, new = some u → n ∉ queue.erase n →
      Stage (.openIn d now) xs ks (queue.erase n) n u.program u.phase)
    (hdue : t.program.Unsaved → ∃ u, new = some u ∧ u.program.Unsaved) : Sound d now xs ks w' := by
  have hgone : n ∉ queue.erase n := (f.queue hs).1.not_mem_erase
  exact f.moved hs ht htasks hc hs' (apart_leave n queue) ((f.queue hs).1.erase n)
    (fun h => absurd h hgone) (fun u hu => hstage u hu hgone) hdue

theorem Sound.takes (hc : Calm w w') {x : Intake} (hx : x.task = n)
    (hchanged : x.changed = (cache.upsert x.users).2)
    (hs' : w'.shared? = some ((cache.upsert x.users).1, queue)) (hp : t.program.Careful)
    (hstage : ∀ u, new = some u → Stage (.openIn d now) (xs ++ [x]) ks queue n u.program u.phase)
    (hdue : x.changed ≠ 0 → ∃ u, new = some u ∧ u.program.Unsaved) :
    Sound d now (xs ++ [x]) ks w' := by
  have hmem := f.memory hs
  have hturned : Turned d now xs [x] ks [] w w' n queue queue new := {
    shared := by rw [hs', hmem, UserCache.after_snoc]
    second := hc.second
    nextTask := hc.nextTask
    tasks := htasks
    disk := by
      rw [hc.disk, f.disk, List.append_nil, diskAfter_append f.bound]
    intakes := fun y hy => by rw [List.mem_singleton.mp hy]; exact hx
    saves := fun h => absurd rfl h
    rising := by rw [List.append_nil]; exact f.rising
    bound := nofun
    counted := f.counted.snoc (hmem ▸ hchanged)
    apart := .refl n queue
    nodup := (f.queue hs).1
    own := (f.queue hs).2 n }
  have h := f.turned hturned hs
  rw [List.append_nil] at h
  refine h hstage fun i y hy hn hne => ?_
  by_cases hi : i < xs.length
  · rw [List.getElem?_append_left hi] at hy
    exact (f.due_of_task ht hy hn hne).imp (fun h => h) fun h => absurd h hp.not_unsaved
  · rw [List.getElem?_append_right (by omega)] at hy
    cases List.mem_singleton.mp (List.mem_of_getElem? hy)
    exact .inr (hdue hne)

omit ht in
theorem Sound.saves (hnext : w'.nextTask = w.nextTask) (hnow : w'.now = w.now)
    (hs' : w'.shared? = some (cache, queue)) {k : Nat} (hk : k ≤ xs.length)
    (hsaved : ∀ j ∈ ks, j ≤ k) (hown : ∀ i x, xs[i]? = some x → x.task = n → i < k)
    (hhead : queue.head? = some n)
    (hdisk : w'.disk = some (.folder (.file (UserCache.fileAt d now xs k)) none))
    (hstage : ∀ u, new = some u →
      Stage (.openIn d now) xs (ks ++ [k]) queue n u.program u.phase) :
    Sound d now xs (ks ++ [k]) w' := by
  have hturned : Turned d now xs [] ks [k] w w' n queue queue new := {
    shared := by rw [hs', f.memory hs, List.append_nil]
    second := hnow
    nextTask := hnext
    tasks := htasks
    disk := by rw [hdisk, diskAfter, List.getLast?_concat, List.append_nil]
    intakes := nofun
    saves := fun _ => hhead
    rising := by
      refine List.pairwise_append.mpr ⟨f.rising, by simp, fun j hj m hm => ?_⟩
      cases List.mem_singleton.mp hm
      exact hsaved j hj
    bound := fun j hj => by rw [List.mem_singleton.mp hj]; exact hk
    counted := by rw [List.append_nil]; exact f.counted
    apart := .refl n queue
    nodup := (f.queue hs).1
    own := (f.queue hs).2 n }
  have h := f.turned hturned hs
  rw [List.append_nil] at h
  exact h hstage fun i x hx hn _ => .inl ⟨k, by simp, hown i x hx hn⟩

end

end Worker
end ChatBridge
