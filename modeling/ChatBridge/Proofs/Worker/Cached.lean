import ChatBridge.Proofs.Agent.Fetching
import ChatBridge.Proofs.UserCache.Intakes
import ChatBridge.Proofs.Worker.Intact

/-!
# Users that are cached are not asked for

Nobody is dropped from the user cache of an agent, whatever tasks do with it in between. So whoever has
been taken in once is found there by all later requests for which stale answers will do, and these ask
for others only.
-/

namespace ChatBridge

namespace Worker

open Operation

def Caches (w : Worker) (k : UserId) : Prop :=
  ∃ g, w.agent = some g ∧ g.cache.users.contains k = true

variable {w w' : Worker} {x : Turn} {n : Nat} {t : Task} {g : Agent} {ss pre late : History}
  {s : Step Worker Turn} {k : UserId} {disk : Option DataDir} {now : UInt64} {c : ServiceCall}

/-! ## The cache along a step -/

theorem cache_of_run? (hg : w.agent = some g) (h : w.run? g t = some w') :
    ∃ g', w'.agent = some g' ∧ g'.cache = g.cache.after (t.intake? g).toList := by
  cases hp : t.program with
  | upsert users next =>
    unfold run? at h
    simp only [hp] at h
    cases h
    exact ⟨_, rfl, by simp only [Task.intake?, hp]; rfl⟩
  | save users next =>
    unfold run? at h
    simp only [hp] at h
    cases h
    exact ⟨g, (agent_saveUsers users).trans hg, by simp only [Task.intake?, hp]; rfl⟩
  | emit e next =>
    unfold run? at h
    simp only [hp] at h
    cases h
    exact ⟨g, hg, by simp only [Task.intake?, hp]; rfl⟩
  | enter gate next =>
    have hi : t.intake? g = none := by simp only [Task.intake?, hp]
    rw [hi]
    unfold run? at h
    simp only [hp] at h
    cases hph : t.phase with
    | running =>
      simp only [hph] at h
      cases h
      exact ⟨_, rfl, cache_setQueue _⟩
    | _ =>
      simp only [hph] at h
      split at h
      · cases h; exact ⟨g, hg, rfl⟩
      · cases h
  | leave gate next =>
    have hi : t.intake? g = none := by simp only [Task.intake?, hp]
    rw [hi]
    unfold run? at h
    simp only [hp] at h
    cases h
    exact ⟨_, rfl, cache_setQueue _⟩
  | _ =>
    have hi : t.intake? g = none := by simp only [Task.intake?, hp]
    have hc := (spares_of_run? hg (by rw [hp]; trivial) h).cache
    rw [hg, Option.map_some, Option.map_eq_some_iff] at hc
    rw [hi]
    exact hc

/-- A step moves the cache on by what it takes in, and by nothing else. -/
theorem cache_of_react (hwait : w.settingUp.isSome = true → w.agent = none)
    (h : w.react? x = some w') (hg : w.agent = some g) :
    ∃ g', w'.agent = some g' ∧ g'.cache = g.cache.after (intake? ⟨w, x, w'⟩).toList := by
  cases hx : x.task? with
  | some n =>
    obtain ⟨g₁, t, hg₁, ht, hstep⟩ := stepper_of_react h hx
    cases hg.symm.trans hg₁
    rcases hstep with ⟨rfl, hrun⟩ | ⟨e, rfl, hend⟩
    · rw [intake?_run hg ht]
      exact cache_of_run? hg hrun
    · have hc := (spares_of_endCall? hg hend).cache
      rw [hg, Option.map_some, Option.map_eq_some_iff] at hc
      exact hc
  | none =>
    have hi : intake? ⟨w, x, w'⟩ = none := by
      unfold intake? stepper?
      split
      · rename_i m hm
        rw [show x = .act (.run m) from hm] at hx
        cases hx
      · rfl
    rw [hi]
    have same (hw : w'.agent = w.agent) : ∃ g', w'.agent = some g' ∧ g'.cache = g.cache.after [] :=
      ⟨g, hw.trans hg, rfl⟩
    rcases agent_of_react h with hw | ⟨a, rfl, h⟩
    · exact same hw
    · rcases agent_of_step h with hw | ⟨_, _, _, hset, _⟩ | ⟨m, _, _, ha, _⟩
      · exact same hw
      · cases hg.symm.trans (hwait (by rw [hset]; rfl))
      · cases a <;> cases ha <;> cases hx

theorem caches_of_react (hwait : w.settingUp.isSome = true → w.agent = none)
    (h : w.react? x = some w') (hk : w.Caches k) : w'.Caches k := by
  obtain ⟨g, hg, hk⟩ := hk
  obtain ⟨g', hg', hc⟩ := cache_of_react hwait h hg
  refine ⟨g', hg', ?_⟩
  rw [hc]
  cases intake? ⟨w, x, w'⟩ with
  | none => exact hk
  | some y => exact UserCache.contains_upsert hk y.users

theorem caches_of_intake {y : Intake} {u : UserSummary}
    (hwait : w.settingUp.isSome = true → w.agent = none) (h : w.react? x = some w')
    (hy : intake? ⟨w, x, w'⟩ = some y) (hu : u ∈ y.users) : w'.Caches u.userId := by
  obtain ⟨⟨g, t⟩, hs, _⟩ := Option.bind_eq_some_iff.mp hy
  obtain ⟨_, _, hg, _⟩ := stepper?_eq_some hs
  obtain ⟨g', hg', hc⟩ := cache_of_react hwait h hg
  refine ⟨g', hg', ?_⟩
  rw [hc, hy]
  exact UserCache.contains_upsert_of_mem hu

/-! ## The cache along a run -/

theorem caches_of_run (run : Run react? (start disk now) ss w) (hs : s ∈ ss)
    (hk : s.after.Caches k) : w.Caches k := by
  induction run with
  | nil => cases hs
  | snoc run h ih =>
    rcases List.mem_append.mp hs with hs | hs
    · exact caches_of_react (fun hset => ((parted_of_run run).waiting hset).1) h (ih hs)
    · cases List.mem_singleton.mp hs
      exact hk

theorem caches_of_before (run : Run react? (start disk now) ss w) (hs : s ∈ ss)
    (hk : s.before.Caches k) : w.Caches k := by
  obtain ⟨pre, hpre, hstep⟩ := run.before_of_mem hs
  have hwait := fun hset => ((parted_of_run hpre).waiting hset).1
  exact caches_of_run run hs (caches_of_react hwait hstep hk)

theorem caches_of_taken {y : Intake} {u : UserSummary} (run : Run react? (start disk now) ss w)
    (hs : s ∈ ss) (hy : intake? s = some y) (hu : u ∈ y.users) : w.Caches u.userId := by
  obtain ⟨pre, hpre, hstep⟩ := run.before_of_mem hs
  have hwait := fun hset => ((parted_of_run hpre).waiting hset).1
  exact caches_of_run run hs (caches_of_intake hwait hstep hy hu)

theorem users_of_toldBy? {us : UserLookup} (h : toldBy? s = some (.users us)) :
    ∃ g, s.before.agent = some g ∧ us = g.cache.users := by
  unfold toldBy? at h
  split at h
  · obtain ⟨g, hg, h⟩ := Option.bind_eq_some_iff.mp h
    obtain ⟨t, _, h⟩ := Option.bind_eq_some_iff.mp h
    refine ⟨g, hg, ?_⟩
    unfold Task.told? at h
    split at h <;> cases h
    rfl
  · cases h
  · cases h

/-! ## What a task asks for -/

theorem calls_of_run? (h : w.run? g t = some w') :
    w'.calls = w.calls ∨ ∃ c next, t.program = .call c next ∧ w'.calls = w.calls ++ [c] := by
  unfold run? at h
  cases hp : t.program with
  | done v => simp only [hp] at h; cases h; exact .inl (calls_post _ _)
  | fail f => simp only [hp] at h; cases h; exact .inl (calls_post _ _)
  | enter gate next =>
    simp only [hp] at h
    cases hph : t.phase with
    | running => simp only [hph] at h; cases h; exact .inl rfl
    | _ =>
      simp only [hph] at h
      split at h
      · cases h; exact .inl rfl
      · cases h
  | call c next =>
    simp only [hp] at h
    cases hph : t.phase with
    | running => simp only [hph] at h; cases h; exact .inr ⟨c, next, rfl, rfl⟩
    | _ => simp only [hph] at h; cases h
  | save users next => simp only [hp] at h; cases h; exact .inl (calls_saveUsers users)
  | _ => simp only [hp] at h; cases h; exact .inl rfl

theorem call_of_made (h : w.react? x = some w') (hx : x.task? = some n) (ht : w.task? n = some t)
    (hc : c ∈ made ⟨w, x, w'⟩) : ∃ next, t.program = .call c next := by
  have silent (hw : w'.calls = w.calls) : c ∉ made ⟨w, x, w'⟩ := by
    rw [made_of_calls (hw.trans (List.append_nil _).symm)]
    exact List.not_mem_nil
  obtain ⟨g, t', hg, ht', hstep⟩ := stepper_of_react h hx
  cases ht.symm.trans ht'
  rcases hstep with ⟨_, hrun⟩ | ⟨e, _, hend⟩
  · rcases calls_of_run? hrun with hw | ⟨c', next, hp, hw⟩
    · exact absurd hc (silent hw)
    · rw [made_of_calls hw] at hc
      cases List.mem_singleton.mp hc
      exact ⟨next, hp⟩
  · refine absurd hc (silent ?_)
    unfold endCall? at hend
    split at hend
    · cases hend; rfl
    · cases hend; exact calls_post _ _
    · cases hend

section
variable {z : Step Worker Turn} {id : String} {payload : Json} {q : UsersQuery} {mid rest : History}

theorem called_of_made (run : Run react? (start disk now) (pre ++ z :: (mid ++ s :: rest)) w)
    (hz : received? z = some (.request id "getUsers" payload))
    (hq : Capability.getUsers.requestCodec.ofValue payload = .ok q)
    (ha : z.before.agent.isSome = true) (hs : ofTask (startedTask? z) s = true) (hc : c ∈ made s) :
    ∃ config us told, toldTo (startedTask? z) mid = q.looks us ++ told ∧
      c = usersCall config (q.missing us) := by
  obtain ⟨hpre, hstep⟩ := run.before_of_split rfl
  obtain ⟨hmid, hreact⟩ := (run.after_of_split rfl).before_of_split rfl
  obtain ⟨n, ho, hx⟩ := ofTask_eq_true.mp hs
  cases begins_of_received hpre hstep hz ha with
  | answered _ hnone _ => cases hnone.symm.trans ho
  | passedOver hnone _ => cases hnone.symm.trans ho
  | started cap g hcap _ ht _ hw =>
    cases (show some Capability.getUsers = some cap from hcap)
    rw [startedTask?_of_task? ht] at ho ⊢
    cases ho
    have hn : z.before.nextTask < z.after.nextTask := by
      rw [hw]
      exact Nat.lt_succ_self _
    obtain ⟨_, t, _, hst, _⟩ := stepper_of_react hreact hx
    obtain ⟨next, hcall⟩ := call_of_made hreact hx hst hc
    obtain ⟨_, _, hfollow⟩ := (followed_of_run hmid hn ht).task t hst
    exact ⟨g.config, Operation.called_of_handle hq (hcall ▸ hfollow)⟩

theorem contains_of_told {o : Option Nat} {us : UserLookup}
    (run : Run react? (start disk now) (pre ++ z :: mid) w) (hk : z.before.Caches k)
    (h : .users us ∈ toldTo o mid) : us.contains k = true := by
  obtain ⟨y, hy, htold⟩ := List.mem_filterMap.mp h
  obtain ⟨g, hg, rfl⟩ := users_of_toldBy? htold
  obtain ⟨early, after, rfl⟩ := List.append_of_mem (List.mem_filter.mp hy).1
  rw [← List.cons_append, ← List.append_assoc] at run
  obtain ⟨_, hg', hcached⟩ := caches_of_before (run.before_of_split rfl).1 (by simp) hk
  cases hg.symm.trans hg'
  exact hcached

theorem asks_for_others (run : Run react? (start disk now) (pre ++ z :: late) w)
    (hz : received? z = some (.request id "getUsers" payload))
    (hq : Capability.getUsers.requestCodec.ofValue payload = .ok q) (hstale : q.allowStale = true)
    (hk : z.before.Caches k) (hs : s ∈ stepsOf (startedTask? z) late) (hc : c ∈ made s) :
    ∃ config ids, c = usersCall config ids ∧ k ∉ ids := by
  obtain ⟨hmem, hown⟩ := List.mem_filter.mp hs
  obtain ⟨mid, rest, rfl⟩ := List.append_of_mem hmem
  have ha : z.before.agent.isSome = true := by
    obtain ⟨g, hg, _⟩ := hk
    rw [hg]
    rfl
  obtain ⟨config, us, told, htold, hcalled⟩ := called_of_made run hz hq ha hown hc
  have hlook : .users us ∈ toldTo (startedTask? z) mid := by
    rw [htold, UsersQuery.looks, if_pos hstale]
    exact List.mem_append_left _ List.mem_cons_self
  have hsofar : Run react? (start disk now) (pre ++ z :: mid) s.before := by
    rw [← List.cons_append, ← List.append_assoc] at run
    exact (run.before_of_split rfl).1
  refine ⟨config, _, hcalled, fun hin => ?_⟩
  rw [UsersQuery.missing, if_pos hstale, List.mem_filter, contains_of_told hsofar hk hlook] at hin
  cases hin.2

end

/-! ## Main statement -/

end Worker
end ChatBridge
