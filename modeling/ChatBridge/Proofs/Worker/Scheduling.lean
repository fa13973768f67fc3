import ChatBridge.Proofs.Worker.Alone

/-!
# Answers do not hang on the schedule

Two runs with the same services and the same configuration answer the same steady request alike,
whatever else they do and in whatever order. Among them is the run in which the agent takes no other
request.
-/

namespace ChatBridge

open Operation

namespace Worker

variable {service : ServiceCall → CallEnd} {config : AgentConfig} {own : String} {ss : History}
  {w w' : Worker} {r : Row}

/-! ## Two runs -/

section
variable {disk disk' : Option DataDir} {now now' : UInt64} {ss' : History} {r' : Row}

theorem Scheduled.config_of_admitted (run : Run react? (start disk now) ss w)
    (h : Scheduled service config ss) (hr : r ∈ admitted ss) : r.config = some config := by
  obtain ⟨hr, hsome⟩ := List.mem_filter.mp hr
  obtain ⟨s, hs, hrec, hconf⟩ := received_of_mem hr
  obtain ⟨_, _, hstep⟩ := run.before_of_mem hs
  have hsame : s.after.agent = s.before.agent := by
    obtain ⟨w₁, x, w₂⟩ := s
    unfold received? at hrec
    split at hrec
    · rename_i hx
      cases (show x = .act .receive from hx)
      obtain ⟨_, _, e, rest, _, hw⟩ := receive?_eq_some hstep
      exact (congrArg Worker.agent hw).trans (agent_handle e)
    · cases hrec
  rw [← hconf, config?] at hsome ⊢
  obtain ⟨g, hg⟩ := Option.isSome_iff_exists.mp (Option.isSome_map.symm.trans hsome)
  rw [hg, Option.map_some, (h s hs).config g (hsame.trans hg)]

theorem not_owes_of_over (h : Over ss w) (o : Owner) : w.Owes o = false := by
  obtain ⟨_, ht, hs⟩ := h
  cases o with
  | setUp => simp [Owes, hs]
  | task n => simp [Owes, task?, ht]

theorem ends_of_over (run : Run react? (start disk now) ss w) (ho : Over ss w) (hr : r ∈ ledger ss) :
    ∃ x, r.Ends x ∧ r.replies = x.toList := by
  have hstands := (ledger_of_run run).stands hr
  cases howner : r.owner with
  | some o =>
    have howes := owes_of_stands hstands howner
    rw [not_owes_of_over ho] at howes
    cases howes
  | none =>
    simp only [Row.Stands, howner] at hstands
    exact hstands.resolve_right fun h => ho.1 h.1

theorem ends_of_schedules (run : Run react? (start disk now) ss w)
    (run' : Run react? (start disk' now') ss' w') (h : Scheduled service config ss)
    (h' : Scheduled service config ss') (hown : config.userCanister = some own) (hr : r ∈ admitted ss)
    (hr' : r' ∈ admitted ss') (hreq : r'.request = r.request) {x x' : Option Envelope}
    (he : r.Ends x) (he' : r'.Ends x') : x = x' := by
  have hmem := (List.mem_filter.mp hr).1
  have hsteady := h.steadyAs hmem (List.mem_filter.mp hr).2
  have hcourse := (fair_of_run run h hown).rows r hmem
  have hcourse' := (fair_of_run run' h' hown).rows r' (List.mem_filter.mp hr').1
  exact Row.ends_unique hcourse hcourse' hsteady hreq (h.config_of_admitted run hr)
    (h'.config_of_admitted run' hr') he he'

theorem ends_of_mem (run : Run react? (start disk now) ss w) (hr : r ∈ ledger ss) {e : Envelope}
    (he : e ∈ r.replies) : r.Ends (some e) := by
  rcases Row.replies_of_stands ((ledger_of_run run).stands hr) with hnil | ⟨e', hone, _, _, hend⟩
  · rw [hnil] at he
    cases he
  · rw [hone, List.mem_singleton] at he
    exact he ▸ hend

theorem replies_of_schedules (run : Run react? (start disk now) ss w)
    (run' : Run react? (start disk' now') ss' w') (h : Scheduled service config ss)
    (h' : Scheduled service config ss') (hown : config.userCanister = some own) (hr : r ∈ admitted ss)
    (hr' : r' ∈ admitted ss') (hreq : r'.request = r.request) :
    (∀ e ∈ r.replies, ∀ e' ∈ r'.replies, e = e') ∧
    (Over ss' w' → (∀ e ∈ r.replies, r'.replies = [e]) ∧ (Over ss w → r.replies = r'.replies)) := by
  have hmem := (List.mem_filter.mp hr).1
  have hmem' := (List.mem_filter.mp hr').1
  have same {x x' : Option Envelope} (he : r.Ends x) (he' : r'.Ends x') : x = x' :=
    ends_of_schedules run run' h h' hown hr hr' hreq he he'
  refine ⟨fun e he e' he' => ?_, fun hover' => ?_⟩
  · exact Option.some.inj (same (ends_of_mem run hmem he) (ends_of_mem run' hmem' he'))
  · obtain ⟨x', hend', hreplies'⟩ := ends_of_over run' hover' hmem'
    refine ⟨fun e he => ?_, fun hover => ?_⟩
    · rw [hreplies', ← same (ends_of_mem run hmem he) hend']
      rfl
    · obtain ⟨x, hend, hreplies⟩ := ends_of_over run hover hmem
      rw [hreplies, hreplies', same hend hend']

end

/-! ## Main statement -/

theorem ids_admitted (ss : History) :
    (requests ss).filterMap (·.correlationId?) = (admitted ss).map (·.id) := by
  rw [← requests_admitted, List.filterMap_map]
  exact congrFun List.filterMap_eq_map' (admitted ss)

theorem exists_admitted {disk : Option DataDir} {now : UInt64} {id kind : String} {payload : Json}
    (run : Run react? (start disk now) ss w) (hd : ((requests ss).filterMap (·.correlationId?)).Nodup)
    (h : .request id kind payload ∈ requests ss) : ∃ r ∈ admitted ss,
      r.request = .request id kind payload ∧ answers ss id = r.replies := by
  rw [ids_admitted] at hd
  rw [← requests_admitted] at h
  obtain ⟨r, hr, hreq⟩ := List.mem_map.mp h
  refine ⟨r, hr, hreq, ?_⟩
  have hid : r.id = id := by
    injection hreq
  rw [← answers_of_nodup run hd hr, hid]

/-- Let each call end as its arguments say, and let the agent be set up with the canister of the user,
whatever the disk holds. Of the steady requests that the agent takes, under distinct ids, each has the
same answer in all runs, and one answer at most; once nothing is left to do it has one, unless nobody
knows the request. It is the answer that the request has where the agent takes no other. -/
theorem answers_of_schedules {service : ServiceCall → CallEnd} {config : AgentConfig} {own : String}
    {disk : Option DataDir} {now : UInt64} {ss : History} {w : Worker} {id kind : String}
    {payload : Json} (hown : config.userCanister = some own)
    (run : Run react? (start disk now) ss w) (h : Scheduled service config ss)
    (hd : ((requests ss).filterMap (·.correlationId?)).Nodup)
    (hr : .request id kind payload ∈ requests ss) :
    (∀ (disk' : Option DataDir) (now' : UInt64) (ss' : History) (w' : Worker),
      Run react? (start disk' now') ss' w' → Scheduled service config ss' →
      ((requests ss').filterMap (·.correlationId?)).Nodup → .request id kind payload ∈ requests ss' →
        (∀ e ∈ answers ss id, ∀ e' ∈ answers ss' id, e = e') ∧
        (Over ss w → Over ss' w' → answers ss id = answers ss' id)) ∧
    (answers ss id).length ≤ 1 ∧
    (Over ss w → (kind = initKind ∨ (Capability.ofKind? kind).isSome = true) →
      (answers ss id).length = 1) ∧
    (∃ tt v, Run react? (start disk now) tt v ∧ Scheduled service config tt ∧ Over tt v ∧
      requests tt = [.request id kind payload] ∧ (tt.filterMap received?).length = 2 ∧
      (Over ss w → answers ss id = answers tt id) ∧ ∀ e ∈ answers ss id, answers tt id = [e]) := by
  obtain ⟨r, hadm, hreq, hans⟩ := exists_admitted run hd hr
  have hmem := (List.mem_filter.mp hadm).1
  have hone := Row.replies_of_stands ((ledger_of_run run).stands hmem)
  have hsteady : SteadyAs kind payload := by
    have hs := h.steadyAs hmem (List.mem_filter.mp hadm).2
    injection hreq with _ hk hp
    rwa [hk, hp] at hs
  refine ⟨?_, ?_, fun hover hk => ?_, ?_⟩
  · intro disk' now' ss' w' run' h' hd' hr'
    obtain ⟨r', hadm', hreq', hans'⟩ := exists_admitted run' hd' hr'
    obtain ⟨hsame, hover⟩ := replies_of_schedules run run' h h' hown hadm hadm' (hreq'.trans hreq.symm)
    rw [hans, hans']
    exact ⟨hsame, fun ho ho' => (hover ho').2 ho⟩
  · rw [hans]
    rcases hone with hnil | ⟨e, he, _⟩
    · rw [hnil]; exact Nat.zero_le 1
    · rw [he]; exact Nat.le_refl 1
  · have hsettled := Row.settled_of_stands hover.1 ((ledger_of_run run).stands hmem)
      (not_owes_of_over hover)
    have hconf := h.config_of_admitted run hadm
    rw [hans]
    rcases hone with hnil | ⟨e, he, _⟩
    · obtain ⟨rfl, rfl, rfl⟩ : r.id = id ∧ r.kind = kind ∧ r.payload = payload := by
        simpa [Row.request] using hreq
      rcases hsettled.answered.mp hnil with ⟨hne, hnone⟩ | ⟨_, hnone, _⟩
      · rw [hnone] at hk
        exact hk.elim (fun h => absurd h hne) fun h => absurd h Bool.false_ne_true
      · cases hconf.symm.trans hnone
    · rw [he]
      rfl
  · obtain ⟨tt, v, ⟨run', h', _, hreceived, hreqs⟩, hover'⟩ := exists_alone service disk
      now hown hsteady id
    have hd' : ((requests tt).filterMap (·.correlationId?)).Nodup := by
      rw [hreqs]
      exact List.nodup_singleton id
    obtain ⟨r', hadm', hreq', hans'⟩ := exists_admitted run' hd' (by rw [hreqs]; exact List.mem_singleton_self _)
    obtain ⟨_, hboth⟩ := replies_of_schedules run run' h h' hown hadm hadm' (hreq'.trans hreq.symm)
    refine ⟨tt, v, run', h', hover', hreqs, by rw [hreceived]; rfl, ?_, ?_⟩
    · rw [hans, hans']
      exact (hboth hover').2
    · rw [hans, hans']
      exact (hboth hover').1

/-- Two requests are under way, and the call of the second goes down before the first has its answer. -/
theorem answers_of_schedules_of_crash : ∃ (service : ServiceCall → CallEnd) (config : AgentConfig)
    (ss : History) (w : Worker), config.userCanister = some "own" ∧
    Run react? (start none 0) ss w ∧ Scheduled service config ss ∧ Over ss w ∧
    requests ss = [.request "a" "getBio" (.obj []), .request "b" "markAsOnline" .null] ∧
    ((requests ss).filterMap (·.correlationId?)).Nodup ∧
    (answers ss "a").length = 1 ∧
    ∃ tt v, Run react? (start none 0) tt v ∧ Scheduled service config tt ∧ Over tt v ∧
      requests tt = [.request "a" "getBio" (.obj [])] ∧ answers ss "a" = answers tt "a" := by
  let service (c : ServiceCall) : CallEnd :=
    if c.method = "bio" then .answered (.ok (.str "hi")) else .crashed
  let config : AgentConfig := { AgentConfig.standard with userCanister := some "own" }
  obtain ⟨ss₀, hready⟩ := exists_ready service config none 0
  have run : Run react? (ready none 0 config) _ _ := .of_play [
    .deliver (.request "a" "getBio" (.obj [])), .deliver (.request "b" "markAsOnline" .null),
    .act .receive, .act .receive, .act (.run 0), .act (.run 0), .act (.run 1),
    .act (.endCall 1 .crashed), .act (.endCall 0 (.answered (.ok (.str "hi")))), .act (.run 0)] rfl
  have steady (kind : String) (payload : Json)
      (h : Capability.ofKind? kind = some .getBio ∨ Capability.ofKind? kind = some .markAsOnline) :
      SteadyAs kind payload := by
    intro c q hc _
    rcases h with h | h
    · cases h.symm.trans hc; trivial
    · cases h.symm.trans hc; trivial
  obtain ⟨ss, w, es, hleg, ht, hset⟩ : ∃ ss w es, Leg service config (start none 0) ss w es
      [.request "a" "getBio" (.obj []), .request "b" "markAsOnline" .null] ∧ w.tasks = [] ∧
      w.settingUp = none := by
    have kept {s : Step Worker Turn} (hg : s.after.config? = some config) (g : Agent)
        (h : s.after.agent = some g) : g.config = config := by
      rw [config?, h] at hg
      exact Option.some.inj hg
    have regular {s : Step Worker Turn} (hr : received? s = none)
        (hc : ∀ n e t c next, s.action = .act (.endCall n e) → s.before.task? n = some t →
          t.program = .call c next → e = service c) (hg : s.after.config? = some config) :
        Regular service config s :=
      ⟨hc, kept hg, fun _ _ _ _ h => by cases hr.symm.trans h⟩
    refine ⟨_, _, _, hready.append ⟨run, fun s hs => ?_, ?_, rfl, rfl⟩, rfl, rfl⟩
    · simp only [List.mem_cons, List.not_mem_nil, or_false] at hs
      rcases hs with rfl | rfl | rfl | rfl | rfl | rfl | rfl | rfl | rfl | rfl
      · exact regular rfl (fun _ _ _ _ _ ha => by cases ha) rfl
      · exact regular rfl (fun _ _ _ _ _ ha => by cases ha) rfl
      · exact ⟨fun _ _ _ _ _ ha => (by cases ha), kept rfl,
          fun _ _ _ _ hr => by cases hr; exact steady _ _ (.inl rfl)⟩
      · exact ⟨fun _ _ _ _ _ ha => (by cases ha), kept rfl,
          fun _ _ _ _ hr => by cases hr; exact steady _ _ (.inr rfl)⟩
      · exact regular rfl (fun _ _ _ _ _ ha => by cases ha) rfl
      · exact regular rfl (fun _ _ _ _ _ ha => by cases ha) rfl
      · exact regular rfl (fun _ _ _ _ _ ha => by cases ha) rfl
      · exact regular rfl (fun _ _ _ _ _ ha ht hp => by cases ha; cases ht; cases hp; rfl) rfl
      · exact regular rfl (fun _ _ _ _ _ ha ht hp => by cases ha; cases ht; cases hp; rfl) rfl
      · exact regular rfl (fun _ _ _ _ _ ha => by cases ha) rfl
    · simp [Lost]
  have hd : ((requests ss).filterMap (·.correlationId?)).Nodup := by
    rw [hleg.requests]
    decide
  have ha : .request "a" "getBio" (.obj []) ∈ requests ss := by
    rw [hleg.requests]
    exact List.mem_cons_self
  obtain ⟨_, _, hone, tt, v, run', h', hover', hreqs, _, hsame, _⟩ :=
    answers_of_schedules rfl hleg.run hleg.scheduled hd ha
  have hover : Over ss w := ⟨hleg.kept, ht, hset⟩
  exact ⟨service, config, ss, w, rfl, hleg.run, hleg.scheduled, hover, hleg.requests, hd,
    hone hover (.inr rfl), tt, v, run', h', hover', hreqs, hsame hover⟩

end Worker
end ChatBridge
