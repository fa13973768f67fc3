import ChatBridge.Proofs.Worker.Ledger

/-!
# What passes between a worker and its channels

A step of the worker takes at most the next envelope from the inbox and only adds to the outbox. An
agent stays once it is there, and nothing is answered with a response before.
-/

namespace ChatBridge.Worker

variable {w w₁ w' : Worker} {a : Action} {e : Envelope}

structure Passing (w : Worker) (a : Action) (w' : Worker) : Prop where
  inbox : w.inbox = (received? ⟨w, .act a, w'⟩).toList ++ w'.inbox
  outbox : ∃ es, w'.outbox = w.outbox ++ es ∧ ∀ id v, .response id v ∈ es → w'.config?.isSome
  config : w.config?.isSome → w'.config?.isSome

@[simp] theorem config?_post : (w.post e).config? = w.config? := by
  rw [config?, config?, agent_post]

/-- What is posted is added to the outbox, or nobody takes it. -/
theorem passing_of_post (hi : w.inbox = (received? ⟨w, .act a, w₁.post e⟩).toList ++ w₁.inbox)
    (ho : w₁.outbox = w.outbox) (hc : w.config?.isSome → w₁.config?.isSome)
    (he : ∀ id v, e = .response id v → w₁.config?.isSome) : Passing w a (w₁.post e) where
  inbox := by rw [inbox_post]; exact hi
  outbox := by
    refine ⟨if w₁.abandoned then [] else [e], by rw [outbox_post, ho], fun id v h => ?_⟩
    rw [config?_post]
    split at h
    · cases h
    · exact he id v (List.mem_singleton.mp h).symm
  config := by rw [config?_post]; exact hc

theorem passing_of_eq (hi : w.inbox = (received? ⟨w, .act a, w'⟩).toList ++ w'.inbox)
    (ho : w'.outbox = w.outbox) (hc : w.config?.isSome → w'.config?.isSome) : Passing w a w' :=
  ⟨hi, ⟨[], by rw [ho, List.append_nil], nofun⟩, hc⟩

theorem isSome_config? {g : Agent} (h : w.agent = some g) : w.config?.isSome = true := by
  rw [config?, h]
  rfl

theorem passing_of_handle (hi : ∀ x, w.inbox = (received? ⟨w, .act a, x⟩).toList ++ w₁.inbox)
    (ho : w₁.outbox = w.outbox) (hc : w.config?.isSome → w₁.config?.isSome) (e : Envelope) :
    Passing w a (w₁.handle e) := by
  cases e with
  | request id kind payload =>
    have h := handled w₁ id kind payload
    generalize w₁.handle (.request id kind payload) = w' at h ⊢
    cases h with
    | refused _ _ _ => exact passing_of_post (hi _) ho hc (by simp)
    | again _ _ _ ha =>
      exact passing_of_post (hi _) ho hc fun _ _ _ => by rwa [config?, Option.isSome_map]
    | begun _ _ _ _ => exact passing_of_eq (hi _) ho hc
    | unknown _ _ => exact passing_of_eq (hi _) ho hc
    | early _ _ _ _ => exact passing_of_post (hi _) ho hc (by simp)
    | spawned _ _ _ _ _ => exact passing_of_eq (hi _) ho hc
  | response id v => exact passing_of_eq (hi _) ho hc
  | error id f => exact passing_of_eq (hi _) ho hc
  | event e => exact passing_of_eq (hi _) ho hc

theorem passing_of_receive (h : w.receive? = some w') : Passing w .receive w' := by
  obtain ⟨_, _, e, rest, hi, rfl⟩ := receive?_eq_some h
  apply passing_of_handle
  · intro x; simp [received?, hi]
  · rfl
  · exact fun h => h

theorem passing_of_provide {p : Provided} (h : w.step? (.provide p) = some w') :
    Passing w (.provide p) w' := by
  obtain ⟨id, config, _, rfl⟩ := provide_eq_some h
  cases hi : resolveIdentity p with
  | error e =>
    rw [endSetUp_of_error hi]
    exact passing_of_post rfl rfl (fun h => h) nofun
  | ok i =>
    cases i with
    | none =>
      rw [endSetUp_of_nobody hi]
      exact passing_of_eq rfl rfl fun h => h
    | some i =>
      rw [endSetUp_of_identity hi]
      exact passing_of_post rfl rfl (fun _ => rfl) fun _ _ _ => rfl

section
variable {g : Agent} {t : Task}

theorem passing_of_ran (hr : ∀ x, received? ⟨w, .act a, x⟩ = none) (hg : w.agent = some g)
    (h : Ran w g t w') : Passing w a w' := by
  cases h with
  | ended r _ =>
    exact passing_of_post (by rw [hr]; rfl) rfl (fun h => h) fun _ _ _ => isSome_config? hg
  | waits w₁ p hq _ =>
    exact passing_of_eq (by rw [hr]; exact hq.inbox.symm) hq.outbox fun h => hq.config ▸ h
  | goesOn w₁ x p hq _ _ =>
    exact passing_of_eq (by rw [hr]; exact hq.inbox.symm) hq.outbox fun h => hq.config ▸ h

theorem passing_of_endCall {n : Nat} {e : CallEnd} (h : w.step? (.endCall n e) = some w') :
    Passing w (.endCall n e) w' := by
  obtain ⟨g, t, hg, _, h⟩ := withTask_eq_some h
  rcases endCall?_eq_some hg h with ⟨r, p, _, _, rfl⟩ | ⟨_, w₁, hq, rfl⟩
  · exact passing_of_eq rfl rfl fun h => h
  · exact passing_of_post hq.inbox.symm hq.outbox (fun h => hq.config ▸ h) nofun

end

theorem passing_of_step (h : w.step? a = some w') : Passing w a w' := by
  cases a with
  | receive => exact passing_of_receive h
  | provide p => exact passing_of_provide h
  | run n =>
    obtain ⟨g, t, hg, _, h⟩ := withTask_eq_some h
    exact passing_of_ran (fun _ => rfl) hg (ran_of_run? hg h)
  | endCall n e => exact passing_of_endCall h
  | forward =>
    obtain ⟨w₁, es, hq, hes, rfl⟩ := forward?_eq_some h
    refine ⟨hq.inbox.symm, ⟨es, rfl, fun id v hm => ?_⟩, fun h => hq.config ▸ h⟩
    cases hes _ hm
  | stop =>
    simp only [step?] at h
    split at h
    · cases h; exact passing_of_eq rfl rfl fun h => h
    · cases h
  | abandon => cases h; exact passing_of_eq rfl rfl fun h => h
  | halt => cases h; exact passing_of_eq rfl rfl fun h => h

end ChatBridge.Worker
