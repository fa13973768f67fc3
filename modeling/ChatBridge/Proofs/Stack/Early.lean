import ChatBridge.Proofs.Bridge.Readiness
import ChatBridge.Proofs.Stack.Invoke
import ChatBridge.Proofs.Worker.Founding

/-!
# Nobody comes too early

A worker without an agent turns requests away. A client never meets that answer: only a call that has
seen the client ready sends such a request, the client is ready only after a response to the first
call, and the worker gives that response only when it has an agent, which it keeps. A late answer to a
first call that has timed out leaves the client not ready, so nothing follows it.
-/

namespace ChatBridge

/-! ## Waiting for the agent -/

/-- A call that only waits for the agent has no request, and hears nothing from the worker. -/
def Call.Unheard (call : Call) : Prop :=
  call.errand = .awaitReady → call.id = none ∧ ∀ f, call.phase ≠ .finished (.error (.worker f))

theorem unheard_of_change {c : Client} {a : Client.Action} {n : Nat} {x : Option Call} {call' : Call}
    (h : Client.Change c a n x (some call')) (hs : ∀ call, x = some call → call.Shaped)
    (hu : ∀ call, x = some call → call.Unheard) : call'.Unheard := by
  intro he
  -- without an id a call has not entered the table
  have absent {call : Call} (hx : x = some call) (herr : call.errand = .awaitReady)
      (hp : call.phase.isOpen = true ∨ call.phase = .late) : False := by
    have hid := Client.id_of_shaped (hs call hx) hp
    rw [(hu call hx herr).1] at hid
    cases hid
  cases h with
  | kept call _ => exact hu call' rfl he
  | made e _ => exact ⟨rfl, nofun⟩
  | dismissed call r _ _ hr =>
    refine ⟨(hu call rfl he).1, fun f hf => ?_⟩
    rcases hr with ⟨rfl, _⟩ | rfl
    · cases hf
    · cases hf
  | registered call id _ hm _ =>
    have hmsg := Client.message?_of_mayRegister hm
    rw [show call.errand = .awaitReady from he] at hmsg
    cases hmsg
  | took call r _ hp _ => exact (absent rfl he (.inl (by rw [hp]; rfl))).elim
  | tookLate call _ hp => exact (absent rfl he (.inr hp)).elim
  | answered call _ _ _ _ _ _ _ _ => exact hu call rfl he
  | dropped call _ _ _ => exact hu call rfl he
  | sent call _ _ _ _ _ => exact ⟨(hu call rfl he).1, nofun⟩
  | unsent call _ _ _ => exact ⟨(hu call rfl he).1, nofun⟩
  | expired call _ _ => exact ⟨(hu call rfl he).1, nofun⟩
  | timedOut call _ _ _ _ _ _ _ _ => exact ⟨(hu call rfl he).1, nofun⟩
  | late call _ _ _ _ _ => exact ⟨(hu call rfl he).1, nofun⟩
  | cancelled call _ _ _ => exact ⟨(hu call rfl he).1, nofun⟩

/-! ## The answer that is never given -/

/-- A request that finds an agent, if it needs one, does not end by being turned away. -/
theorem Row.not_ends_early {r : Row} (h : r.kind ≠ initKind → r.config.isSome) :
    ¬ r.Ends (some (.error r.id .agentNotInitialized)) := by
  intro hend
  by_cases hk : r.kind = initKind
  · generalize he : some (Envelope.error r.id .agentNotInitialized) = x at hend
    cases hend with
    | unknown hk' _ => exact hk' hk
    | early c hk' _ _ => exact hk' hk
    | returned c config result hr _ _ => exact hr.kind hk
    | crashed c config hr _ => exact hr.kind hk
    | _ => cases he
  · obtain ⟨config, hconf⟩ := Option.isSome_iff_exists.mp (h hk)
    cases hc : Capability.ofKind? r.kind with
    | none => exact not_ends_of_unanswerable (.inl ⟨hk, hc⟩) hend
    | some c => exact Worker.not_turned_away ⟨hk, hc, hconf⟩ hend

namespace Stack

def put (x : Step Stack Action) : List (Nat × Envelope) :=
  match x.action with
  | .client a => Client.put ⟨x.before.client, a, x.after.client⟩
  | _ => []

variable {s : Stack} {ss : History} {n : Nat} {call : Call} {rows : List Row}
  {id kind : String} {payload : Json}

namespace Tied

theorem config?_of_message (t : Tied rows s) (hc : s.client.calls[n]? = some call)
    (hid : call.id = some id) (hm : call.errand.message? = some (kind, payload))
    (hk : kind ≠ initKind) : s.worker.config?.isSome := by
  cases he : call.errand with
  | setUp config =>
    rw [he] at hm
    cases hm
    exact absurd rfl hk
  | awaitReady => rw [he] at hm; cases hm
  | request kind' payload' => exact t.asked hc he (by rw [hid]; rfl)

theorem config?_of_request (t : Tied rows s) (h : .request id kind payload ∈ requests rows s)
    (hk : kind ≠ initKind) : s.worker.config?.isSome := by
  obtain ⟨n, call, hc, _, _, _, _, hid, hm, heq⟩ := t.sent h
  cases heq
  exact t.config?_of_message hc hid hm hk

theorem not_has_early {lost : Prop} (t : Tied rows s) (l : Ledger lost rows s.worker)
    (hc : s.client.calls[n]? = some call) (he : call.errand ≠ .awaitReady) :
    ¬ call.Has (.error .agentNotInitialized) := by
  intro hx
  obtain ⟨r, hr, _, hend⟩ := t.row_of_has l hc he hx
  exact Row.not_ends_early (t.served hr) hend

end Tied

section
variable {config : AgentConfig} {timeout : Nat} {disk : Option DataDir} {now : UInt64}
  (run : Run step? ⟨.connect config timeout, .start disk now⟩ ss s)
include run

theorem isSome_agent_of_put {x : Step Stack Action} (hx : x ∈ ss)
    (h : (n, .request id kind payload) ∈ put x) (hk : kind ≠ initKind) :
    x.before.worker.agent.isSome := by
  obtain ⟨pre, hpre, hstep⟩ := run.before_of_mem hx
  obtain ⟨before, action, after⟩ := x
  cases action with
  | client a =>
    have hstep : before.step? (.client a) = some after := hstep
    cases moved_of_step hstep with
    | client _ a' c hx' ha' hc =>
      have ha : a = a' := by
        rcases hx' with hx' | hx' | hx'
        · exact Action.client.inj hx'
        · cases hx'
        · cases hx'
      subst ha
      have h : (n, .request id kind payload) ∈ Client.put ⟨before.client, a, c⟩ := h
      rcases Client.put_of_step hc with ⟨_, hput⟩ | ⟨m, call, _, _, _, _, hcall, _, hid, hm, _, _, hput⟩
      · rw [hput] at h
        cases h
      · rw [hput] at h
        cases List.mem_singleton.mp h
        have hconf := (tied_of_run hpre).config?_of_message hcall hid hm hk
        rwa [Worker.config?, Option.isSome_map] at hconf
  | _ => cases h

theorem unheard_of_run (hc : s.client.calls[n]? = some call) : call.Unheard := by
  induction run generalizing n call with
  | nil =>
    cases n with
    | zero => cases hc; nofun
    | succ n => cases hc
  | @snoc ss s x s' run h ih =>
    cases moved_of_step h with
    | client _ a c _ _ hstep =>
      have hch := Client.change_of_step hstep n
      rw [show c.calls[n]? = some call from hc] at hch
      exact unheard_of_change hch (fun _ => (tied_of_run run).table.shaped) fun _ => ih
    | worker a w hw => exact ih hc
    | request e rest he => exact ih hc
    | reply e rest he => exact ih hc

theorem result?_ne_early {r : CallResult} (h : s.client.result? n = some r) :
    r ≠ .error (.worker .agentNotInitialized) := by
  rintro rfl
  obtain ⟨call, hc, hres⟩ := Option.bind_eq_some_iff.mp h
  have hp : call.phase = .finished (.error (.worker .agentNotInitialized)) := by
    unfold Call.result? at hres
    split at hres
    · rename_i hp; rw [hp, Option.some.inj hres]
    · cases hres
  by_cases he : call.errand = .awaitReady
  · exact (unheard_of_run run hc he).2 _ hp
  · have l := Worker.ledger_of_run (worker_of_run run)
    exact (tied_of_run run).not_has_early l hc he (.inr ⟨_, hp, rfl⟩)

end

/-! ## Main statement -/

/-- No call ends with the news that there is no agent, and nobody who reads a result reads that from
it. Whenever a call sends a request that is not for setting up the agent, the worker has its agent,
and it has it as long as such a request is on its way and when it is received; no request at all gets
that answer. -/
theorem never_turned_away {config : AgentConfig} {timeout : Nat} {disk : Option DataDir}
    {now : UInt64} (run : Run step? ⟨.connect config timeout, .start disk now⟩ ss s) :
    (∀ n r, s.client.result? n = some r → r ≠ .error (.worker .agentNotInitialized) ∧
      ∀ t : RequestType, t.readResult r ≠ .error (.worker .agentNotInitialized)) ∧
    (∀ x ∈ ss, ∀ n id kind payload, (n, .request id kind payload) ∈ put x → kind ≠ initKind →
      x.before.worker.agent.isSome) ∧
    (∀ id kind payload, .request id kind payload ∈ s.worker.inbox ++ s.client.outbox →
      kind ≠ initKind → s.worker.agent.isSome) ∧
    (∀ r ∈ ledger ss, (r.kind ≠ initKind → r.config.isSome) ∧
      .error r.id .agentNotInitialized ∉ r.replies) := by
  have t := tied_of_run run
  have l := Worker.ledger_of_run (worker_of_run run)
  refine ⟨fun n r hr => ⟨result?_ne_early run hr, fun t ht => ?_⟩, fun x hx n id kind payload => ?_,
    fun id kind payload h hk => ?_, fun r hr => ⟨t.served hr, fun hmem => ?_⟩⟩
  · cases r with
    | ok v =>
      unfold RequestType.readResult at ht
      cases hv : t.responseCodec.ofValue v with
      | ok a => simp [hv, Except.bind, Except.mapError] at ht
      | error x => simp [hv, Except.bind, Except.mapError] at ht
    | error b =>
      cases ht
      exact result?_ne_early run hr rfl
  · exact isSome_agent_of_put run hx
  · have hconf := t.config?_of_request (List.mem_append_right _ h) hk
    rwa [Worker.config?, Option.isSome_map] at hconf
  · rcases Row.replies_of_stands (l.stands hr) with hnil | ⟨e, he, _, _, hend⟩
    · rw [hnil] at hmem
      cases hmem
    · rw [he] at hmem
      cases List.mem_singleton.mp hmem
      exact Row.not_ends_early (t.served hr) hend

/-- A request made at once waits, goes out after the agent is there and is answered. Where setting up
has timed out, the late response makes the agent no use: the request comes back unsent. -/
theorem never_turned_away_of_early_request :
    (∃ ss s, Run step? ⟨.connect .standard 1000, .start none 0⟩ ss s ∧
      (∃ x ∈ ss, (1, .request "b" "markAsOnline" .null) ∈ put x ∧
        x.before.worker.agent.isSome) ∧
      ∃ r, s.client.result? 1 = some r ∧ r ≠ .error (.worker .agentNotInitialized)) ∧
    (∃ ss s, Run step? ⟨.connect .standard 1000, .start none 0⟩ ss s ∧
      s.client.result? 0 = some (.error (.timeout "init" "a" 1000)) ∧ s.worker.agent.isSome ∧
      ∃ r, s.client.result? 1 = some r ∧ r = .error .notReady ∧
        r ≠ .error (.worker .agentNotInitialized)) := by
  constructor
  · have run : ∃ ss d d' tt s r, Run step? ⟨.connect .standard 1000, .start none 0⟩ ss d ∧
        d.step? (.client (.send 1)) = some d' ∧ Run step? d' tt s ∧
        put ⟨d, .client (.send 1), d'⟩ = [(1, .request "b" "markAsOnline" .null)] ∧
        s.client.result? 1 = some r :=
      ⟨_, _, _, _, _, _, .of_play [.client (.call (.request "markAsOnline" .null)),
        .client (.register 0 "a"), .client (.send 0), .carryRequest, .worker .receive,
        .worker (.provide (.ok (some ⟨"me"⟩))), .carryReply, .client .handle, .client (.take 0),
        .client (.register 1 "b")] rfl, rfl, .of_play [.carryRequest, .worker .receive,
        .worker (.run 0), .worker (.endCall 0 .crashed), .carryReply, .client .handle,
        .client (.take 1)] rfl, rfl, rfl⟩
    obtain ⟨ss, d, d', tt, s, r, run, hstep, run', hput, hr⟩ := run
    have run := (run.snoc hstep).append run'
    have hx : ⟨d, .client (.send 1), d'⟩ ∈ ss ++ [⟨d, .client (.send 1), d'⟩] ++ tt := by simp
    have hmem : (1, .request "b" "markAsOnline" .null) ∈ put ⟨d, .client (.send 1), d'⟩ := by
      rw [hput]
      exact List.mem_singleton.mpr rfl
    obtain ⟨hresults, hputs, _⟩ := never_turned_away run
    exact ⟨_, s, run, ⟨_, hx, hmem, hputs _ hx _ _ _ _ hmem (by decide)⟩, r, hr, (hresults 1 r hr).1⟩
  · have run : ∃ ss s r, Run step? ⟨.connect .standard 1000, .start none 0⟩ ss s ∧
        s.client.result? 0 = some (.error (.timeout "init" "a" 1000)) ∧ s.worker.agent.isSome ∧
        s.client.result? 1 = some r ∧ r = .error .notReady :=
      ⟨_, _, _, .of_play [.client (.call (.request "markAsOnline" .null)),
        .client (.register 0 "a"), .client (.send 0), .client (.expire 0), .client (.withdraw 0),
        .carryRequest, .worker .receive, .worker (.provide (.ok (some ⟨"me"⟩))), .carryReply,
        .client .handle, .client (.dismiss 1)] rfl, rfl, rfl, rfl, rfl⟩
    obtain ⟨ss, s, r, run, h0, hagent, h1, hr⟩ := run
    exact ⟨ss, s, run, h0, hagent, r, h1, hr, ((never_turned_away run).1 1 r h1).1⟩

end Stack
end ChatBridge
