import ChatBridge.Proofs.Runtime.Rest

/-!
# Shutting down

When a runtime is shut down, answers may be on their way, requests may lie in the channel or be
under way at the worker, and calls may wait for the agent. The channels close in order, so an answer
that has been given is met by its call unless the call has run out of time first, and whoever is
left learns that nothing will come. A call that is made when all is over cannot send its request.

A call runs out of time when it takes its own entry off the table: until then its answer may still
come, and then counts.
-/

namespace ChatBridge.Runtime

open Stack (Heard GaveUp sentBack)

variable {r r' r₀ : Runtime} {x : Action} {rr : History} {n : Nat} {id : String} {call : Call}
  {res : CallResult}

/-! ## How calls end -/

/-- What the call `n` has ended with after a run. Without an id it has never sent a request. With
one it has got its answer, if that was handled while the call waited; a timeout, if it ran out of
time; and otherwise the news that no answer will come, and none was given. -/
structure EndsAsDue (rr : History) (r : Runtime) (n : Nat) (call : Call) (res : CallResult) :
    Prop where
  unsent : call.id = none → res = .error .notReady ∨ call.errand = .awaitReady ∧ res = .ok .null
  answered : ∀ id y, call.id = some id → Heard (stackSteps rr) n id y →
    .answering id y ∈ sentBack (stackSteps rr) ∧ res = y.mapError .worker
  timedOut : ∀ id, call.id = some id → GaveUp (stackSteps rr) n id →
    ∃ kind span, res = .error (.timeout kind id span)
  cutOff : ∀ id, call.id = some id → (∀ y, ¬ Heard (stackSteps rr) n id y) →
    ¬ GaveUp (stackSteps rr) n id → res = .error .disconnected ∧
      r.stack.client.outboxOpen = false ∧ ∀ y, .answering id y ∉ sentBack (stackSteps rr)

section
variable {config : AgentConfig} {timeout : Nat} {disk : Option DataDir} {now : UInt64}
  (run : Run step? ⟨⟨.connect config timeout, .start disk now⟩, .running⟩ rr r)
include run

theorem outboxOpen_of_mem {y : Step Stack Stack.Action} (hy : y ∈ stackSteps rr)
    (ho : y.before.client.outboxOpen = false) : r.stack.client.outboxOpen = false := by
  have hstack := stack_of_run run
  obtain ⟨pre, post, hsplit⟩ := List.append_of_mem hy
  obtain ⟨hpre, hstep⟩ := hstack.before_of_split hsplit
  exact Stack.client_keeps (P := fun c => c.outboxOpen = false) (fun _ _ => Iff.rfl)
    Client.outboxOpen_stays (Stack.sealed_of_run hpre)
    ((Run.single hstep).append (hstack.after_of_split hsplit)) ho

theorem outboxOpen_of_cutOff (hc : r.stack.client.calls[n]? = some call)
    (hid : call.id = some id) (hp : call.phase = .finished res)
    (hh : ∀ y, ¬ Heard (stackSteps rr) n id y) (hg : ¬ GaveUp (stackSteps rr) n id) :
    res = .error .disconnected ∧ r.stack.client.outboxOpen = false := by
  obtain ⟨hres, hend⟩ := Stack.result_of_neither (stack_of_run run) hc hid hp hh hg
  refine ⟨hres, ?_⟩
  rcases hend with ⟨y, hy, ha⟩ | ⟨y, hy, _, ho⟩
  · obtain ⟨x, hx, hxa, hbefore, _⟩ := mem_stackSteps.mp hy
    obtain ⟨pre, hpre, hstep⟩ := run.before_of_mem hx
    rw [hxa, ha] at hstep
    obtain ⟨c, hclient, _⟩ := client_eq_some hstep
    obtain ⟨_, _, hi, _⟩ := Client.endListening?_eq_some hclient
    have f := wired_of_run (wired_start config timeout disk now) hpre
    exact outboxOpen_of_mem run hy (hbefore ▸ f.inOrder hi)
  · exact outboxOpen_of_mem run hy ho

theorem endsAsDue_of_run (hc : r.stack.client.calls[n]? = some call)
    (hp : call.phase = .finished res) : EndsAsDue rr r n call res where
  unsent hid :=
    Client.unregistered_of_run (Stack.client_of_run (stack_of_run run)) hc hid res hp
  answered _ _ hid h :=
    ⟨Stack.given_of_heard (stack_of_run run) h,
      Stack.result_of_heard (stack_of_run run) hc hid hp h⟩
  timedOut _ _ h := Stack.result_of_gaveUp (stack_of_run run) hc hp h
  cutOff _ hid hh hg := by
    obtain ⟨hres, ho⟩ := outboxOpen_of_cutOff run hc hid hp hh hg
    exact ⟨hres, ho, fun _ => Stack.not_given (stack_of_run run) hc hid hp hh hg⟩

theorem ended_at_rest (hc : r.stack.client.calls[n]? = some call) (hp : ¬ call.InProgress) :
    (∃ res, call.phase = .finished res) ∨ ∃ x ∈ rr, x.action = .stack (.client (.cancel n)) := by
  cases hphase : call.phase with
  | finished res => exact .inl ⟨res, rfl⟩
  | cancelled =>
    obtain ⟨z, hz, ha⟩ :=
      Client.cancelled_of_run (Stack.client_of_run (stack_of_run run)) hc hphase
    have hsteps := Stack.exists_clientStep (stackSteps rr) (a := .cancel n) rfl
      (P := fun _ => True) fun _ _ => Iff.rfl
    obtain ⟨y, hy, hya, _⟩ := hsteps.mp ⟨z, hz, ha, trivial⟩
    obtain ⟨x, hx, hxa, _⟩ := mem_stackSteps.mp hy
    exact .inr ⟨x, hx, hxa.trans (congrArg Action.stack hya)⟩
  | _ => exact absurd ⟨by rw [hphase]; nofun, by rw [hphase]; nofun⟩ hp

theorem registered_of_pending {pre post : History} {x : Step Runtime Action}
    (hrr : rr = pre ++ x :: post) (ha : x.action = .stack (.client .endListening))
    (hmem : (id, n) ∈ r.stack.client.pending) :
    ∃ y ∈ post, y.action = .stack (.client (.register n id)) := by
  obtain ⟨hpre, hstep⟩ := run.before_of_split hrr
  rw [ha] at hstep
  have f := (wired_of_run (wired_start config timeout disk now) hpre).step hstep
  have hempty : x.after.stack.client.pending = [] := by
    obtain ⟨c, hclient, hafter⟩ := client_eq_some hstep
    obtain ⟨_, _, _, rfl⟩ := Client.endListening?_eq_some hclient
    rw [hafter]
  have t := (wired_of_run (wired_start config timeout disk now) run).table
  obtain ⟨call, hc, hid, _⟩ := t.entries.mp hmem
  have hw : r.stack.client.Waits n id := (Client.waits_iff hc).mpr ⟨hid, hmem⟩
  rcases Stack.waits_or_registered f.table (stack_of_run (run.after_of_split hrr)) hw with
    hold | ⟨y, hy, hya⟩
  · have hgone := hold.2
    rw [hempty] at hgone
    cases hgone
  · obtain ⟨z, hz, hza, _⟩ := mem_stackSteps.mp hy
    exact ⟨z, hz, hza.trans (congrArg Action.stack hya)⟩

theorem barred_of_late {pre post : History} {x : Step Runtime Action} {kind : String}
    {payload : Json} (hrr : rr = pre ++ x :: post) (ht : x.before.threadOver = true)
    (ha : x.action = .stack (.client (.call (.request kind payload)))) :
    r.stack.client.Barred x.before.stack.client.calls.length := by
  obtain ⟨hpre, hstep⟩ := run.before_of_split hrr
  have f := (wired_of_run (wired_start config timeout disk now) hpre).step hstep
  rw [ha] at hstep
  obtain ⟨c, hc, hafter⟩ := client_eq_some hstep
  have hbarred := Client.barred_of_call hc (threadOver_iff.mp ht).2
  refine Stack.client_keeps (P := fun c => c.Barred x.before.stack.client.calls.length)
    (fun _ _ => ⟨fun h => ⟨h.outboxOpen, h.call⟩, fun h => ⟨h.outboxOpen, h.call⟩⟩)
    (fun hs h => h.step hs) f.sealed (stack_of_run (run.after_of_split hrr)) ?_
  rw [hafter]
  exact hbarred

end

/-! ## Main statement -/

/-- Whatever has happened when a runtime is shut down, and whatever happens then:

* Every call that has ended has ended as it is due.
* At rest all calls have ended, unless they have been given up, and the table is empty. Once the
  runtime has been shut down, no time has to run out for that.
* The steps that lead there are bounded by what is left, what is called and what the worker says.
* After listening has ended, the table holds only calls that have registered since.
* A request made after the runtime has been shut down ends without an answer and leaves no entry.
* A runtime that has been shut down stays so: the thread of the worker is over and says nothing any
  more, and to shut down again changes nothing. -/
theorem settles_of_shutDown {config : AgentConfig} {timeout : Nat} {d : DataDir} {now : UInt64}
    (h : start config timeout d now = .ok r₀) (run : Run step? r₀ rr r) :
    (∀ n call res, r.stack.client.calls[n]? = some call → call.phase = .finished res →
      EndsAsDue rr r n call res) ∧
    (∀ timed, r.AtRest timed → timed = true ∨ r.stage = .over →
      (∀ n call, r.stack.client.calls[n]? = some call → (∃ res, call.phase = .finished res) ∨
        ∃ x ∈ rr, x.action = .stack (.client (.cancel n))) ∧
      r.stack.client.pending = []) ∧
    (∀ timed tt r', Run step? r tt r' → r'.left + advanced timed tt ≤
      r.left + 5 * called tt + 2 * (sentBack (stackSteps tt)).length) ∧
    (∀ pre x post, rr = pre ++ x :: post → x.action = .stack (.client .endListening) →
      ∀ id n, (id, n) ∈ r.stack.client.pending →
        ∃ y ∈ post, y.action = .stack (.client (.register n id))) ∧
    (∀ pre x post kind payload, rr = pre ++ x :: post → x.before.stage = .over →
      x.action = .stack (.client (.call (.request kind payload))) →
      ∃ call, r.stack.client.calls[x.before.stack.client.calls.length]? = some call ∧
        (∀ res, call.phase = .finished res →
          res = .error .disconnected ∨ res = .error .notReady) ∧
        (¬ call.InProgress →
          ∀ id, (id, x.before.stack.client.calls.length) ∉ r.stack.client.pending)) ∧
    (r.stage = .over → r.threadOver = true ∧ ∀ tt r', Run step? r tt r' →
      r'.stage = .over ∧ r'.step? .shutDown = some r' ∧ sentBack (stackSteps tt) = []) := by
  obtain ⟨disk, rfl⟩ := start_eq_ok h
  have f₀ := wired_start config timeout (some disk) now
  have f := wired_of_run f₀ run
  refine ⟨fun n call res => endsAsDue_of_run run, fun timed hrest hend => ?_,
    fun timed tt r' run' => advanced_of_run run' timed, fun pre x post hrr ha id n =>
    registered_of_pending run hrr ha, fun pre x post kind payload hrr hs ha => ?_, fun hs => ?_⟩
  · obtain ⟨hover, hpending⟩ := over_of_atRest hrest run (hend.imp_right f.ended)
    exact ⟨fun n call hc => ended_at_rest run hc (hover call (List.mem_of_getElem? hc)), hpending⟩
  · have hbefore := wired_of_run f₀ (run.before_of_split hrr).1
    exact (barred_of_late run hrr (hbefore.ended hs) ha).ends f.table
  · refine ⟨f.ended hs, fun tt r' run' => ?_⟩
    have hs' := over_of_run run' hs
    exact ⟨hs', shutDown_of_over hs', sentBack_of_threadOver f run' (f.ended hs)⟩

/-- When the runtime is shut down, one request is under way at the worker, one answer is on its way,
one request lies at each end of the channel, and one has run out of time; another is made
afterwards. The other time it is shut down before the agent is there. -/
theorem settles_of_shutDown_with_calls_in_flight :
    (∃ rr r₀ r, start .standard 1000 .absent 0 = .ok r₀ ∧ Run step? r₀ rr r ∧ r.stage = .over ∧
      r.AtRest false ∧ r.stack.client.pending = [] ∧
      r.stack.client.calls.map Call.result? = [some (.ok .null), some (.error .disconnected),
        some (.ok (.obj [])), some (.error .disconnected), some (.error .disconnected),
        some (.error (.timeout "pinChat" "e" 1000)), some (.error .disconnected)] ∧
      (∃ y, Heard (stackSteps rr) 2 "b" y) ∧ GaveUp (stackSteps rr) 5 "e") ∧
    ∃ rr r₀ r, start .standard 1000 .absent 0 = .ok r₀ ∧ Run step? r₀ rr r ∧ r.stage = .over ∧
      r.AtRest false ∧ r.stack.client.pending = [] ∧
      r.stack.client.calls.map Call.result? =
        [some (.error .disconnected), some (.error .notReady)] := by
  constructor
  · have run : ∃ rr r₀ r answered late, start .standard 1000 .absent 0 = .ok r₀ ∧
        Run step? r₀ rr r ∧ r.stage = .over ∧ r.left = 0 ∧
        r.stack.client.calls.map Call.result? = [some (.ok .null), some (.error .disconnected),
          some (.ok (.obj [])), some (.error .disconnected), some (.error .disconnected),
          some (.error (.timeout "pinChat" "e" 1000)), some (.error .disconnected)] ∧
        r.stack.client.calls[2]? = some answered ∧ answered.id = some "b" ∧
        answered.phase = .finished (.ok (.obj [])) ∧
        r.stack.client.calls[5]? = some late ∧ late.id = some "e" ∧
        late.phase = .finished (.error (.timeout "pinChat" "e" 1000)) := by
      refine ⟨_, _, _, _, _, rfl, .of_play [.stack (.client (.register 0 "i")),
        .stack (.client (.send 0)), .stack .carryRequest, .stack (.worker .receive),
        .stack (.worker (.provide (.ok (some ⟨"me"⟩)))), .stack .carryReply,
        .stack (.client .handle), .stack (.client (.take 0)),
        .stack (.client (.call ((RequestType.ofCapability .checkUsername).errand "ann"))),
        .stack (.client (.call ((RequestType.ofCapability .getAllCachedUsers).errand ()))),
        .stack (.client (.register 1 "a")), .stack (.client (.send 1)),
        .stack (.client (.register 2 "b")), .stack (.client (.send 2)),
        .stack .carryRequest, .stack .carryRequest, .stack (.worker .receive),
        .stack (.worker .receive), .stack (.worker (.run 0)), .stack (.worker (.run 1)),
        .stack (.worker (.run 1)), .stack (.client (.call (.request "pinChat" .null))),
        .stack (.client (.register 3 "c")), .stack (.client (.send 3)), .stack .carryRequest,
        .stack (.client (.call (.request "pinChat" .null))),
        .stack (.client (.register 4 "d")), .stack (.client (.send 4)),
        .stack (.client (.call (.request "pinChat" .null))),
        .stack (.client (.register 5 "e")), .stack (.client (.send 5)),
        .stack (.client (.expire 5)), .stack (.client (.withdraw 5)),
        .shutDown, .stack (.worker .stop), .stack (.worker .halt), .stack .closeRequests, .join,
        .shutDown, .stack .carryReply, .stack (.client .handle), .stack (.client (.take 2)),
        .stack .closeReplies, .stack (.client .endListening), .stack (.client (.take 1)),
        .stack (.client (.take 3)), .stack (.client (.take 4)),
        .stack (.client (.call (.request "pinChat" .null))), .stack (.client (.register 6 "f")),
        .stack (.client (.send 6))] rfl, rfl, rfl, rfl, rfl, rfl, rfl, rfl, rfl, rfl⟩
    obtain ⟨rr, r₀, r, answered, late, hstart, run, hs, hleft, hresults, hc, hid, hp, hl, hlid,
      hlp⟩ := run
    obtain ⟨hends, hrests, _⟩ := settles_of_shutDown hstart run
    have hrest : r.AtRest false := atRest_of_left hleft
    have hanswered := hends 2 answered _ hc hp
    have hlate := hends 5 late _ hl hlp
    refine ⟨rr, r₀, r, hstart, run, hs, hrest, (hrests false hrest (.inr hs)).2, hresults, ?_, ?_⟩
    · by_contra hnot
      have hgave : ¬ GaveUp (stackSteps rr) 2 "b" := fun hg => by
        obtain ⟨_, _, htime⟩ := hanswered.timedOut "b" hid hg
        cases htime
      cases (hanswered.cutOff "b" hid (not_exists.mp hnot) hgave).1
    · by_contra hnot
      have hheard : ∀ y, ¬ Heard (stackSteps rr) 5 "e" y := fun y hy => by
        have hres := (hlate.answered "e" y hlid hy).2
        cases y <;> cases hres
      cases (hlate.cutOff "e" hlid hheard hnot).1
  · have run : ∃ rr r₀ r, start .standard 1000 .absent 0 = .ok r₀ ∧ Run step? r₀ rr r ∧
        r.stage = .over ∧ r.left = 0 ∧ r.stack.client.calls.map Call.result? =
          [some (.error .disconnected), some (.error .notReady)] :=
      ⟨_, _, _, rfl, .of_play [.stack (.client (.call (.request "pinChat" .null))),
        .stack (.client (.register 0 "i")), .stack (.client (.send 0)), .shutDown,
        .stack (.worker .stop), .stack (.worker .halt), .stack .closeRequests, .join,
        .stack .closeReplies, .stack (.client .endListening), .stack (.client (.take 0)),
        .stack (.client (.dismiss 1))] rfl, rfl, rfl, rfl⟩
    obtain ⟨rr, r₀, r, hstart, run, hs, hleft, hresults⟩ := run
    obtain ⟨_, hrests, _⟩ := settles_of_shutDown hstart run
    have hrest : r.AtRest false := atRest_of_left hleft
    exact ⟨rr, r₀, r, hstart, run, hs, hrest, (hrests false hrest (.inr hs)).2, hresults⟩

end ChatBridge.Runtime
