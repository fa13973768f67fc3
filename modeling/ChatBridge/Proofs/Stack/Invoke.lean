import ChatBridge.Proofs.Agent.Faults
import ChatBridge.Proofs.Capability
import ChatBridge.Proofs.Stack.Tied
import ChatBridge.Proofs.Worker.Started

/-!
# What the caller of a typed request gets

The operation of a request runs at most once, and a reply tells the caller what that one run has
returned: neither the way to the worker nor the way back changes anything of it.
-/

namespace ChatBridge

/-! ## Operations on typed requests -/

namespace Operation

variable {config : AgentConfig} {c : Capability} {req : c.Request} {told : List Told}

theorem handle_toValue (config : AgentConfig) (c : Capability) (req : c.Request) :
    handle config c (c.requestCodec.toValue req) =
      (serve config c req).bind fun y => .done (c.responseCodec.toValue y) := by
  unfold handle
  rw [c.ofValue_request req]
  rfl

theorem returns_handle {x : Except Fault Json} :
    (handle config c (c.requestCodec.toValue req)).Returns told x ↔
      ∃ y, (serve config c req).Returns told y ∧ x = y.map c.responseCodec.toValue := by
  rw [handle_toValue]
  exact Program.returns_map _ x

theorem ofOperation_of_returns {f : Fault} (h : (serve config c req).Returns told (.error f)) :
    f.OfOperation := (plain_serve config c req).of_returns h

end Operation

theorem readResult_of_answer {c : Capability} {res : CallResult} {y : Except Fault c.Response}
    (h : answerOf? res = some (y.map c.responseCodec.toValue)) :
    (RequestType.ofCapability c).readResult res = y.mapError BridgeError.worker := by
  cases y with
  | ok a =>
    have hres : res = .ok (c.responseCodec.toValue a) := by
      unfold answerOf? at h
      split at h <;> cases h
      rfl
    subst hres
    show (c.responseCodec.ofValue _).mapError _ = _
    rw [c.ofValue_response a]
    rfl
  | error f =>
    have hres : res = .error (.worker f) := by
      unfold answerOf? at h
      split at h <;> cases h
      rfl
    subst hres
    rfl

/-- The row is that of the request `req`, which an agent with this configuration has served. -/
structure Row.Serves (r : Row) (config : AgentConfig) (c : Capability) (req : c.Request) : Prop where
  run : r.RunBy c config
  payload : r.payload = c.requestCodec.toValue req

/-- The task runs the operation for `req` and writes what it returns. -/
def Task.Runs (t : Task) (config : AgentConfig) (c : Capability) (req : c.Request) : Prop :=
  t.program = (Operation.serve config c req).bind fun y => .done (c.responseCodec.toValue y)

namespace Row

variable {r : Row} {config : AgentConfig} {c : Capability} {req : c.Request} {x : Except Fault Json}

theorem Serves.start? (h : r.Serves config c req) : r.start? = some (r.id,
    (Operation.serve config c req).bind fun y => .done (c.responseCodec.toValue y)) := by
  rw [start?_of_runBy h.run, h.payload, Operation.handle_toValue]

theorem Serves.answer (h : r.Serves config c req) (hx : r.Ends (some (.answering r.id x))) :
    (r.crashed = false ∧ ∃ y, (Operation.serve config c req).Returns r.told y ∧
      x = y.map c.responseCodec.toValue) ∨
    (r.crashed = true ∧ x = .error (.internal (c.kind ++ " handler panicked"))) := by
  have inj : ∀ {x x' : Except Fault Json},
      Envelope.answering r.id x = .answering r.id x' → x = x' := by
    intro x x' h
    cases x <;> cases x' <;> cases h <;> rfl
  rcases ends_of_runBy h.run hx with ⟨hcr, result, hret, he⟩ | ⟨hcr, he⟩
  · rw [h.payload] at hret
    obtain ⟨y, hy, rfl⟩ := Operation.returns_handle.mp hret
    exact .inl ⟨hcr, y, hy, inj (Option.some.inj he)⟩
  · rw [← Worker.kind_of_ofKind? h.run.capability] at he
    exact .inr ⟨hcr, inj (Option.some.inj he)⟩

theorem Serves.not_invalidPayload (h : r.Serves config c req) (k m : String) :
    ¬ r.Ends (some (.error r.id (.invalidPayload k m))) := by
  intro hend
  rcases h.answer (x := .error (.invalidPayload k m)) hend with ⟨_, y, hy, hxy⟩ | ⟨_, hx⟩
  · cases y with
    | ok a => cases hxy
    | error f => cases hxy; exact Operation.ofOperation_of_returns hy
  · cases hx

end Row

namespace Stack

def rowsOf (ss : History) (id : String) : List Row := (ledger ss).filter fun r => r.id == id

def tasksOf (ss : History) (id : String) : List Task :=
  (Worker.started (ss.filterMap turn?)).filter fun t => t.correlationId == id

theorem starts_tasksOf {config : AgentConfig} {timeout : Nat} {disk : Option DataDir} {now : UInt64}
    {ss : History} {s : Stack} (run : Run step? ⟨.connect config timeout, .start disk now⟩ ss s)
    (id : String) : (tasksOf ss id).map Task.start = (rowsOf ss id).filterMap Row.start? := by
  have hid : ∀ r : Row, (r.start?).filter (fun x => x.1 == id) =
      if (r.id == id) = true then r.start? else none := by
    intro r
    unfold Row.start?
    split
    · simp
    · split
      · simp [Option.filter]
      · simp
  have hs := Worker.starts_of_run (worker_of_run run)
  unfold tasksOf rowsOf ledger
  rw [List.filterMap_filter, ← funext hid, ← List.filter_filterMap, ← hs, List.filter_map]
  rfl

namespace Tied

variable {rows : List Row} {s : Stack} {n : Nat} {call : Call} {r : Row} {c : Capability}
  {req : c.Request}

theorem length_rows (t : Tied rows s) (id : String) :
    (rows.filter fun r => r.id == id).length ≤ 1 := by
  have hn : (rows.map fun r => some r.id).Nodup := by
    have h := t.distinct
    rw [requests, List.map_append, List.map_map] at h
    exact (List.nodup_append.mp h).1
  have hcount := List.nodup_iff_count.mp hn (some id)
  rw [List.count, List.countP_map, List.countP_eq_length_filter] at hcount
  exact hcount

theorem message?_of_row (t : Tied rows s) (hc : s.client.calls[n]? = some call)
    (hid : call.id = some r.id) (hr : r ∈ rows) :
    call.errand.message? = some (r.kind, r.payload) := by
  have hmem : r.request ∈ requests rows s := List.mem_append_left _ (List.mem_map_of_mem hr)
  obtain ⟨m, other, ho, hsent⟩ := t.sent hmem
  have hmn := t.table.distinct ho hsent.correlationId?.1.symm hc hid
  subst hmn
  cases hc.symm.trans ho
  obtain ⟨_, id, kind, payload, _, hm, heq⟩ := hsent
  cases heq
  exact hm

theorem serves_of_row (t : Tied rows s) (hc : s.client.calls[n]? = some call)
    (he : call.errand = (RequestType.ofCapability c).errand req) (hid : call.id = some r.id)
    (hr : r ∈ rows) : ∃ config, r.Serves config c req := by
  have hm := t.message?_of_row hc hid hr
  rw [he] at hm
  obtain ⟨hk, hp⟩ := Prod.mk.inj (Option.some.inj hm)
  have hk : c.kind = r.kind := hk
  have hinit : r.kind ≠ initKind := hk ▸ c.kind_ne_init
  obtain ⟨config, hconf⟩ := Option.isSome_iff_exists.mp (t.served hr hinit)
  exact ⟨config, ⟨hinit, hk ▸ c.ofKind?_kind, hconf⟩, hp.symm⟩

theorem row_of_has {lost : Prop} (t : Tied rows s) (l : Ledger lost rows s.worker)
    (hc : s.client.calls[n]? = some call) (hm : call.errand ≠ .awaitReady) {x : Except Fault Json}
    (hx : call.Has x) :
    ∃ r ∈ rows, call.id = some r.id ∧ r.Ends (some (.answering r.id x)) := by
  obtain ⟨id, hid, hmem⟩ := t.answers hc hm hx
  obtain ⟨r, hr, hrep⟩ := List.mem_flatMap.mp hmem
  rcases Row.replies_of_stands (l.stands hr) with h | ⟨e, h, _, hrid, hend⟩
  · rw [h] at hrep; cases hrep
  · rw [h] at hrep
    cases List.mem_singleton.mp hrep
    rw [Envelope.correlationId?_answering] at hrid
    cases hrid
    exact ⟨r, hr, hid, hend⟩

theorem row_of_result {lost : Prop} (t : Tied rows s) (l : Ledger lost rows s.worker)
    (hc : s.client.calls[n]? = some call)
    (he : call.errand = (RequestType.ofCapability c).errand req) {res : CallResult}
    {x : Except Fault Json} (hp : call.phase = .finished res) (hx : answerOf? res = some x) :
    ∃ r config, r ∈ rows ∧ call.id = some r.id ∧ r.Serves config c req ∧
      ((r.crashed = false ∧ ∃ y, (Operation.serve config c req).Returns r.told y ∧
        (RequestType.ofCapability c).readResult res = y.mapError BridgeError.worker) ∨
      (r.crashed = true ∧ (RequestType.ofCapability c).readResult res =
        .error (.worker (.internal (c.kind ++ " handler panicked"))))) := by
  obtain ⟨r, hr, hid, hend⟩ := t.row_of_has l hc (by rw [he]; nofun) (.inr ⟨res, hp, hx⟩)
  obtain ⟨config, hs⟩ := t.serves_of_row hc he hid hr
  refine ⟨r, config, hr, hid, hs, ?_⟩
  rcases hs.answer hend with ⟨hcr, y, hy, rfl⟩ | ⟨hcr, rfl⟩
  · exact .inl ⟨hcr, y, hy, readResult_of_answer hx⟩
  · exact .inr ⟨hcr, readResult_of_answer (y := .error _) hx⟩

theorem readable_result {lost : Prop} (t : Tied rows s) (l : Ledger lost rows s.worker)
    (hc : s.client.calls[n]? = some call)
    (he : call.errand = (RequestType.ofCapability c).errand req) {res : CallResult}
    (hp : call.phase = .finished res) :
    (∀ k m, (RequestType.ofCapability c).readResult res ≠ .error (.worker (.invalidPayload k m))) ∧
    ∀ k x, (RequestType.ofCapability c).readResult res ≠ .error (.undecodable k x) := by
  cases hx : answerOf? res with
  | some x =>
    obtain ⟨r, config, _, _, _, ⟨_, y, hy, hres⟩ | ⟨_, hres⟩⟩ := t.row_of_result l hc he hp hx
    · rw [hres]
      cases y with
      | ok a => exact ⟨nofun, nofun⟩
      | error f =>
        refine ⟨fun k m h => ?_, nofun⟩
        cases h
        exact Operation.ofOperation_of_returns hy
    · rw [hres]
      exact ⟨nofun, nofun⟩
  | none =>
    cases res with
    | ok v => cases hx
    | error b =>
      refine ⟨fun k m h => ?_, fun k x h => ?_⟩
      · cases h; cases hx
      · cases h; exact t.readable k x hc hp

end Tied

/-! ## Main statement -/

section
variable {config : AgentConfig} {timeout : Nat} {disk : Option DataDir} {now : UInt64}
  {ss : History} {s : Stack} {n : Nat} {call : Call} {c : Capability} {req : c.Request}

theorem tasksOf_of_rowsOf (run : Run step? ⟨.connect config timeout, .start disk now⟩ ss s)
    {id : String} {r : Row} {config' : AgentConfig} (h : rowsOf ss id = [r])
    (hs : r.Serves config' c req) : ∃ t, tasksOf ss id = [t] ∧ t.Runs config' c req := by
  have hstarts := starts_tasksOf run id
  rw [h, List.filterMap_cons_some hs.start?, List.filterMap_nil] at hstarts
  obtain ⟨t, ht, hprog⟩ := List.map_eq_singleton_iff.mp hstarts
  exact ⟨t, ht, congrArg Prod.snd hprog⟩

theorem row_of_mem_tasksOf (run : Run step? ⟨.connect config timeout, .start disk now⟩ ss s)
    {id : String} {t : Task} (h : t ∈ tasksOf ss id) : ∃ r ∈ rowsOf ss id, r.start? = some t.start :=
  List.mem_filterMap.mp (starts_tasksOf run id ▸ List.mem_map_of_mem h)

theorem length_tasksOf (run : Run step? ⟨.connect config timeout, .start disk now⟩ ss s)
    (id : String) : (tasksOf ss id).length ≤ 1 := by
  have hlen : (tasksOf ss id).length = ((rowsOf ss id).filterMap Row.start?).length := by
    rw [← starts_tasksOf run id, List.length_map]
  rw [hlen]
  exact Nat.le_trans (List.length_filterMap_le _ _) ((tied_of_run run).length_rows id)

theorem rowsOf_of_mem (t : Tied (ledger ss) s) {r : Row} (hr : r ∈ ledger ss) :
    rowsOf ss r.id = [r] := by
  have hmem : r ∈ rowsOf ss r.id := List.mem_filter.mpr ⟨hr, beq_self_eq_true _⟩
  obtain ⟨q, hq⟩ := List.length_eq_one_iff.mp
    (Nat.le_antisymm (t.length_rows r.id) (List.length_pos_of_mem hmem))
  have hone : rowsOf ss r.id = [q] := hq
  rw [hone] at hmem ⊢
  rw [List.mem_singleton.mp hmem]

/-- Under the id of a call at most one request is received and at most one task started, at every
moment: the request is `req`, and the task runs its operation. If the call has ended with an answer,
there was one of both: unless the operation went down, the caller gets what it returned. No caller
hears that a request or a response could not be read. -/
theorem invoke_of_run (run : Run step? ⟨.connect config timeout, .start disk now⟩ ss s)
    (hc : s.client.calls[n]? = some call)
    (he : call.errand = (RequestType.ofCapability c).errand req) :
    (∀ id, call.id = some id → (rowsOf ss id).length ≤ 1 ∧ (tasksOf ss id).length ≤ 1 ∧
      (∀ t ∈ tasksOf ss id, ∃ config, t.Runs config c req) ∧
      ∀ r ∈ rowsOf ss id, (∃ config, r.Serves config c req) ∧
        ∀ k m, .error id (.invalidPayload k m) ∉ r.replies) ∧
    (∀ res x, call.phase = .finished res → answerOf? res = some x →
      ∃ id r t config, call.id = some id ∧ rowsOf ss id = [r] ∧ r.Serves config c req ∧
        tasksOf ss id = [t] ∧ t.Runs config c req ∧
        (r.crashed = false → ∃ y, (Operation.serve config c req).Returns r.told y) ∧
        (∀ y, r.crashed = false → (Operation.serve config c req).Returns r.told y →
          (RequestType.ofCapability c).readResult res = y.mapError BridgeError.worker) ∧
        (r.crashed = true → (RequestType.ofCapability c).readResult res =
          .error (.worker (.internal (c.kind ++ " handler panicked"))))) ∧
    (∀ res, call.phase = .finished res →
      (∀ k m, (RequestType.ofCapability c).readResult res ≠ .error (.worker (.invalidPayload k m))) ∧
      ∀ k x, (RequestType.ofCapability c).readResult res ≠ .error (.undecodable k x)) := by
  have t := tied_of_run run
  have l := Worker.ledger_of_run (worker_of_run run)
  have serves : ∀ {id r}, call.id = some id → r ∈ rowsOf ss id →
      r ∈ ledger ss ∧ r.id = id ∧ ∃ config, r.Serves config c req := by
    intro id r hid hrow
    obtain ⟨hr, hrid⟩ := List.mem_filter.mp hrow
    have hrid := eq_of_beq hrid
    exact ⟨hr, hrid, t.serves_of_row hc he (hrid ▸ hid) hr⟩
  refine ⟨fun id hid => ⟨t.length_rows id, length_tasksOf run id, fun u hu => ?_, fun r hrow => ?_⟩,
    fun res x hp hx => ?_, fun res hp => t.readable_result l hc he hp⟩
  · obtain ⟨r, hrow, hstart⟩ := row_of_mem_tasksOf run hu
    obtain ⟨_, _, config', hs⟩ := serves hid hrow
    exact ⟨config', congrArg Prod.snd (Option.some.inj (hstart.symm.trans hs.start?))⟩
  · obtain ⟨hr, rfl, config', hs⟩ := serves hid hrow
    refine ⟨⟨config', hs⟩, fun k m hm => ?_⟩
    rcases Row.replies_of_stands (l.stands hr) with h | ⟨e, h, _, _, hend⟩
    · rw [h] at hm; cases hm
    · rw [h] at hm
      cases List.mem_singleton.mp hm
      exact hs.not_invalidPayload k m hend
  · obtain ⟨r, config', hr, hid, hs, hres⟩ := t.row_of_result l hc he hp hx
    have hone := rowsOf_of_mem t hr
    obtain ⟨u, hu, hruns⟩ := tasksOf_of_rowsOf run hone hs
    refine ⟨r.id, r, u, config', hid, hone, hs, hu, hruns, fun hcr => ?_, fun y hcr hy => ?_,
      fun hcr => ?_⟩
    · rcases hres with ⟨_, y, hy, _⟩ | ⟨hcr', _⟩
      · exact ⟨y, hy⟩
      · cases hcr.symm.trans hcr'
    · rcases hres with ⟨_, y', hy', hres⟩ | ⟨hcr', _⟩
      · rw [Program.returns_unique hy hy']; exact hres
      · cases hcr.symm.trans hcr'
    · rcases hres with ⟨hcr', _⟩ | ⟨_, hres⟩
      · cases hcr.symm.trans hcr'
      · exact hres

end

/-- Two requests are under way at once, and the later one is answered first. -/
theorem invoke_of_run_of_two_requests :
    ∃ ss s call res, Run step? ⟨.connect .standard 1000, .start none 0⟩ ss s ∧
      s.client.calls[1]? = some call ∧ call.phase = .finished res ∧
      (RequestType.ofCapability .checkUsername).readResult res = .ok .success ∧
      ∃ id r t config, call.id = some id ∧ rowsOf ss id = [r] ∧
        r.Serves config .checkUsername "ann" ∧ tasksOf ss id = [t] ∧
        t.Runs config .checkUsername "ann" := by
  have run : ∃ ss s call res, Run step? ⟨.connect .standard 1000, .start none 0⟩ ss s ∧
      s.client.calls[1]? = some call ∧ call.phase = .finished res ∧
      (RequestType.ofCapability .checkUsername).readResult res = .ok .success ∧
      call.errand = (RequestType.ofCapability .checkUsername).errand "ann" ∧
      answerOf? res = some (.ok (Wire.write CheckUsernameOutcome.success)) := by
    refine ⟨_, _, _, _, .of_play [.client (.register 0 "i"), .client (.send 0), .carryRequest,
      .worker .receive, .worker (.provide (.ok (some ⟨"me"⟩))), .carryReply, .client .handle,
      .client (.take 0), .client (.call ((RequestType.ofCapability .checkUsername).errand "ann")),
      .client (.call ((RequestType.ofCapability .getAllCachedUsers).errand ())),
      .client (.register 1 "a"), .client (.send 1), .client (.register 2 "b"), .client (.send 2),
      .carryRequest, .carryRequest, .worker .receive, .worker .receive, .worker (.run 0),
      .worker (.run 1), .worker (.run 1),
      .worker (.endCall 0 (.answered (.ok (Wire.write CheckUsernameOutcome.success)))),
      .worker (.run 0), .carryReply, .carryReply, .client .handle, .client .handle,
      .client (.take 1)] rfl, rfl, rfl, rfl, rfl, rfl⟩
  obtain ⟨ss, s, call, res, run, hc, hp, hres, he, hx⟩ := run
  have h := invoke_of_run run hc he
  obtain ⟨id, r, t, config, hid, hrow, hs, htask, hruns, _⟩ := h.2.1 res _ hp hx
  exact ⟨ss, s, call, res, run, hc, hp, hres, id, r, t, config, hid, hrow, hs, htask, hruns⟩

end Stack
end ChatBridge
