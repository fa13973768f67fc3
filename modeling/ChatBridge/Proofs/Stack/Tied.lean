import ChatBridge.Proofs.Bridge.Traffic
import ChatBridge.Proofs.Worker.Replies
import ChatBridge.Proofs.Worker.Traffic
import ChatBridge.Stack

/-!
# What ties the client to the worker

The requests that the worker has received, those in its inbox and those in the client's outbox are
the requests of calls, each of another one. Replies on their way back are those of received requests,
and a call that has an answer has it from there. So the client is ready only when the worker has an
agent.
-/

namespace ChatBridge

def Call.Sent (call : Call) (e : Envelope) : Prop :=
  call.phase.isOut = true ∧ ∃ id kind payload, call.id = some id ∧
    call.errand.message? = some (kind, payload) ∧ e = .request id kind payload

theorem Call.Sent.correlationId? {call : Call} {e : Envelope} (h : call.Sent e) :
    e.correlationId? = call.id ∧ call.id.isSome = true := by
  obtain ⟨_, id, kind, payload, hid, _, rfl⟩ := h
  rw [hid]
  exact ⟨rfl, rfl⟩

theorem Call.Sent.isRequest {call : Call} {e : Envelope} (h : call.Sent e) : e.isRequest = true := by
  obtain ⟨_, id, kind, payload, _, _, rfl⟩ := h
  rfl

theorem Envelope.answering_of_answer? {e : Envelope} {id : String} {x : Except Fault Json}
    (h : e.answer? = some (id, x)) : e = .answering id x := by
  cases e with
  | request id kind payload => cases h
  | response id v => cases h; rfl
  | error id f => cases h; rfl
  | event e => cases h

namespace Stack

/-! ## Runs of the worker in runs of both -/

abbrev History := List (Step Stack Action)

def turn? (s : Step Stack Action) : Option (Step Worker Worker.Turn) :=
  match s.action with
  | .worker a => some ⟨s.before.worker, .act a, s.after.worker⟩
  | .carryRequest =>
    s.before.client.outbox.head?.map fun e => ⟨s.before.worker, .deliver e, s.after.worker⟩
  | .carryReply => some ⟨s.before.worker, .collect, s.after.worker⟩
  | _ => none

/-- A row for each request that the worker has received. -/
def ledger (ss : History) : List Row := Worker.ledger (ss.filterMap turn?)

/-- What a step does: one of the two goes on, or an envelope is carried. -/
inductive Moved (s : Stack) : Action → Stack → Prop
  | client (x : Action) (a : Client.Action) (c : Client)
      (hx : x = .client a ∨ x = .closeRequests ∨ x = .closeReplies) (ha : ∀ e, a ≠ .deliver e)
      (h : s.client.step? a = some c) : Moved s x ⟨c, s.worker⟩
  | worker (a : Worker.Action) (w : Worker) (h : s.worker.step? a = some w) :
      Moved s (.worker a) ⟨s.client, w⟩
  | request (e : Envelope) (rest : List Envelope) (h : s.client.outbox = e :: rest) :
      Moved s .carryRequest
        ⟨{ s.client with outbox := rest }, { s.worker with inbox := s.worker.inbox ++ [e] }⟩
  | reply (e : Envelope) (rest : List Envelope) (h : s.worker.outbox = e :: rest) :
      Moved s .carryReply
        ⟨{ s.client with inbox := s.client.inbox ++ [e] }, { s.worker with outbox := rest }⟩

variable {s s' : Stack} {x : Action} {ss : History} {start : Stack}

theorem moved_of_step (h : s.step? x = some s') : Moved s x s' := by
  cases x with
  | client a =>
    simp only [step?] at h
    split at h
    · rename_i ha
      obtain ⟨c, hc, rfl⟩ := Option.map_eq_some_iff.mp h
      exact .client _ a c (.inl rfl) (by rintro e rfl; cases ha) hc
    · cases h
  | worker a =>
    obtain ⟨w, hw, rfl⟩ := Option.map_eq_some_iff.mp h
    exact .worker a w hw
  | carryRequest =>
    simp only [step?, carryRequest?] at h
    split at h
    · rename_i e rest he; cases h; exact .request e rest he
    · cases h
  | carryReply =>
    simp only [step?, carryReply?] at h
    split at h
    · rename_i e rest he; cases h; exact .reply e rest he
    · cases h
  | closeRequests =>
    simp only [step?] at h
    split at h
    · cases h
    · obtain ⟨c, hc, rfl⟩ := Option.map_eq_some_iff.mp h
      exact .client _ .closeOutbox c (.inr (.inl rfl)) nofun hc
  | closeReplies =>
    simp only [step?] at h
    split at h
    · obtain ⟨c, hc, rfl⟩ := Option.map_eq_some_iff.mp h
      exact .client _ .closeInbox c (.inr (.inr rfl)) nofun hc
    · cases h

theorem turn?_of_client {a : Client.Action}
    (h : x = .client a ∨ x = .closeRequests ∨ x = .closeReplies) :
    turn? ⟨s, x, s'⟩ = none := by
  rcases h with rfl | rfl | rfl
  · rfl
  · rfl
  · rfl

theorem worker_of_step (h : s.step? x = some s') :
    Run Worker.react? s.worker (turn? ⟨s, x, s'⟩).toList s'.worker := by
  cases moved_of_step h with
  | client _ a c hx _ _ => rw [turn?_of_client hx]; exact .nil
  | worker a w hw => exact .snoc .nil hw
  | request e rest he =>
    simp only [turn?, he, List.head?_cons, Option.map_some, Option.toList_some]
    exact .snoc .nil rfl
  | reply e rest he => exact .snoc .nil (by simp [Worker.react?, he])

theorem worker_of_run (run : Run step? start ss s) :
    Run Worker.react? start.worker (ss.filterMap turn?) s.worker := by
  induction run with
  | nil => exact .nil
  | snoc _ h ih => rw [filterMap_snoc]; exact ih.append (worker_of_step h)

theorem ledger_snoc (x : Step Stack Action) :
    ledger (ss ++ [x]) = (turn? x).elim (ledger ss) (Worker.note (ledger ss)) := by
  unfold ledger
  rw [filterMap_snoc]
  cases turn? x with
  | none => rw [Option.toList_none, List.append_nil]; rfl
  | some t => exact Worker.ledger_snoc ..

/-! ## The invariant -/

def requests (rows : List Row) (s : Stack) : List Envelope :=
  rows.map Row.request ++ (s.worker.inbox ++ s.client.outbox)

def inFlight (s : Stack) : List Envelope := s.client.inbox ++ s.worker.outbox

structure Tied (rows : List Row) (s : Stack) : Prop where
  table : Table s.client.calls s.client.pending
  sent : ∀ {e : Envelope}, e ∈ requests rows s →
    ∃ (n : Nat) (call : Call), s.client.calls[n]? = some call ∧ call.Sent e
  distinct : ((requests rows s).map Envelope.correlationId?).Nodup
  replies : ∀ {e : Envelope}, e ∈ s.inFlight → e.isReply = true → e ∈ rows.flatMap (·.replies)
  answers : ∀ {n : Nat} {call : Call} {x : Except Fault Json}, s.client.calls[n]? = some call →
    call.errand ≠ .awaitReady → call.Has x →
    ∃ id, call.id = some id ∧ .answering id x ∈ rows.flatMap (·.replies)
  ready : s.client.readiness = .ready → ∃ (n : Nat) (call : Call) (config : AgentConfig) (v : Json),
    s.client.calls[n]? = some call ∧ call.errand = .setUp config ∧ call.phase = .finished (.ok v)
  agent : ∀ {id : String} {v : Json}, .response id v ∈ rows.flatMap (·.replies) →
    s.worker.config?.isSome
  asked : ∀ {n : Nat} {call : Call} {kind : String} {payload : Json},
    s.client.calls[n]? = some call → call.errand = .request kind payload → call.id.isSome →
    s.worker.config?.isSome
  served : ∀ {r : Row}, r ∈ rows → r.kind ≠ initKind → r.config.isSome
  readable : ∀ {n : Nat} {call : Call} (k : String) (x : Refusal), s.client.calls[n]? = some call →
    call.phase ≠ .finished (.error (.undecodable k x))

namespace Tied

variable {rows : List Row} {s : Stack}

/-! ## Steps of the client -/

section
variable {c : Client} {a : Client.Action}

theorem requests_of_client (h : s.client.step? a = some c) :
    requests rows ⟨c, s.worker⟩ = requests rows s ∨
    ∃ (n : Nat) (call : Call) (e : Envelope), s.client.calls[n]? = some call ∧
      call.phase = .registered ∧ c.calls[n]? = some { call with phase := .sent } ∧
      Call.Sent { call with phase := .sent } e ∧
      requests rows ⟨c, s.worker⟩ = requests rows s ++ [e] := by
  unfold requests
  cases Client.passing_of_step h with
  | nothing hs => rw [hs.outbox]; exact .inl rfl
  | request n call id kind payload hc hp hid hm hc' ho _ _ =>
    have hsent : Call.Sent { call with phase := .sent } (.request id kind payload) :=
      ⟨rfl, id, kind, payload, hid, hm, rfl⟩
    refine .inr ⟨n, call, .request id kind payload, hc, hp, hc', hsent, ?_⟩
    rw [ho, List.append_assoc, List.append_assoc]
  | taken e ho _ _ => rw [ho]; exact .inl rfl
  | given e _ ho _ _ => rw [ho]; exact .inl rfl
  | decided n call config r _ _ ho _ _ => rw [ho]; exact .inl rfl

theorem inFlight_of_client (h : s.client.step? a = some c) (ha : ∀ e, a ≠ .deliver e) {e : Envelope}
    (he : e ∈ inFlight ⟨c, s.worker⟩) : e ∈ s.inFlight := by
  have inbox : ∀ e ∈ c.inbox, e ∈ s.client.inbox := by
    intro e he
    cases Client.passing_of_step h with
    | nothing hs => rwa [hs.inbox] at he
    | request _ _ _ _ _ _ _ _ _ _ _ hi _ => rwa [hi] at he
    | taken e' _ hi _ => rw [hi]; exact List.mem_cons_of_mem _ he
    | given e' hg _ _ _ => exact absurd hg (ha e')
    | decided _ _ _ _ _ _ _ hi _ => rwa [hi] at he
  exact List.mem_append.mpr ((List.mem_append.mp he).imp (inbox e) id)

variable (t : Tied rows s) (h : s.client.step? a = some c)
include t h

theorem sent_client {e : Envelope} (he : e ∈ requests rows ⟨c, s.worker⟩) :
    ∃ (n : Nat) (call : Call), c.calls[n]? = some call ∧ call.Sent e := by
  have old : ∀ {e}, e ∈ requests rows s →
      ∃ (n : Nat) (call : Call), c.calls[n]? = some call ∧ call.Sent e := by
    intro e he
    obtain ⟨n, call, hc, hp, hsent⟩ := t.sent he
    obtain ⟨call', hc', hid, herr, hp'⟩ := Client.out_of_step h hc hp
    exact ⟨n, call', hc', hp', by rw [hid, herr]; exact hsent⟩
  rcases requests_of_client h with hr | ⟨n, call, e', _, _, hc', hsent, hr⟩
  · exact old (hr ▸ he)
  · rw [hr] at he
    rcases List.mem_append.mp he with he | he
    · exact old he
    · cases List.mem_singleton.mp he
      exact ⟨n, _, hc', hsent⟩

theorem distinct_client : ((requests rows ⟨c, s.worker⟩).map Envelope.correlationId?).Nodup := by
  rcases requests_of_client h with hr | ⟨n, call, e, hc, hp, _, hsent, hr⟩
  · rw [hr]; exact t.distinct
  · rw [hr, List.map_append, List.nodup_append]
    refine ⟨t.distinct, by simp, fun i hi j hj hij => ?_⟩
    obtain ⟨e', he', rfl⟩ := List.mem_map.mp hi
    obtain ⟨m, other, ho, hsent'⟩ := t.sent he'
    obtain ⟨id, hid⟩ := Option.isSome_iff_exists.mp hsent.correlationId?.2
    -- an earlier request with this id would be one of the same call, which has not gone out yet
    have hoid : other.id = some id := by
      rw [← hsent'.correlationId?.1, hij, List.mem_singleton.mp hj]
      exact hsent.correlationId?.1.trans hid
    have hmn := t.table.distinct ho hoid hc hid
    subst hmn
    cases hc.symm.trans ho
    rw [Call.Sent, hp] at hsent'
    cases hsent'.1

theorem answers_client {n : Nat} {call : Call} {x : Except Fault Json}
    (hc : c.calls[n]? = some call) (hm : call.errand ≠ .awaitReady) (hx : call.Has x) :
    ∃ id, call.id = some id ∧ .answering id x ∈ rows.flatMap (·.replies) := by
  have hch := Client.change_of_step h n
  rw [hc] at hch
  obtain ⟨old, ho, hid, he, hx | ⟨_, e, id, hi, hans, hent⟩⟩ :=
    Client.has_of_change hch (fun _ => t.table.shaped) hm hx
  · obtain ⟨id, hoid, hmem⟩ := t.answers ho (he ▸ hm) hx
    exact ⟨id, hid ▸ hoid, hmem⟩
  · have hoid := (t.table.awaits_of_lookup ho hent).1
    have hin : e ∈ s.client.inbox := List.mem_of_mem_head? hi
    cases Envelope.answering_of_answer? hans
    exact ⟨id, hid ▸ hoid, t.replies (List.mem_append_left _ hin) (by simp)⟩

theorem ready_client (hr : c.readiness = .ready) : ∃ (n : Nat) (call : Call) (config : AgentConfig)
    (v : Json), c.calls[n]? = some call ∧ call.errand = .setUp config ∧
      call.phase = .finished (.ok v) := by
  have old : s.client.readiness = .ready → ∃ (n : Nat) (call : Call) (config : AgentConfig)
      (v : Json), c.calls[n]? = some call ∧ call.errand = .setUp config ∧
        call.phase = .finished (.ok v) := by
    intro hr
    obtain ⟨n, call, config, v, hc, he, hp⟩ := t.ready hr
    obtain ⟨call', hc', he', hp'⟩ := Client.finished_of_step h hc hp
    exact ⟨n, call', config, v, hc', he'.trans he, hp'⟩
  cases Client.passing_of_step h with
  | nothing hs => exact old (hs.readiness ▸ hr)
  | request _ _ _ _ _ _ _ _ _ _ _ _ hr' => exact old (hr' ▸ hr)
  | taken _ _ _ hr' => exact old (hr' ▸ hr)
  | given _ _ _ _ hr' => exact old (hr' ▸ hr)
  | decided n call config r he hc' _ _ hr' =>
    cases r with
    | ok v => exact ⟨n, _, config, v, hc', he, rfl⟩
    | error x => rw [hr'] at hr; cases hr

theorem asked_client {n : Nat} {call : Call} {kind : String} {payload : Json}
    (hc : c.calls[n]? = some call) (he : call.errand = .request kind payload)
    (hid : call.id.isSome) : s.worker.config?.isSome := by
  obtain ⟨id, hid⟩ := Option.isSome_iff_exists.mp hid
  have hch := Client.change_of_step h n
  rw [hc] at hch
  rcases Client.id_of_change hch hid with ⟨old, ho, hoid, heq⟩ | ⟨old, ho, hmay, heq⟩
  · exact t.asked ho (heq ▸ he) (by rw [hoid]; rfl)
  · have hready : s.client.readiness = .ready := by
      rw [he] at heq
      unfold Client.mayRegister at hmay
      split at hmay
      · rename_i hs; cases hs.symm.trans heq.symm
      · exact of_decide_eq_true hmay
      · cases hmay
    obtain ⟨m, first, config, v, hf, hfe, hfp⟩ := t.ready hready
    obtain ⟨i, _, hmem⟩ := t.answers hf (by rw [hfe]; nofun) (.inr ⟨.ok v, hfp, rfl⟩)
    exact t.agent hmem

theorem client_step (ha : ∀ e, a ≠ .deliver e) : Tied rows ⟨c, s.worker⟩ where
  table := Client.table_of_step t.table h
  sent := t.sent_client h
  distinct := t.distinct_client h
  replies he := t.replies (inFlight_of_client h ha he)
  answers := t.answers_client h
  ready := t.ready_client h
  agent := t.agent
  asked := t.asked_client h
  served := t.served
  readable {n call} k x hc := by
    have hch := Client.change_of_step h n
    rw [hc] at hch
    exact Client.readable_of_change hch (fun old k x ho => t.readable k x ho) k x

end

/-! ## Steps of the worker -/

section
variable {w : Worker} {a : Worker.Action} {lost : Prop} (t : Tied rows s)
  (h : s.worker.step? a = some w)
include t h

theorem requests_of_worker :
    requests (Worker.note rows ⟨s.worker, .act a, w⟩) ⟨s.client, w⟩ = requests rows s := by
  have hin := (Worker.passing_of_step h).inbox
  have hreq : ∀ e ∈ (Worker.received? ⟨s.worker, .act a, w⟩).toList, e.isRequest = true := by
    intro e he
    have hmem : e ∈ requests rows s := by
      refine List.mem_append_right _ (List.mem_append_left _ ?_)
      rw [hin]
      exact List.mem_append_left _ he
    obtain ⟨n, call, _, hsent⟩ := t.sent hmem
    exact hsent.isRequest
  unfold requests
  rw [Worker.requests_note (s := ⟨s.worker, .act a, w⟩) h, List.filter_eq_self.mpr hreq,
    List.append_assoc, hin, List.append_assoc]

theorem served_worker {r : Row} (hr : r ∈ Worker.note rows ⟨s.worker, .act a, w⟩)
    (hk : r.kind ≠ initKind) : r.config.isSome := by
  rcases Worker.mem_note hr with ⟨q, hq, hreq, hconf⟩ | ⟨hrec, hconf⟩
  · rw [← hconf]
    refine t.served hq ?_
    rw [(Envelope.request.inj hreq).2.1]
    exact hk
  · have hmem : r.request ∈ requests rows s := by
      refine List.mem_append_right _ (List.mem_append_left _ ?_)
      rw [(Worker.passing_of_step h).inbox, hrec]
      exact List.mem_append_left _ (List.mem_singleton.mpr rfl)
    obtain ⟨n, call, hc, _, id, kind, payload, hid, hm, heq⟩ := t.sent hmem
    cases heq
    have he : call.errand = .request r.kind r.payload := by
      cases he : call.errand with
      | setUp config =>
        rw [he] at hm
        exact absurd (Prod.mk.inj (Option.some.inj hm)).1.symm hk
      | awaitReady => rw [he] at hm; cases hm
      | request kind payload => rw [he] at hm; cases hm; rfl
    rw [← hconf]
    exact t.asked hc he (by rw [hid]; rfl)

variable (l : Ledger lost rows s.worker)
include l

theorem worker_step : Tied (Worker.note rows ⟨s.worker, .act a, w⟩) ⟨s.client, w⟩ := by
  have hp := Worker.passing_of_step h
  obtain ⟨es, hout, hresp⟩ := hp.outbox
  have hposted : Worker.posted ⟨s.worker, .act a, w⟩ = es := Worker.posted_of_outbox hout
  have hperm := Worker.replies_note l (t := .act a) h
  have mono : ∀ {e}, e ∈ rows.flatMap (·.replies) →
      e ∈ (Worker.note rows ⟨s.worker, .act a, w⟩).flatMap (·.replies) := fun he =>
    hperm.mem_iff.mpr (List.mem_append_left _ he)
  exact {
    table := t.table
    sent := fun he => t.sent (t.requests_of_worker h ▸ he)
    distinct := by rw [t.requests_of_worker h]; exact t.distinct
    replies := fun {e} he hr => by
      rcases List.mem_append.mp he with he | he
      · exact mono (t.replies (List.mem_append_left _ he) hr)
      · rw [show (⟨s.client, w⟩ : Stack).worker.outbox = s.worker.outbox ++ es from hout] at he
        rcases List.mem_append.mp he with he | he
        · exact mono (t.replies (List.mem_append_right _ he) hr)
        · refine hperm.mem_iff.mpr (List.mem_append_right _ ?_)
          rw [Worker.repliesOf, hposted]
          exact List.mem_filter.mpr ⟨he, hr⟩
    answers := fun hc hm hx => by
      obtain ⟨id, hid, he⟩ := t.answers hc hm hx
      exact ⟨id, hid, mono he⟩
    ready := t.ready
    agent := fun {id v} he => by
      rcases List.mem_append.mp (hperm.mem_iff.mp he) with he | he
      · exact hp.config (t.agent he)
      · rw [Worker.repliesOf, hposted] at he
        exact hresp id v (List.mem_filter.mp he).1
    asked := fun hc he hid => hp.config (t.asked hc he hid)
    served := t.served_worker h
    readable := t.readable }

end

/-! ## Carrying -/

theorem carried (t : Tied rows s) {s' : Stack} (hcalls : s'.client.calls = s.client.calls)
    (hpending : s'.client.pending = s.client.pending)
    (hready : s'.client.readiness = s.client.readiness)
    (hconfig : s'.worker.config? = s.worker.config?) (hreq : requests rows s' = requests rows s)
    (hflight : s'.inFlight = s.inFlight) : Tied rows s' where
  table := by rw [hcalls, hpending]; exact t.table
  sent he := by rw [hcalls]; exact t.sent (hreq ▸ he)
  distinct := by rw [hreq]; exact t.distinct
  replies he := t.replies (hflight ▸ he)
  answers hc := t.answers (hcalls ▸ hc)
  ready hr := by rw [hcalls]; exact t.ready (hready ▸ hr)
  agent he := by rw [hconfig]; exact t.agent he
  asked hc := by rw [hconfig]; exact t.asked (hcalls ▸ hc)
  served := t.served
  readable k x hc := t.readable k x (hcalls ▸ hc)

end Tied

/-! ## Runs -/

theorem tied_start (config : AgentConfig) (timeout : Nat) (disk : Option DataDir) (now : UInt64) :
    Tied [] ⟨.connect config timeout, .start disk now⟩ := by
  have first : ∀ {n : Nat} {call : Call}, (Client.connect config timeout).calls[n]? = some call →
      call = ⟨.setUp config, none, .waiting, .empty⟩ := by
    intro n call h
    cases n with
    | zero => cases h; rfl
    | succ n => cases h
  exact {
    table := Table.start _
    sent := nofun
    distinct := List.nodup_nil
    replies := nofun
    answers := fun hc _ hx => by
      cases first hc
      rcases hx with hx | ⟨r, hr, _⟩
      · cases hx
      · cases hr
    ready := nofun
    agent := nofun
    asked := fun hc _ hid => by cases first hc; cases hid
    served := nofun
    readable := fun k x hc => by cases first hc; nofun }

theorem tied_of_run {config : AgentConfig} {timeout : Nat} {disk : Option DataDir} {now : UInt64}
    (run : Run step? ⟨.connect config timeout, .start disk now⟩ ss s) : Tied (ledger ss) s := by
  induction run with
  | nil => exact tied_start config timeout disk now
  | @snoc ss s x s' run h ih =>
    rw [ledger_snoc]
    cases moved_of_step h with
    | client _ a c hx ha hc =>
      rw [turn?_of_client hx]
      exact ih.client_step hc ha
    | worker a w hw => exact ih.worker_step hw (Worker.ledger_of_run (worker_of_run run))
    | request e rest he =>
      rw [turn?, he]
      exact ih.carried rfl rfl rfl rfl (by simp [requests, he]) rfl
    | reply e rest he => exact ih.carried rfl rfl rfl rfl rfl (by simp [inFlight, he])

end Stack
end ChatBridge
