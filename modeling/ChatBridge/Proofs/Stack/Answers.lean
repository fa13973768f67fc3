import ChatBridge.Proofs.Stack.Client

/-!
# What becomes of an answer

Whatever the worker puts into its outbox is on its way to the client until the client takes it from
its inbox, in the same order. An answer is put there only after a call has sent its request, and
nothing comes after the inbox has been closed. So an answer that has been given is met by its call,
unless the call has taken its own entry off the table.
-/

namespace ChatBridge

theorem Envelope.answer?_answering (id : String) (x : Except Fault Json) :
    (Envelope.answering id x).answer? = some (id, x) := by
  cases x <;> rfl

namespace Client

variable {c c' : Client} {a : Action} {n : Nat} {call : Call} {ss : History} {id : String}

theorem send_of_put (h : c.step? a = some c') {e : Envelope} (he : (n, e) ∈ put ⟨c, a, c'⟩) :
    a = .send n ∧ c.outboxOpen = true ∧ ∃ id, c.idOf? n = some id ∧ e.correlationId? = some id := by
  rcases put_of_step h with
    ⟨_, hput⟩ | ⟨m, call, id, kind, payload, rfl, hc, _, hid, _, _, hout, hput⟩
  · rw [hput] at he
    cases he
  · rw [hput] at he
    cases List.mem_singleton.mp he
    refine ⟨rfl, ?_, id, by rw [idOf?, hc]; exact hid, rfl⟩
    obtain ⟨_, _, h⟩ := withCall_eq_some h
    obtain ⟨_, i, _, _, _, _, ⟨ho, _⟩ | ⟨_, rfl⟩⟩ := send?_eq_some h
    · exact ho
    · rw [outbox_finish] at hout
      exact absurd hout (by simp [strike])

theorem idOf?_of_registering (t : Table c.calls c.pending)
    (h : c.step? (.register n id) = some c') : c.idOf? n = none := by
  obtain ⟨call, hc, hreg⟩ := withCall_eq_some h
  have hsh := t.shaped hc
  simp only [Call.Shaped, phase_of_mayRegister (register?_eq_some hreg).1] at hsh
  rw [idOf?, hc]
  exact hsh.1

theorem firstAnswer?_of_handledFor? (t : Traced ss c) {s : Step Client Action} (hs : s ∈ ss)
    {x : Except Fault Json} (hx : handledFor? n s = some x) : firstAnswer? ss n = some x := by
  have hmem : x ∈ ss.filterMap (handledFor? n) := List.mem_filterMap.mpr ⟨s, hs, hx⟩
  obtain ⟨y, hy⟩ := List.length_eq_one_iff.mp
    (Nat.le_antisymm (t.once n) (List.length_pos_of_mem hmem))
  rw [hy] at hmem
  rw [firstAnswer?, ← List.head?_filterMap, hy, List.mem_singleton.mp hmem]
  rfl

end Client

namespace Stack

variable {s s' start : Stack} {x : Action} {ss tt : History} {n : Nat} {call : Call} {id : String}
  {y : Except Fault Json} {res : CallResult}

/-! ## Courses of single calls -/

theorem table_of_step (t : Table s.client.calls s.client.pending) (h : s.step? x = some s') :
    Table s'.client.calls s'.client.pending := by
  cases moved_of_step h with
  | client _ a c _ _ hc => exact Client.table_of_step t hc
  | worker a w hw => exact t
  | request e rest he => exact t
  | reply e rest he => exact t

theorem idOf?_of_step (t : Table s.client.calls s.client.pending) (h : s.step? x = some s')
    (hid : s.client.idOf? n = some id) : s'.client.idOf? n = some id := by
  cases moved_of_step h with
  | client _ a c _ _ hc => exact Client.idOf?_step t hc hid
  | worker a w hw => exact hid
  | request e rest he => exact hid
  | reply e rest he => exact hid

theorem waits_before (t : Table s.client.calls s.client.pending) (h : s.step? x = some s')
    (hw : s'.client.Waits n id) : x = .client (.register n id) ∨ s.client.Waits n id := by
  cases acted_of_step h with
  | client a c _ hc => exact (Client.waits_before t hc hw).imp_left (congrArg Action.client)
  | worker a w _ => exact .inr hw
  | request e rest _ => exact .inr hw
  | reply e rest _ => exact .inr hw
  | closedRequests _ => exact .inr hw
  | closedReplies _ _ => exact .inr hw

section
variable (t : Table s.client.calls s.client.pending) (run : Run step? s tt s')
include t run

theorem table_of_course : Table s'.client.calls s'.client.pending :=
  run.keeps (P := fun s => Table s.client.calls s.client.pending) (fun h t => table_of_step t h) t

theorem idOf?_of_course (hid : s.client.idOf? n = some id) : s'.client.idOf? n = some id := by
  induction run with
  | nil => exact hid
  | snoc run h ih => exact idOf?_of_step (table_of_course t run) h ih

theorem waits_or_registered (hw : s'.client.Waits n id) :
    s.client.Waits n id ∨ ∃ y ∈ tt, y.action = .client (.register n id) := by
  induction run with
  | nil => exact .inl hw
  | snoc run h ih =>
    rcases waits_before (table_of_course t run) h hw with rfl | hold
    · exact .inr ⟨_, List.mem_append_right _ (List.mem_singleton.mpr rfl), rfl⟩
    · exact (ih hold).imp_right fun ⟨y, hy, ha⟩ => ⟨y, List.mem_append_left _ hy, ha⟩

theorem waits_of_idOf? (hid : s.client.idOf? n = some id) (hw : s'.client.Waits n id) :
    s.client.Waits n id := by
  rcases waits_or_registered t run hw with hw | ⟨y, hy, ha⟩
  · exact hw
  · obtain ⟨pre, post, rfl⟩ := List.append_of_mem hy
    obtain ⟨hpre, hstep⟩ := run.before_of_split rfl
    rw [ha] at hstep
    simp only [step?, isOwn, if_true] at hstep
    obtain ⟨c, hc, _⟩ := Option.map_eq_some_iff.mp hstep
    have hnone := Client.idOf?_of_registering (table_of_course t hpre) hc
    cases hnone.symm.trans (idOf?_of_course t hpre hid)

end

/-! ## The way of the answers -/

def sentBack (ss : History) : List Envelope := (ss.filterMap turn?).flatMap Worker.posted

def taken? (x : Step Stack Action) : Option Envelope :=
  match x.action with
  | .client .handle => x.before.client.inbox.head?
  | _ => none

theorem sentBack_append : sentBack (ss ++ tt) = sentBack ss ++ sentBack tt := by
  unfold sentBack
  rw [List.filterMap_append, List.flatMap_append]

theorem sentBack_singleton (x : Step Stack Action) :
    sentBack [x] = (turn? x).toList.flatMap Worker.posted := by
  unfold sentBack
  cases hx : turn? x <;> simp [hx]

theorem taken_inbox {a : Client.Action} {c : Client} (ha : isOwn a = true)
    (h : s.client.step? a = some c) :
    s.client.inbox = (taken? ⟨s, .client a, ⟨c, s.worker⟩⟩).toList ++ c.inbox := by
  cases a with
  | handle =>
    obtain ⟨_, e, rest, hi, rfl⟩ := Client.handle?_eq_some h
    have hin := (Client.still_receive { s.client with inbox := rest } e).inbox
    rw [hin]
    simp [taken?, hi]
  | deliver e => cases ha
  | closeInbox => cases ha
  | closeOutbox => cases ha
  | subscribe name => cases h; rfl
  | unsubscribe name => cases h; rfl
  | _ => exact (Client.subscribers_of_step h rfl).2.symm

theorem inFlight_of_step (h : s.step? x = some s') :
    s.inFlight ++ sentBack [⟨s, x, s'⟩] = (taken? ⟨s, x, s'⟩).toList ++ s'.inFlight := by
  rw [sentBack_singleton]
  cases acted_of_step h with
  | client a c ha hc =>
    simp only [inFlight, turn?, Option.toList_none, List.flatMap_nil, List.append_nil]
    rw [taken_inbox ha hc, List.append_assoc]
  | worker a w hw =>
    obtain ⟨es, hout, _⟩ := (Worker.passing_of_step hw).outbox
    simp [inFlight, turn?, taken?, Worker.posted_of_outbox hout, hout]
  | request e rest he => simp [inFlight, turn?, taken?, he, Worker.posted]
  | reply e rest he => simp [inFlight, turn?, taken?, he, Worker.posted]
  | closedRequests _ => simp [inFlight, turn?, taken?]
  | closedReplies _ _ => simp [inFlight, turn?, taken?]

/-- What the worker has put into its outbox has been taken, in this order, or is on its way. -/
theorem sentBack_of_run {config : AgentConfig} {timeout : Nat} {disk : Option DataDir}
    {now : UInt64} (run : Run step? ⟨.connect config timeout, .start disk now⟩ ss s) :
    sentBack ss = ss.filterMap taken? ++ s.inFlight := by
  induction run with
  | nil => rfl
  | snoc _ h ih =>
    rw [sentBack_append, ih, filterMap_snoc, List.append_assoc, inFlight_of_step h,
      List.append_assoc]

theorem posted_of_silent {w w' : Worker} {a : Worker.Action} (h : w.step? a = some w')
    (hw : w.Silent) : Worker.posted ⟨w, .act a, w'⟩ = [] :=
  Worker.posted_of_outbox (by rw [(Worker.silent_of_step h hw).2, List.append_nil])

theorem silent_of_step (h : s.step? x = some s') (hs : s.worker.Silent) : s'.worker.Silent := by
  cases moved_of_step h with
  | client _ a c _ _ _ => exact hs
  | worker a w hw => exact (Worker.silent_of_step hw hs).1
  | request e rest he => exact ⟨hs.isOver, hs.settingUp⟩
  | reply e rest he => exact ⟨hs.isOver, hs.settingUp⟩

theorem sentBack_of_silent (hs : s.worker.Silent) (run : Run step? s tt s') : sentBack tt = [] := by
  induction run with
  | nil => rfl
  | @snoc tt d x d' run h ih =>
    rw [sentBack_append, ih, List.nil_append, sentBack_singleton]
    cases moved_of_step h with
    | client _ a c hx _ _ => rw [turn?_of_client hx]; rfl
    | worker a w hw =>
      have hd : d.worker.Silent := run.keeps (P := fun s => s.worker.Silent) silent_of_step hs
      simp [turn?, posted_of_silent hw hd]
    | request e rest he => simp [turn?, he, Worker.posted]
    | reply e rest he => rfl

/-! ## Behind every answer is a request -/

section
variable {config : AgentConfig} {timeout : Nat} {disk : Option DataDir} {now : UInt64}
  (run : Run step? ⟨.connect config timeout, .start disk now⟩ ss s)
include run

theorem carried_of_run : carried ss = (ledger ss).map Row.request ++ s.worker.inbox := by
  induction run with
  | nil => rfl
  | @snoc ss s x s' run h ih =>
    rw [carried_snoc, ih, ledger_snoc]
    cases moved_of_step h with
    | client _ a c hx _ _ =>
      rw [turn?_of_client hx]
      rcases hx with rfl | rfl | rfl <;> exact List.append_nil _
    | worker a w hw =>
      have hreq := (tied_of_run run).requests_of_worker hw
      unfold requests at hreq
      rw [← List.append_assoc, ← List.append_assoc] at hreq
      exact (List.append_nil _).trans (List.append_cancel_right hreq).symm
    | request e rest he => simp [turn?, carriedBy?, he, Worker.note]
    | reply e rest he => simp [turn?, carriedBy?, Worker.note]

theorem exists_send {e : Envelope} (he : e ∈ requests (ledger ss) s) :
    ∃ n, ∃ z ∈ clientSteps [] ss, z.action = .send n ∧ z.before.outboxOpen = true ∧
      ∃ id, z.before.idOf? n = some id ∧ e.correlationId? = some id := by
  have hrun := client_of_run run
  have hmem : e ∈ (s.client.putBack (carried ss)).outbox := by
    rw [requests, ← List.append_assoc, ← carried_of_run run] at he
    exact he
  rw [(Client.gated_of_run hrun).outbox] at hmem
  obtain ⟨⟨n, e'⟩, hput, rfl⟩ := List.mem_map.mp hmem
  obtain ⟨z, hz, hput⟩ := List.mem_flatMap.mp hput
  obtain ⟨_, _, hstep⟩ := hrun.before_of_mem hz
  exact ⟨n, z, hz, Client.send_of_put hstep hput⟩

/-- A call with this id has sent its request before the answer was given. -/
theorem exists_send_of_answer (h : .answering id y ∈ sentBack ss) :
    ∃ n, ∃ z ∈ clientSteps [] ss, z.action = .send n ∧ z.before.outboxOpen = true ∧
      z.before.idOf? n = some id := by
  have hworker := worker_of_run run
  have hreply : .answering id y ∈ (ledger ss).flatMap (·.replies) :=
    (Worker.replies_perm_of_run hworker).mem_iff.mpr (List.mem_filter.mpr ⟨h, by simp⟩)
  obtain ⟨r, hr, hrep⟩ := List.mem_flatMap.mp hreply
  have hrid : r.id = id := by
    rcases Row.replies_of_stands ((Worker.ledger_of_run hworker).stands hr) with
      hnil | ⟨e, he, _, hid, _⟩
    · rw [hnil] at hrep
      cases hrep
    · rw [he] at hrep
      cases List.mem_singleton.mp hrep
      rw [Envelope.correlationId?_answering] at hid
      exact (Option.some.inj hid).symm
  have hreq : r.request ∈ requests (ledger ss) s :=
    List.mem_append_left _ (List.mem_map.mpr ⟨r, hr, rfl⟩)
  obtain ⟨n, z, hz, ha, ho, i, hid, hcor⟩ := exists_send run hreq
  cases hcor
  exact ⟨n, z, hz, ha, ho, hrid ▸ hid⟩

theorem idOf?_of_answer (h : .answering id y ∈ sentBack ss) :
    ∃ n, s.client.idOf? n = some id := by
  obtain ⟨n, z, hz, _, _, hid⟩ := exists_send_of_answer run h
  exact ⟨n, Client.idOf?_of_mem (client_of_run run) hz hid⟩

theorem eq_of_idOf? {m : Nat} (hm : s.client.idOf? m = some id) (hn : s.client.idOf? n = some id) :
    m = n := by
  obtain ⟨cm, hcm, hmid⟩ := Option.bind_eq_some_iff.mp hm
  obtain ⟨cn, hcn, hnid⟩ := Option.bind_eq_some_iff.mp hn
  exact (tied_of_run run).table.distinct hcm hmid hcn hnid

theorem outcome_of_given (hc : s.client.calls[n]? = some call) (hid : call.id = some id)
    (hp : call.phase = .finished res) (h : .answering id y ∈ sentBack ss) :
    Client.Outcome (clientSteps [] ss) n call res := by
  have hrun := client_of_run run
  obtain ⟨m, z, hz, ha, ho, hzid⟩ := exists_send_of_answer run h
  have hm := Client.idOf?_of_mem hrun hz hzid
  have hn : s.client.idOf? n = some id := by rw [Client.idOf?, hc]; exact hid
  cases eq_of_idOf? run hm hn
  obtain ⟨other, hother, hsent⟩ := (Client.traced_of_run hrun).sends z hz n ha
  cases hc.symm.trans hother
  simpa [Client.SentAs, hp, ho] using hsent

end

/-! ## How calls end -/

/-- The answer `y` to the call `n` is handled while the call waits for it under `id`. -/
def Heard (ss : History) (n : Nat) (id : String) (y : Except Fault Json) : Prop :=
  ∃ x ∈ ss, x.action = .client .handle ∧
    x.before.client.inbox.head? = some (.answering id y) ∧ x.before.client.Waits n id

def GaveUp (ss : History) (n : Nat) (id : String) : Prop :=
  ∃ x ∈ ss, x.action = .client (.withdraw n) ∧ x.before.client.Waits n id

theorem exists_clientStep (ss : History) {a : Client.Action} (ha : isOwn a = true)
    {P : Client → Prop} (hP : ∀ es c, P (Client.putBack es c) ↔ P c) :
    (∃ z ∈ clientSteps [] ss, z.action = a ∧ P z.before) ↔
      ∃ x ∈ ss, x.action = .client a ∧ P x.before.client := by
  constructor
  · rintro ⟨z, hz, rfl, hbefore⟩
    obtain ⟨pre, x, post, rfl, hx⟩ := mem_clientSteps.mp hz
    obtain ⟨a, hact, rfl⟩ := Option.map_eq_some_iff.mp hx
    refine ⟨x, by simp, ?_, (hP _ _).mp hbefore⟩
    obtain ⟨before, action, after⟩ := x
    cases action with
    | client b => cases hact; rfl
    | carryReply =>
      obtain ⟨e, _, rfl⟩ := Option.map_eq_some_iff.mp hact
      cases ha
    | closeRequests => cases hact; cases ha
    | closeReplies => cases hact; cases ha
    | _ => cases hact
  · rintro ⟨x, hx, hxa, hbefore⟩
    obtain ⟨pre, post, rfl⟩ := List.append_of_mem hx
    have hact : clientAction? x = some a := by unfold clientAction?; rw [hxa]
    have hstep : clientStep? ([] ++ carried pre) x = some ⟨x.before.client.putBack _, a,
        x.after.client.putBack _⟩ := Option.map_eq_some_iff.mpr ⟨a, hact, rfl⟩
    exact ⟨_, mem_clientSteps.mpr ⟨pre, x, post, rfl, hstep⟩, rfl, (hP _ _).mpr hbefore⟩

theorem handled?_eq_some {z : Step Client Client.Action} :
    Client.handled? z = some (id, y) ↔
      z.action = .handle ∧ z.before.inbox.head? = some (.answering id y) := by
  constructor
  · intro h
    unfold Client.handled? at h
    split at h
    · rename_i ha
      obtain ⟨e, he, hans⟩ := Option.bind_eq_some_iff.mp h
      rw [Envelope.answering_of_answer? hans] at he
      exact ⟨ha, he⟩
    · cases h
  · rintro ⟨ha, hi⟩
    unfold Client.handled?
    rw [ha, hi]
    exact Envelope.answer?_answering id y

theorem heard_iff : Heard ss n id y ↔
    ∃ z ∈ clientSteps [] ss, Client.handled? z = some (id, y) ∧ z.before.Waits n id := by
  have hsteps := exists_clientStep ss (a := .handle) rfl
    (P := fun c => c.inbox.head? = some (.answering id y) ∧ c.Waits n id) fun _ _ => Iff.rfl
  rw [Heard, ← hsteps]
  constructor
  · rintro ⟨z, hz, ha, hi, hw⟩
    exact ⟨z, hz, handled?_eq_some.mpr ⟨ha, hi⟩, hw⟩
  · rintro ⟨z, hz, hh, hw⟩
    obtain ⟨ha, hi⟩ := handled?_eq_some.mp hh
    exact ⟨z, hz, ha, hi, hw⟩

theorem gaveUp_iff : GaveUp ss n id ↔
    ∃ z ∈ clientSteps [] ss, z.action = .withdraw n ∧ z.before.Waits n id :=
  (exists_clientStep ss (P := fun c => c.Waits n id) rfl fun _ _ => Iff.rfl).symm

theorem cutOff_iff (hid : call.id = some id) : Client.CutOff (clientSteps [] ss) n call ↔
    ∃ x ∈ ss, x.action = .client .endListening ∧ x.before.client.Waits n id := by
  have hsteps := exists_clientStep ss (a := .endListening) rfl
    (P := fun c => c.Waits n id) fun _ _ => Iff.rfl
  rw [← hsteps, Client.CutOff]
  constructor
  · rintro ⟨z, hz, ha, i, hi, hw⟩
    cases hid.symm.trans hi
    exact ⟨z, hz, ha, hw⟩
  · rintro ⟨z, hz, ha, hw⟩
    exact ⟨z, hz, ha, id, hid, hw⟩

section
variable {config : AgentConfig} {timeout : Nat} {disk : Option DataDir} {now : UInt64}
  (run : Run step? ⟨.connect config timeout, .start disk now⟩ ss s)
include run

theorem given_of_heard (h : Heard ss n id y) : .answering id y ∈ sentBack ss := by
  obtain ⟨x, hx, _, hi, _⟩ := h
  obtain ⟨pre, post, rfl⟩ := List.append_of_mem hx
  obtain ⟨hpre, _⟩ := run.before_of_split rfl
  rw [sentBack_append, sentBack_of_run hpre]
  have hin : .answering id y ∈ x.before.client.inbox := List.mem_of_mem_head? hi
  exact List.mem_append_left _ (List.mem_append_right _ (List.mem_append_left _ hin))

/-- At the end of the table every answer that was ever given has been handled, so a call that still
waits then has got none. -/
theorem heard_of_cutOff {x : Step Stack Action} (hx : x ∈ ss)
    (ha : x.action = .client .endListening) (hw : x.before.client.Waits n id)
    (h : .answering id y ∈ sentBack ss) : Heard ss n id y := by
  obtain ⟨pre, post, rfl⟩ := List.append_of_mem hx
  obtain ⟨hpre, hstep⟩ := run.before_of_split rfl
  have hsealed := sealed_of_run hpre
  have hclosed : x.before.client.inbox = [] ∧ x.before.client.inboxOpen = false := by
    rw [ha] at hstep
    obtain ⟨c, hc, _⟩ := Option.map_eq_some_iff.mp hstep
    obtain ⟨_, hi, ho, _⟩ := Client.endListening?_eq_some hc
    exact ⟨hi, ho⟩
  have hnone : sentBack (x :: post) = [] := by
    have hrest : Run step? x.before (x :: post) s :=
      (Run.single hstep).append (run.after_of_split rfl)
    exact sentBack_of_silent (hsealed.closed hclosed.2).1 hrest
  rw [sentBack_append, hnone, List.append_nil, sentBack_of_run hpre, inFlight, hclosed.1,
    (hsealed.closed hclosed.2).2, List.append_nil, List.append_nil] at h
  obtain ⟨z, hz, htaken⟩ := List.mem_filterMap.mp h
  -- the call had its id when the answer was taken, and had not lost its entry, since it has it now
  obtain ⟨before, mid, rfl⟩ := List.append_of_mem hz
  obtain ⟨hbefore, hzstep⟩ := hpre.before_of_split rfl
  obtain ⟨z₀, za, z₁⟩ := z
  have hhead : za = .client .handle ∧ z₀.client.inbox.head? = some (.answering id y) := by
    unfold taken? at htaken
    split at htaken
    · rename_i hza; exact ⟨hza, htaken⟩
    · cases htaken
  obtain ⟨rfl, hi⟩ := hhead
  have hgiven : .answering id y ∈ sentBack before := by
    rw [sentBack_of_run hbefore]
    exact List.mem_append_right _ (List.mem_append_left _ (List.mem_of_mem_head? hi))
  obtain ⟨m, hm⟩ := idOf?_of_answer hbefore hgiven
  have hmid : Run step? z₀ (⟨z₀, .client .handle, z₁⟩ :: mid) x.before :=
    (Run.single hzstep).append (hpre.after_of_split rfl)
  have ht := (tied_of_run hbefore).table
  cases eq_of_idOf? hpre (idOf?_of_course ht hmid hm) hw.1
  exact ⟨_, List.mem_append_left _ hz, rfl, hi, waits_of_idOf? ht hmid hm hw⟩

theorem result_of_gaveUp (hc : s.client.calls[n]? = some call) (hp : call.phase = .finished res)
    (h : GaveUp ss n id) : ∃ kind span, res = .error (.timeout kind id span) := by
  obtain ⟨z, hz, ha, hw⟩ := gaveUp_iff.mp h
  obtain ⟨kind, hend⟩ := Client.phase_of_withdrawn (client_of_run run) hc hz ha hw
  cases hp.symm.trans hend
  exact ⟨kind, _, rfl⟩

section
variable (hc : s.client.calls[n]? = some call) (hid : call.id = some id)
include hc hid

theorem cutOff_of_outcome (hh : ∀ y, ¬ Heard ss n id y) (hg : ¬ GaveUp ss n id)
    (ho : Client.Outcome (clientSteps [] ss) n call res) :
    res = .error .disconnected ∧
      ∃ x ∈ ss, x.action = .client .endListening ∧ x.before.client.Waits n id := by
  have hrun := client_of_run run
  have hnone : Client.firstAnswer? (clientSteps [] ss) n = none := by
    rw [Option.eq_none_iff_forall_ne_some]
    intro y hy
    obtain ⟨z, hz, hfor⟩ := List.exists_of_findSome?_eq_some hy
    exact hh y (heard_iff.mpr ⟨z, hz, Client.handled_of_handledFor? hrun hc hid hz hfor⟩)
  unfold Client.Outcome at ho
  rw [hnone] at ho
  rcases ho with ⟨z, hz, ha, i, _, _, hw, _, hi, _, _⟩ | ⟨hr, hcut⟩
  · cases hid.symm.trans hi
    exact absurd (gaveUp_iff.mpr ⟨z, hz, ha, hw⟩) hg
  · exact ⟨hr, (cutOff_iff hid).mp hcut⟩

variable (hp : call.phase = .finished res)
include hp

theorem result_of_heard (h : Heard ss n id y) : res = y.mapError .worker := by
  have ho := outcome_of_given run hc hid hp (given_of_heard run h)
  have t := Client.traced_of_run (client_of_run run)
  obtain ⟨z, hz, hh, hw⟩ := heard_iff.mp h
  refine Client.outcome_of_answer ho (Client.firstAnswer?_of_handledFor? t hz ?_)
  simp [Client.handledFor?, hh, hw]

theorem not_given (hh : ∀ y, ¬ Heard ss n id y) (hg : ¬ GaveUp ss n id) :
    .answering id y ∉ sentBack ss := by
  intro hgiven
  have ho := outcome_of_given run hc hid hp hgiven
  obtain ⟨_, x, hx, ha, hw⟩ := cutOff_of_outcome run hc hid hh hg ho
  exact hh y (heard_of_cutOff run hx ha hw hgiven)

theorem result_of_neither (hh : ∀ y, ¬ Heard ss n id y) (hg : ¬ GaveUp ss n id) :
    res = .error .disconnected ∧
      ((∃ x ∈ ss, x.action = .client .endListening) ∨
        ∃ x ∈ ss, x.action = .client (.send n) ∧ x.before.client.outboxOpen = false) := by
  rcases Client.outcome_or_unsent (client_of_run run) hc hid hp with ho | ⟨hr, z, hz, ha, hclosed⟩
  · obtain ⟨hr, x, hx, hxa, _⟩ := cutOff_of_outcome run hc hid hh hg ho
    exact ⟨hr, .inl ⟨x, hx, hxa⟩⟩
  · have hsteps := exists_clientStep ss (a := .send n) rfl
      (P := fun c => c.outboxOpen = false) fun _ _ => Iff.rfl
    exact ⟨hr, .inr (hsteps.mp ⟨z, hz, ha, hclosed⟩)⟩

end
end

end Stack
end ChatBridge
