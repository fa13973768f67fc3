import ChatBridge.Proofs.Worker.Booking

/-!
# One answer for each request

Every reply that is posted belongs to one row of the ledger. So a request is answered at most once,
under its own id and with what its handler made of it, and when nothing is under way any more only
those requests are unanswered that never get an answer.
-/

namespace ChatBridge

def Envelope.isRequest : Envelope → Bool
  | .request _ _ _ => true
  | _ => false

def Envelope.answers (id : String) (e : Envelope) : Bool :=
  e.isReply && e.correlationId? == some id

namespace Row

def request (r : Row) : Envelope := .request r.id r.kind r.payload

/-- Nobody knows the request, or nobody is signed in for whom an agent could be set up. -/
def Unanswerable (r : Row) : Prop :=
  (r.kind ≠ initKind ∧ Capability.ofKind? r.kind = none) ∨
  (r.kind = initKind ∧ r.config = none ∧
    (∃ config, (Wire.codec : Codec AgentConfig).ofValue r.payload = .ok config) ∧
    (r.provided = some (.ok none) ∨
      ∃ i, r.provided = some (.ok (some i)) ∧ i.isAnonymous = true))

/-- The answer that a request has in the end. -/
structure Settled (r : Row) : Prop where
  answered : r.replies = [] ↔ r.Unanswerable
  ok : ∀ {c config}, r.RunBy c config → ∀ v, r.replies = [.response r.id v] ↔
    r.crashed = false ∧ (Operation.handle config c r.payload).Returns r.told (.ok v)
  error : ∀ {c config}, r.RunBy c config → r.crashed = false → ∀ f,
    r.replies = [.error r.id f] ↔ (Operation.handle config c r.payload).Returns r.told (.error f)
  crashed : ∀ {c config}, r.RunBy c config → r.crashed = true →
    r.replies = [.error r.id (.internal (r.kind ++ " handler panicked"))]

variable {r : Row} {e : Envelope}

theorem correlationId?_of_ends (h : r.Ends (some e)) :
    e.isReply = true ∧ e.correlationId? = some r.id := by
  cases h with
  | returned c config result hr hcr hret => exact ⟨by simp, by simp⟩
  | _ => exact ⟨rfl, rfl⟩

theorem resolveIdentity_eq_nobody {p : Provided} : resolveIdentity p = .ok none ↔
    p = .ok none ∨ ∃ i, p = .ok (some i) ∧ i.isAnonymous = true := by
  unfold resolveIdentity
  cases p with
  | error e => simp [Except.map]
  | ok i =>
    cases i with
    | none => simp [Except.map]
    | some i => simp [Except.map]

theorem unanswerable_of_ends (h : r.Ends none) : r.Unanswerable := by
  generalize he : (none : Option Envelope) = x at h
  cases h with
  | unknown hk hc => exact .inl ⟨hk, hc⟩
  | nobody config p hk hd ha hp hi =>
    refine .inr ⟨hk, ha, ⟨config, hd⟩, ?_⟩
    rcases resolveIdentity_eq_nobody.mp hi with rfl | ⟨i, rfl, ha⟩
    · exact .inl hp
    · exact .inr ⟨i, hp, ha⟩
  | _ => cases he

theorem not_ends_of_unanswerable (hu : r.Unanswerable) : ¬ r.Ends (some e) := by
  intro h
  rcases hu with ⟨hk, hc⟩ | ⟨hk, ha, ⟨config, hd⟩, hp⟩
  · cases h with
    | early c _ hc' _ => cases hc.symm.trans hc'
    | returned c config result hr _ _ => cases hc.symm.trans hr.capability
    | crashed c config hr _ => cases hc.symm.trans hr.capability
    | refused x hk' _ => exact hk hk'
    | again config hk' _ _ => exact hk hk'
    | signedIn config p i hk' _ _ _ _ => exact hk hk'
    | unresolved config p e hk' _ _ _ _ => exact hk hk'
  · have hnobody : ∀ p, r.provided = some p → resolveIdentity p = .ok none := by
      intro p h
      refine resolveIdentity_eq_nobody.mpr ?_
      rcases hp with hp | ⟨i, hp, hi⟩
      · exact .inl (Option.some.inj (h.symm.trans hp))
      · exact .inr ⟨i, Option.some.inj (h.symm.trans hp), hi⟩
    cases h with
    | early c hk' _ _ => exact hk' hk
    | returned c config result hr _ _ => exact hr.kind hk
    | crashed c config hr _ => exact hr.kind hk
    | refused x _ hd' => cases hd.symm.trans hd'
    | again config _ _ ha' => rw [ha] at ha'; cases ha'
    | signedIn config p i _ _ _ hp hi => cases (hnobody p hp).symm.trans hi
    | unresolved config p e _ _ _ hp hi => cases (hnobody p hp).symm.trans hi

theorem ends_of_runBy {c : Capability} {config : AgentConfig} {x : Option Envelope}
    (hr : r.RunBy c config) (h : r.Ends x) :
    (r.crashed = false ∧ ∃ result, (Operation.handle config c r.payload).Returns r.told result ∧
      x = some (.answering r.id result)) ∨
    (r.crashed = true ∧ x = some (.error r.id (.internal (r.kind ++ " handler panicked")))) := by
  cases h with
  | unknown _ hc => cases hr.capability.symm.trans hc
  | early c _ _ ha => cases hr.config.symm.trans ha
  | returned c' config' result hr' hcr hret =>
    cases hr.capability.symm.trans hr'.capability
    cases hr.config.symm.trans hr'.config
    exact .inl ⟨hcr, result, hret, rfl⟩
  | crashed c' config' _ hcr => exact .inr ⟨hcr, rfl⟩
  | refused x hk _ => exact absurd hk hr.kind
  | again config hk _ _ => exact absurd hk hr.kind
  | signedIn config p i hk _ _ _ _ => exact absurd hk hr.kind
  | nobody config p hk _ _ _ _ => exact absurd hk hr.kind
  | unresolved config p e hk _ _ _ _ => exact absurd hk hr.kind

theorem settled_of_ends {x : Option Envelope} (h : r.Ends x) (hrep : r.replies = x.toList) :
    r.Settled where
  answered := by
    rw [hrep]
    cases x with
    | none => exact ⟨fun _ => unanswerable_of_ends h, fun _ => rfl⟩
    | some e => exact ⟨nofun, fun hu => absurd h (not_ends_of_unanswerable hu)⟩
  ok hr v := by
    rw [hrep]
    rcases ends_of_runBy hr h with ⟨hcr, result, hret, rfl⟩ | ⟨hcr, rfl⟩
    · cases result with
      | ok u =>
        refine ⟨fun he => ⟨hcr, ?_⟩, fun he => ?_⟩
        · cases he; exact hret
        · cases Program.returns_unique hret he.2; rfl
      | error f =>
        refine ⟨nofun, fun he => ?_⟩
        cases Program.returns_unique hret he.2
    · refine ⟨nofun, fun he => ?_⟩
      rw [hcr] at he
      cases he.1
  error hr hcr f := by
    rw [hrep]
    rcases ends_of_runBy hr h with ⟨_, result, hret, rfl⟩ | ⟨hcr', rfl⟩
    · cases result with
      | ok u =>
        refine ⟨nofun, fun he => ?_⟩
        cases Program.returns_unique hret he
      | error g =>
        refine ⟨fun he => ?_, fun he => ?_⟩
        · cases he; exact hret
        · cases Program.returns_unique hret he; rfl
    · rw [hcr] at hcr'; cases hcr'
  crashed hr hcr := by
    rw [hrep]
    rcases ends_of_runBy hr h with ⟨hcr', _⟩ | ⟨_, rfl⟩
    · rw [hcr] at hcr'; cases hcr'
    · rfl

/-- At every moment a request has at most one answer, and that is the one it ends with. -/
theorem replies_of_stands {lost : Prop} {w : Worker} (h : r.Stands lost w) :
    r.replies = [] ∨ ∃ e, r.replies = [e] ∧ e.isReply = true ∧ e.correlationId? = some r.id ∧
      r.Ends (some e) := by
  unfold Stands at h
  split at h
  · exact .inl h.1
  · exact .inl h.1
  · rcases h with ⟨x, hx, hrep⟩ | ⟨_, hrep⟩
    · cases x with
      | none => exact .inl hrep
      | some e =>
        obtain ⟨he, hid⟩ := correlationId?_of_ends hx
        exact .inr ⟨e, hrep, he, hid, hx⟩
    · exact .inl hrep

theorem settled_of_stands {lost : Prop} {w : Worker} (hl : ¬ lost) (h : r.Stands lost w)
    (hw : ∀ o, w.Owes o = false) : r.Settled := by
  cases ho : r.owner with
  | some o =>
    have := Worker.owes_of_stands h ho
    rw [hw] at this
    cases this
  | none =>
    simp only [Stands, ho] at h
    rcases h with ⟨x, hx, hrep⟩ | ⟨h, _⟩
    · exact settled_of_ends hx hrep
    · exact absurd h hl

end Row

namespace Worker

variable {ss : History} {w w' : Worker} {rows : List Row} {s : Step Worker Turn}

/-- Answers can be lost: nobody takes them, or the worker is stopped with all its tasks. -/
def Lost (ss : History) : Prop := ∃ s ∈ ss, s.action = .act .abandon ∨ s.action = .act .halt

theorem Lost.snoc (h : Lost ss) (s : Step Worker Turn) : Lost (ss ++ [s]) := by
  obtain ⟨x, hx, ha⟩ := h
  exact ⟨x, List.mem_append_left _ hx, ha⟩

theorem ledger_of_run {disk : Option DataDir} {now : UInt64}
    (run : Run react? (start disk now) ss w) : Ledger (Lost ss) (ledger ss) w := by
  induction run with
  | nil => exact .start disk now
  | @snoc ss w t w' _ h ih =>
    rw [ledger_snoc]
    refine (ih.mono fun hl => hl.snoc _).noted h fun ht => ?_
    exact ⟨_, List.mem_append_right _ (List.mem_singleton.mpr rfl), ht⟩

/-! ## Whose rows there are -/

theorem request_advance (o : Owner) (r : Row) : (advance s o r).request = r.request := by
  unfold advance
  split <;> rfl

theorem requests_note (h : s.before.react? s.action = some s.after) : (note rows s).map Row.request =
    rows.map Row.request ++ (received? s).toList.filter (·.isRequest) := by
  have hmap : ∀ o, (rows.map (advance s o)).map Row.request = rows.map Row.request := fun o => by
    rw [List.map_map]
    exact List.map_congr_left fun r _ => request_advance o r
  obtain ⟨w, t, w'⟩ := s
  cases t with
  | deliver e => exact (List.append_nil _).symm
  | collect => exact (List.append_nil _).symm
  | act a =>
    cases a with
    | receive =>
      show (rows ++ (rowOf? _).toList).map Row.request = _
      rw [List.map_append]
      unfold rowOf?
      cases received? ⟨w, .act .receive, w'⟩ with
      | none => rfl
      | some e => cases e <;> rfl
    | provide p => exact (hmap _).trans (List.append_nil _).symm
    | run n => exact (hmap _).trans (List.append_nil _).symm
    | endCall n e => exact (hmap _).trans (List.append_nil _).symm
    | halt =>
      show (rows.map fun r => { r with owner := none }).map Row.request = _ ++ []
      rw [List.map_map, List.append_nil]
      rfl
    | _ => exact (List.append_nil _).symm

theorem mem_note {r : Row} (h : r ∈ note rows s) :
    (∃ q ∈ rows, q.request = r.request ∧ q.config = r.config) ∨
      received? s = some r.request ∧ s.before.config? = r.config := by
  have old : ∀ (f : Row → Row), (∀ q, (f q).request = q.request ∧ (f q).config = q.config) →
      r ∈ rows.map f → ∃ q ∈ rows, q.request = r.request ∧ q.config = r.config := by
    intro f hf hr
    obtain ⟨q, hq, rfl⟩ := List.mem_map.mp hr
    exact ⟨q, hq, (hf q).1.symm, (hf q).2.symm⟩
  have advanced : ∀ o q, (advance s o q).request = q.request ∧ (advance s o q).config = q.config := by
    intro o q
    unfold advance
    split
    · exact ⟨rfl, rfl⟩
    · exact ⟨rfl, rfl⟩
  unfold note at h
  split at h
  · rcases List.mem_append.mp h with h | h
    · exact .inl ⟨r, h, rfl, rfl⟩
    · unfold rowOf? at h
      split at h
      · rename_i hrec
        cases List.mem_singleton.mp h
        exact .inr ⟨hrec, rfl⟩
      · cases h
  · exact .inl (old (fun q => { q with owner := none }) (fun _ => ⟨rfl, rfl⟩) h)
  · split at h
    · exact .inl (old _ (advanced _) h)
    · exact .inl ⟨r, h, rfl, rfl⟩
  · exact .inl ⟨r, h, rfl, rfl⟩

theorem requests_of_run {start : Worker} (run : Run react? start ss w) :
    (ledger ss).map Row.request = (ss.filterMap received?).filter (·.isRequest) := by
  induction run with
  | nil => rfl
  | @snoc ss w t w' _ h ih =>
    rw [ledger_snoc, requests_note h, ih, List.filterMap_append, List.filter_append]
    cases hr : received? ⟨w, t, w'⟩ <;> simp [hr]

/-! ## Whose replies there are -/

theorem advance_of_ne {o : Owner} {r : Row} (h : r.owner ≠ some o) : advance s o r = r := if_neg h

theorem replies_advance {o : Owner} (hn : (rows.filterMap (·.owner)).Nodup)
    (hm : ∃ r ∈ rows, r.owner = some o) :
    ((rows.map (advance s o)).flatMap (·.replies)).Perm (rows.flatMap (·.replies) ++ repliesOf s) := by
  induction rows with
  | nil => obtain ⟨r, hr, _⟩ := hm; cases hr
  | cons r rows ih =>
    rw [List.map_cons, List.flatMap_cons, List.flatMap_cons, List.append_assoc]
    by_cases ho : r.owner = some o
    · rw [List.filterMap_cons, ho, List.nodup_cons] at hn
      have hrest : rows.map (advance s o) = rows := by
        refine List.map_congr_left (g := id) (fun q hq => advance_of_ne fun hqo => ?_) |>.trans
          (List.map_id rows)
        exact hn.1 (List.mem_filterMap.mpr ⟨q, hq, hqo⟩)
      have hrow : (advance s o r).replies = r.replies ++ repliesOf s := by
        rw [advance, if_pos ho]
      rw [hrest, hrow, List.append_assoc]
      exact List.perm_append_comm.append_left r.replies
    · rw [advance_of_ne ho]
      refine (ih ?_ ?_).append_left r.replies
      · rw [List.filterMap_cons] at hn
        split at hn
        · exact hn
        · exact (List.nodup_cons.mp hn).2
      · obtain ⟨q, hq, hqo⟩ := hm
        rcases List.mem_cons.mp hq with rfl | hq
        · exact absurd hqo ho
        · exact ⟨q, hq, hqo⟩

theorem repliesOf_of_forward (h : w.forward? = some w') :
    repliesOf ⟨w, .act .forward, w'⟩ = [] := by
  obtain ⟨w₁, es, _, hes, rfl⟩ := forward?_eq_some h
  rw [repliesOf, posted_of_outbox rfl, List.filter_eq_nil_iff]
  intro e he
  rw [hes e he]
  exact Bool.false_ne_true

theorem replies_note {lost : Prop} (l : Ledger lost rows w) {t : Turn}
    (h : w.react? t = some w') : ((note rows ⟨w, t, w'⟩).flatMap (·.replies)).Perm
      (rows.flatMap (·.replies) ++ repliesOf ⟨w, t, w'⟩) := by
  have quiet : repliesOf ⟨w, t, w'⟩ = [] → note rows ⟨w, t, w'⟩ = rows →
      ((note rows ⟨w, t, w'⟩).flatMap (·.replies)).Perm
        (rows.flatMap (·.replies) ++ repliesOf ⟨w, t, w'⟩) := by
    intro hr hn
    rw [hr, hn, List.append_nil]
  cases t with
  | deliver e => exact quiet rfl rfl
  | collect => exact quiet rfl rfl
  | act a =>
    cases a with
    | receive =>
      show ((rows ++ (rowOf? _).toList).flatMap (·.replies)).Perm _
      rw [List.flatMap_append]
      refine List.Perm.append_left _ ?_
      obtain ⟨_, _, e, rest, hi, rfl⟩ := receive?_eq_some h
      have hin : ∀ x, received? ⟨w, .act .receive, x⟩ = some e := fun _ => by simp [received?, hi]
      have nothing : ∀ x : Worker, x.outbox = w.outbox → repliesOf ⟨w, .act .receive, x⟩ = [] :=
        fun _ hx => repliesOf_of_outbox hx
      unfold rowOf?
      rw [hin]
      cases e with
      | request id kind payload => simp
      | _ => exact .of_eq (nothing _ rfl).symm
    | provide p =>
      obtain ⟨id, config, hs, _⟩ := provide_eq_some h
      exact replies_advance l.owners (l.owed (o := .setUp) (congrArg Option.isSome hs))
    | run n =>
      obtain ⟨_, t, _, ht, _⟩ := withTask_eq_some h
      exact replies_advance l.owners (l.owed (o := .task n) (congrArg Option.isSome ht))
    | endCall n e =>
      obtain ⟨_, t, _, ht, _⟩ := withTask_eq_some h
      exact replies_advance l.owners (l.owed (o := .task n) (congrArg Option.isSome ht))
    | forward => exact quiet (repliesOf_of_forward h) rfl
    | stop =>
      simp only [react?, step?] at h
      split at h
      · cases h; exact quiet (repliesOf_of_outbox rfl) rfl
      · cases h
    | abandon => cases h; exact quiet (repliesOf_of_outbox rfl) rfl
    | halt =>
      have hr : repliesOf ⟨w, .act .halt, w'⟩ = [] := by cases h; exact repliesOf_of_outbox rfl
      show ((rows.map fun r => { r with owner := none }).flatMap (·.replies)).Perm _
      rw [List.flatMap_map, hr, List.append_nil]

theorem replies_perm_of_run {disk : Option DataDir} {now : UInt64}
    (run : Run react? (start disk now) ss w) :
    ((ledger ss).flatMap (·.replies)).Perm ((ss.flatMap posted).filter (·.isReply)) := by
  rw [List.filter_flatMap]
  induction run with
  | nil => exact .nil
  | @snoc ss w t w' run h ih =>
    rw [ledger_snoc, List.flatMap_append]
    refine (replies_note (ledger_of_run run) h).trans (ih.append ?_)
    rw [List.flatMap_singleton]
    exact .refl _

theorem length_answers {id : String} (h : ∀ r ∈ rows, r.replies = [] ∨ ∃ e, r.replies = [e] ∧
    e.isReply = true ∧ e.correlationId? = some r.id ∧ r.Ends (some e)) :
    ((rows.flatMap (·.replies)).filter (·.answers id)).length =
      (rows.filter fun r => r.id == id && !r.replies.isEmpty).length := by
  induction rows with
  | nil => rfl
  | cons r rows ih =>
    have hrest := ih fun q hq => h q (List.mem_cons_of_mem _ hq)
    rw [List.flatMap_cons, List.filter_append, List.length_append, hrest, List.filter_cons]
    rcases h r List.mem_cons_self with hr | ⟨e, hr, he, hid, _⟩
    · simp [hr]
    · by_cases hi : r.id = id
      · simp [hr, Envelope.answers, he, hid, hi]; omega
      · simp [hr, Envelope.answers, he, hid, hi]

/-! ## Main statement -/

/-- Each request that is received has its row, and each reply that is posted belongs to one of them.
A row has at most one reply, which carries its id and says how the request ended; once nothing is
under way, only requests that never get an answer are without one. -/
theorem replies_of_run {disk : Option DataDir} {now : UInt64}
    (run : Run react? (start disk now) ss w) :
    (ledger ss).map Row.request = (ss.filterMap received?).filter (·.isRequest) ∧
    ((ledger ss).flatMap (·.replies)).Perm ((ss.flatMap posted).filter (·.isReply)) ∧
    (∀ id, ((ss.flatMap posted).filter (·.answers id)).length =
      ((ledger ss).filter fun r => r.id == id && !r.replies.isEmpty).length) ∧
    (∀ r ∈ ledger ss, r.replies = [] ∨ ∃ e, r.replies = [e] ∧ e.isReply = true ∧
      e.correlationId? = some r.id ∧ r.Ends (some e)) ∧
    (¬ Lost ss → w.tasks = [] → w.settingUp = none → ∀ r ∈ ledger ss, r.Settled) := by
  have l := ledger_of_run run
  have hperm := replies_perm_of_run run
  have hone : ∀ r ∈ ledger ss, _ := fun r hr => Row.replies_of_stands (l.stands hr)
  refine ⟨requests_of_run run, hperm, fun id => ?_, hone, fun hl ht hs r hr => ?_⟩
  · have hfilter : (ss.flatMap posted).filter (·.answers id) =
        ((ss.flatMap posted).filter (·.isReply)).filter (·.answers id) := by
      rw [List.filter_filter]
      refine List.filter_congr fun e _ => ?_
      unfold Envelope.answers
      cases e.isReply <;> simp
    rw [hfilter, ← (hperm.filter _).length_eq]
    exact length_answers hone
  · refine Row.settled_of_stands hl (l.stands hr) fun o => ?_
    cases o with
    | setUp => exact congrArg Option.isSome hs
    | task n => simp [Owes, task?, ht]

/-- One id for all: a request that comes too early, one that nobody knows, one to set up the agent and
one that goes to a handler, whose call goes down. -/
theorem replies_of_run_of_one_id :
    ∃ ss w, Run react? (start none 0) ss w ∧
      ss.flatMap posted = [.error "a" .agentNotInitialized, .response "a" .null,
        .error "a" (.internal "markAsOnline handler panicked")] ∧
      ((ledger ss).filter fun r => r.id == "a" && !r.replies.isEmpty).length = 3 ∧
      ∀ r ∈ ledger ss, r.Settled := by
  have run : ∃ ss w, Run react? (start none 0) ss w ∧
      ss.flatMap posted = [.error "a" .agentNotInitialized, .response "a" .null,
        .error "a" (.internal "markAsOnline handler panicked")] ∧
      ¬ Lost ss ∧ w.tasks = [] ∧ w.settingUp = none := by
    refine ⟨_, _, .of_play [.deliver (.request "a" "getBio" .null),
      .deliver (.request "a" "nothing" .null),
      .deliver (.request "a" "init" ((Wire.codec : Codec AgentConfig).toValue .standard)),
      .deliver (.request "a" "markAsOnline" .null), .act .receive, .act .receive, .act .receive,
      .act (.provide (.ok (some ⟨"me"⟩))), .act .receive, .act (.run 0), .act (.endCall 0 .crashed)] rfl,
      rfl, ?_, rfl, rfl⟩
    simp [Lost]
  obtain ⟨ss, w, run, hp, hl, ht, hs⟩ := run
  have h := replies_of_run run
  refine ⟨ss, w, run, hp, ?_, h.2.2.2.2 hl ht hs⟩
  rw [← h.2.2.1 "a", hp]
  rfl

end Worker
end ChatBridge
