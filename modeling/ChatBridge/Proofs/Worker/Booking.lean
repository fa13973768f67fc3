import ChatBridge.Proofs.Worker.Ledger

/-!
# Every step keeps the ledger

A request enters the ledger when it is received, at once with its answer or with what will bring the
answer. Its row closes when that ends. Where the worker is halted or its outbox abandoned, answers
are lost.
-/

namespace ChatBridge

namespace Worker

variable {lost : Prop} {rows : List Row} {w w' : Worker} {a : Action} {e : Envelope}

/-! ## What a step posts -/

theorem posted_of_outbox {es : List Envelope} (h : w'.outbox = w.outbox ++ es) :
    posted ⟨w, .act a, w'⟩ = es := by
  simp [posted, h]

theorem repliesOf_of_outbox (h : w'.outbox = w.outbox) : repliesOf ⟨w, .act a, w'⟩ = [] := by
  rw [repliesOf, posted_of_outbox (h.trans (List.append_nil _).symm)]
  rfl

theorem repliesOf_of_post (h : w'.outbox = w.outbox ++ if w.abandoned then [] else [e])
    (he : e.isReply = true) : repliesOf ⟨w, .act a, w'⟩ = if w.abandoned then [] else [e] := by
  rw [repliesOf, posted_of_outbox h]
  split
  · rfl
  · simp [he]

end Worker

namespace Ledger

open Worker

variable {lost : Prop} {rows : List Row} {w w' : Worker} {r : Row}

/-! ## Receiving -/

theorem not_owes_next (l : Ledger lost rows w) : w.task? w.nextTask = none := by
  cases h : w.task? w.nextTask with
  | none => rfl
  | some t => exact absurd (l.fresh (by rw [h]; rfl)) (Nat.lt_irrefl _)

theorem entered (l : Ledger lost rows w) (hkeep : ∀ o, r.owner ≠ some o → w.Keeps w' o)
    (hnew : ∀ o, r.owner = some o → w.Owes o = false) (hr : r.Stands lost w')
    (hfresh : ∀ {n}, (w'.task? n).isSome → n < w'.nextTask) (ha : w'.abandoned = w.abandoned) :
    Ledger lost (rows ++ [r]) w' where
  owners := by
    rw [List.filterMap_append, List.nodup_append]
    refine ⟨l.owners, ?_, fun o ho o' ho' heq => ?_⟩
    · cases h : r.owner <;> simp [h]
    · obtain ⟨q, hq, hqo⟩ := List.mem_filterMap.mp ho
      have hown := owes_of_stands (l.stands hq) hqo
      have hro : r.owner = some o' := by simpa using ho'
      rw [hnew o (heq ▸ hro)] at hown
      cases hown
  owed {o} h := by
    by_cases ho : r.owner = some o
    · exact ⟨r, by simp, ho⟩
    · rw [owes_of_keeps (hkeep o ho)] at h
      obtain ⟨q, hq, hqo⟩ := l.owed h
      exact ⟨q, List.mem_append_left _ hq, hqo⟩
  stands {q} hq := by
    rcases List.mem_append.mp hq with hq | hq
    · refine stands_of_keeps (fun o ho => hkeep o fun hro => ?_) (l.stands hq)
      have hown := owes_of_stands (l.stands hq) ho
      rw [hnew o hro] at hown
      cases hown
    · cases List.mem_singleton.mp hq
      exact hr
  fresh := hfresh
  abandoned h := l.abandoned (ha ▸ h)

theorem entered_over (l : Ledger lost rows w) (hs : w'.settingUp = w.settingUp)
    (ht : w'.tasks = w.tasks) (hn : w'.nextTask = w.nextTask) (ha : w'.abandoned = w.abandoned)
    (ho : r.owner = none) (hr : r.Stands lost w') : Ledger lost (rows ++ [r]) w' := by
  refine l.entered (fun o _ => keeps_of_eq hs ht o) (fun o h => ?_) hr (fun {n} h => ?_) ha
  · rw [ho] at h; cases h
  · rw [task?_of_tasks ht] at h; rw [hn]; exact l.fresh h

theorem ownerAfter_of_kept {t : Turn} (hs : w.settingUp = none) (hf : w.task? w.nextTask = none)
    (hs' : w'.settingUp = w.settingUp) (ht : w'.tasks = w.tasks) : ownerAfter ⟨w, t, w'⟩ = none := by
  have hn : w'.task? w.nextTask = none := by rw [task?_of_tasks ht, hf]
  simp [ownerAfter, Owes, hs', hs, hn]

theorem entered_answered (l : Ledger lost rows w) (hs : w.settingUp = none) {e : Envelope}
    {t : Turn} {id kind : String} {payload : Json} (hw : w' = w.post e)
    (hend : ∀ r : Row, r.id = id → r.kind = kind → r.payload = payload → r.config = w.config? →
      r.Ends (some e)) {ps : List Envelope} (hps : ps = if w.abandoned then [] else [e]) :
    Ledger lost (rows ++ [⟨id, kind, payload, w.config?, ownerAfter ⟨w, t, w'⟩, none, [], false, ps⟩])
      w' := by
  subst hw
  have ho : ownerAfter ⟨w, t, w.post e⟩ = none :=
    ownerAfter_of_kept hs l.not_owes_next (settingUp_post w e) (tasks_post w e)
  refine l.entered_over (settingUp_post w e) (tasks_post w e) (nextTask_post w e)
    (abandoned_post w e) ho ?_
  exact stands_of_end ho l.abandoned (hend _ rfl rfl rfl rfl) hps

theorem entered_begun (l : Ledger lost rows w) (hs : w.settingUp = none) {t : Turn} {id kind : String}
    {payload : Json} {config : AgentConfig} (hk : kind = initKind) (ha : w.agent = none)
    (hd : (Wire.codec : Codec AgentConfig).ofValue payload = .ok config)
    (hw : w' = { w with settingUp := some (id, config) }) :
    Ledger lost (rows ++ [⟨id, kind, payload, w.config?, ownerAfter ⟨w, t, w'⟩, none, [], false, []⟩])
      w' := by
  subst hw
  have ho : ownerAfter ⟨w, t, { w with settingUp := some (id, config) }⟩ = some .setUp := rfl
  rw [ho]
  refine l.entered (fun o h => ?_) (fun o h => ?_) ?_ l.fresh rfl
  · cases o with
    | setUp => exact absurd rfl h
    | task n => rfl
  · cases h
    exact congrArg Option.isSome hs
  · exact ⟨rfl, hk, by rw [config?, ha]; rfl, config, hd, rfl⟩

theorem entered_spawned (l : Ledger lost rows w) (hs : w.settingUp = none) {t : Turn}
    {id kind : String} {payload : Json} {c : Capability} {a : Agent} (hk : kind ≠ initKind)
    (hc : Capability.ofKind? kind = some c) (ha : w.agent = some a)
    (hw : w' = w.spawn a.config id c payload) :
    Ledger lost (rows ++ [⟨id, kind, payload, w.config?, ownerAfter ⟨w, t, w'⟩, none, [], false, []⟩])
      w' := by
  subst hw
  have hf := l.not_owes_next
  have ho : ownerAfter ⟨w, t, w.spawn a.config id c payload⟩ = some (.task w.nextTask) := by
    have hu : (w.spawn a.config id c payload).settingUp = none := hs
    simp [ownerAfter, Owes, hu, task?_spawn hf]
  rw [ho]
  refine l.entered (fun o h => ?_) (fun o h => ?_) ?_ (fun {n} h => ?_) rfl
  · cases o with
    | setUp => rfl
    | task n =>
      have hn : n ≠ w.nextTask := fun hn => h (by rw [hn])
      show (w.spawn a.config id c payload).task? n = w.task? n
      rw [task?_spawn hf, if_neg hn]
  · cases h
    exact congrArg Option.isSome hf
  · refine ⟨rfl, rfl, ⟨w.nextTask, id, c.kind, Operation.handle a.config c payload, .running⟩, c,
      a.config, ?_, rfl, kind_of_ofKind? hc, ⟨hk, hc, ?_⟩, rfl⟩
    · rw [task?_spawn hf, if_pos rfl]
    · rw [config?, ha]; rfl
  · rw [task?_spawn hf] at h
    show n < w.nextTask + 1
    split at h
    · rename_i hn; omega
    · have := l.fresh h; omega

theorem entered_unknown (l : Ledger lost rows w) (hs : w.settingUp = none) {t : Turn}
    {id kind : String} {payload : Json} (hk : kind ≠ initKind) (hc : Capability.ofKind? kind = none) :
    Ledger lost (rows ++ [⟨id, kind, payload, w.config?, ownerAfter ⟨w, t, w⟩, none, [], false, []⟩])
      w := by
  have ho : ownerAfter ⟨w, t, w⟩ = none := ownerAfter_of_kept hs l.not_owes_next rfl rfl
  rw [ho]
  exact l.entered_over rfl rfl rfl rfl rfl (.inl ⟨none, .unknown hk hc, rfl⟩)

/-- A request that is handled, where `w` has taken it from the inbox already. -/
theorem entered_handled (l : Ledger lost rows w) (hs : w.settingUp = none) {t : Turn}
    {id kind : String} {payload : Json} (h : Handled w id kind payload w') {ps : List Envelope}
    (hpost : ∀ e, e.isReply = true → w' = w.post e → ps = if w.abandoned then [] else [e])
    (hquiet : w'.outbox = w.outbox → ps = []) :
    Ledger lost (rows ++ [⟨id, kind, payload, w.config?, ownerAfter ⟨w, t, w'⟩, none, [], false, ps⟩])
      w' := by
  cases h with
  | refused x hk hd =>
    refine l.entered_answered hs rfl (fun r hid hkind hp _ => ?_) (hpost _ rfl rfl)
    subst hid hkind hp
    exact .refused x hk hd
  | again config hk hd ha =>
    refine l.entered_answered hs rfl (fun r hid hkind hp hc => ?_) (hpost _ rfl rfl)
    subst hid hkind hp
    exact .again config hk hd (by rwa [hc, config?, Option.isSome_map])
  | begun config hk hd ha =>
    rw [hquiet rfl]
    exact l.entered_begun hs hk ha hd rfl
  | unknown hk hc =>
    rw [hquiet rfl]
    exact l.entered_unknown hs hk hc
  | early c hk hc ha =>
    refine l.entered_answered hs rfl (fun r hid hkind hp hconf => ?_) (hpost _ rfl rfl)
    subst hid hkind hp
    exact .early c hk hc (by rw [hconf, config?, ha]; rfl)
  | spawned c a hk hc ha =>
    rw [hquiet rfl]
    exact l.entered_spawned hs hk hc ha rfl

theorem received (l : Ledger lost rows w) (h : w.receive? = some w') :
    Ledger lost (note rows ⟨w, .act .receive, w'⟩) w' := by
  obtain ⟨_, hs, e, rest, hi, rfl⟩ := receive?_eq_some h
  have hin : ∀ x, received? ⟨w, .act .receive, x⟩ = some e := fun _ => by simp [received?, hi]
  -- what is left in the inbox has no part in this
  let w₁ : Worker := { w with inbox := rest }
  have l₁ : Ledger lost rows w₁ := l.kept rfl rfl rfl l.abandoned
  show Ledger lost (rows ++ (rowOf? ⟨w, .act .receive, w₁.handle e⟩).toList) (w₁.handle e)
  unfold rowOf?
  rw [hin]
  cases e with
  | response id v => rw [show (none : Option Row).toList = [] from rfl, List.append_nil]; exact l₁
  | error id f => rw [show (none : Option Row).toList = [] from rfl, List.append_nil]; exact l₁
  | event e => rw [show (none : Option Row).toList = [] from rfl, List.append_nil]; exact l₁
  | request id kind payload =>
    refine l₁.entered_handled (t := .act .receive) hs (handled w₁ id kind payload) ?_ ?_
    · exact fun e he hw => repliesOf_of_post (by rw [hw]; exact outbox_post w₁ e) he
    · exact fun hw => repliesOf_of_outbox hw

/-! ## The owners' steps -/

theorem provided (l : Ledger lost rows w) {p : Provided} (h : w.step? (.provide p) = some w') :
    Ledger lost (note rows ⟨w, .act (.provide p), w'⟩) w' := by
  obtain ⟨id, config, hs, rfl⟩ := provide_eq_some h
  obtain ⟨hs', ht, hn, ha⟩ := @endSetUp_kept w id config p
  have hdone : (w.endSetUp id config p).Owes .setUp = false := congrArg Option.isSome hs'
  refine l.advanced (s := ⟨w, .act (.provide p), w.endSetUp id config p⟩) (fun o ho => ?_)
    (congrArg Option.isSome hs) hn ha fun r ho hr => ?_
  · cases o with
    | setUp => exact absurd rfl ho
    | task n => exact task?_of_tasks ht n
  · simp only [Row.Stands, ho] at hr
    obtain ⟨hrep, hk, hc, config', hd, hr⟩ := hr
    cases hs.symm.trans hr
    have hown : (advance ⟨w, .act (.provide p), w.endSetUp r.id config p⟩ .setUp r) = { r with
        owner := none
        provided := some p
        told := r.told ++ []
        crashed := r.crashed || false
        replies := repliesOf ⟨w, .act (.provide p), w.endSetUp r.id config p⟩ } := by
      rw [advance, if_pos ho, hdone, hrep]
      rfl
    rw [hown]
    have ended : ∀ {e : Envelope} {w₁ : Worker}, w.endSetUp r.id config p = w₁.post e →
        w₁.outbox = w.outbox → w₁.abandoned = w.abandoned → e.isReply = true →
        repliesOf ⟨w, .act (.provide p), w.endSetUp r.id config p⟩ =
          if w.abandoned then [] else [e] := by
      intro e w₁ he ho ha hrep
      refine repliesOf_of_post ?_ hrep
      rw [he, outbox_post, ho, ha]
    cases hi : resolveIdentity p with
    | error e =>
      refine stands_of_end rfl l.abandoned ?_ (ended (endSetUp_of_error hi) rfl rfl rfl)
      exact .unresolved config p e hk hd hc rfl hi
    | ok i =>
      cases i with
      | some i =>
        refine stands_of_end rfl l.abandoned ?_ (ended (endSetUp_of_identity hi) rfl rfl rfl)
        exact .signedIn config p i hk hd hc rfl hi
      | none =>
        refine .inl ⟨none, .nobody config p hk hd hc rfl hi, ?_⟩
        exact repliesOf_of_outbox (by rw [endSetUp_of_nobody hi])

section
variable {w₁ : Worker} {a : Action} {n : Nat} {t : Task}

theorem finished (l : Ledger lost rows w) (hq : Quiet w w₁) (ht : w.task? n = some t) {e : Envelope}
    (he : e.isReply = true)
    (hend : ∀ (r : Row) (c : Capability) (config : AgentConfig), t.correlationId = r.id →
      t.kind = r.kind → r.RunBy c config → r.crashed = crashes ⟨w, .act a, w₁.finish t e⟩ →
      (Operation.handle config c r.payload).follow r.told = some t.program → r.Ends (some e))
    (htold : toldBy? ⟨w, .act a, w₁.finish t e⟩ = none) :
    Ledger lost (rows.map (advance ⟨w, .act a, w₁.finish t e⟩ (.task n))) (w₁.finish t e) := by
  have hnum := number_of_task? ht
  have hdone : (w₁.finish t e).Owes (.task n) = false := by
    simp [Owes, task?_finish, hnum]
  have ha : (w₁.finish t e).abandoned = w.abandoned := by
    rw [← hq.abandoned]; exact abandoned_post ..
  refine l.advanced (s := ⟨w, .act a, w₁.finish t e⟩) (fun o ho => ?_) (congrArg Option.isSome ht)
    ?_ ha fun r ho hr => ?_
  · cases o with
    | setUp =>
      show (w₁.finish t e).settingUp = w.settingUp
      rw [← hq.settingUp]; exact settingUp_post ..
    | task m =>
      have hm : m ≠ t.number := fun hm => ho (by rw [hm, hnum])
      show (w₁.finish t e).task? m = w.task? m
      rw [task?_finish, if_neg hm, task?_of_tasks hq.tasks]
  · rw [← hq.nextTask]; exact nextTask_post ..
  · simp only [Row.Stands, ho] at hr
    obtain ⟨hrep, hcr, t', c, config, ht', hid, hkind, hrun, hfollow⟩ := hr
    cases ht.symm.trans ht'
    have hout : (w₁.finish t e).outbox = w.outbox ++ if w.abandoned then [] else [e] := by
      rw [← hq.outbox, ← hq.abandoned]; exact outbox_post ..
    refine stands_of_end (w := w) (e := e) ?_ l.abandoned ?_ ?_
    · rw [advance, if_pos ho, hdone]; rfl
    · rw [advance, if_pos ho, htold]
      refine hend _ c config hid hkind ⟨hrun.kind, hrun.capability, hrun.config⟩ ?_ ?_
      · show (r.crashed || _) = _
        rw [hcr, Bool.false_or]
      · show (Operation.handle config c r.payload).follow (r.told ++ []) = _
        rw [List.append_nil, hfollow]
    · rw [advance, if_pos ho, hrep]
      exact repliesOf_of_post hout he

theorem proceeded (l : Ledger lost rows w) (hq : Quiet w w₁) (ht : w.task? n = some t) {u : Task}
    (hn : u.number = t.number) (hid : u.correlationId = t.correlationId) (hk : u.kind = t.kind)
    (hcr : crashes ⟨w, .act a, w₁.setTask u⟩ = false)
    (hp : t.program.follow (toldBy? ⟨w, .act a, w₁.setTask u⟩).toList = some u.program) :
    Ledger lost (rows.map (advance ⟨w, .act a, w₁.setTask u⟩ (.task n))) (w₁.setTask u) := by
  have hset : ∀ m, (w₁.setTask u).task? m = if m = n then some u else w.task? m :=
    task?_put hq.tasks ht hn
  have howed : (w₁.setTask u).Owes (.task n) = true := by simp [Owes, hset]
  refine l.advanced (s := ⟨w, .act a, w₁.setTask u⟩) (fun o ho => ?_) (congrArg Option.isSome ht)
    hq.nextTask hq.abandoned fun r ho hr => ?_
  · cases o with
    | setUp => exact hq.settingUp
    | task m =>
      show (w₁.setTask u).task? m = w.task? m
      rw [hset, if_neg fun hm => ho (by rw [hm])]
  · simp only [Row.Stands, ho] at hr
    obtain ⟨hrep, hrcr, t', c, config, ht', hrid, hkind, hrun, hfollow⟩ := hr
    cases ht.symm.trans ht'
    have hnone : repliesOf ⟨w, .act a, w₁.setTask u⟩ = [] := repliesOf_of_outbox hq.outbox
    rw [advance, if_pos ho, howed, hnone, hrep, hrcr, hcr]
    refine ⟨rfl, rfl, u, c, config, ?_, hid.trans hrid, hk.trans hkind,
      ⟨hrun.kind, hrun.capability, hrun.config⟩, ?_⟩
    · rw [hset, if_pos rfl]
    · show (Operation.handle config c r.payload).follow (r.told ++ _) = _
      rw [Program.follow_append, hfollow]
      exact hp

theorem told?_of_returns {a : Agent} {x : Except Fault Json} (h : t.program.Returns [] x) :
    t.told? a = none := by
  unfold Task.told?
  cases x with
  | ok v => rw [show t.program = .done v from Option.some.inj h]
  | error f => rw [show t.program = .fail f from Option.some.inj h]

theorem ran (l : Ledger lost rows w) (h : w.step? (.run n) = some w') :
    Ledger lost (note rows ⟨w, .act (.run n), w'⟩) w' := by
  obtain ⟨a, t, ha, ht, h⟩ := withTask_eq_some h
  have htold : ∀ x, toldBy? ⟨w, .act (.run n), x⟩ = t.told? a := fun _ => by
    simp [toldBy?, ha, ht]
  show Ledger lost (rows.map (advance ⟨w, .act (.run n), w'⟩ (.task n))) w'
  cases ran_of_run? ha h with
  | ended x hx =>
    refine l.finished (.refl w) ht (by simp) (fun r c config hid _ hr hcr hf => ?_) ?_
    · rw [hid]
      refine .returned c config x hr hcr ?_
      cases x with
      | ok v => exact hf.trans hx
      | error f => exact hf.trans hx
    · rw [htold, told?_of_returns hx]
  | waits w₁ p hq hn =>
    refine l.proceeded hq ht (u := { t with phase := p }) rfl rfl rfl rfl ?_
    rw [htold, hn]
    rfl
  | goesOn w₁ x p hq hx hp =>
    refine l.proceeded hq ht (u := { t with program := p, phase := .running }) rfl rfl rfl rfl ?_
    rw [htold, hx]
    show (t.program.next? x).bind _ = _
    rw [hp]
    rfl

theorem callEnded (l : Ledger lost rows w) {e : CallEnd} (h : w.step? (.endCall n e) = some w') :
    Ledger lost (note rows ⟨w, .act (.endCall n e), w'⟩) w' := by
  obtain ⟨a, t, ha, ht, h⟩ := withTask_eq_some h
  show Ledger lost (rows.map (advance ⟨w, .act (.endCall n e), w'⟩ (.task n))) w'
  rcases endCall?_eq_some ha h with ⟨r, p, rfl, hp, rfl⟩ | ⟨rfl, w₁, hq, rfl⟩
  · refine l.proceeded (.refl w) ht (u := { t with program := p, phase := .running }) rfl rfl rfl rfl ?_
    show (t.program.next? _).bind _ = _
    rw [hp]
    rfl
  · refine l.finished hq ht rfl (fun r c config hid hkind hr hcr _ => ?_) rfl
    rw [hid, hkind]
    exact .crashed c config hr hcr

end

/-! ## All steps -/

theorem halted (l : Ledger lost rows w) (hl : lost) :
    Ledger lost (rows.map fun r => { r with owner := none })
      { w with serving := false, settingUp := none, tasks := [], events := none } where
  owners := by
    have h : (rows.map fun r => { r with owner := none }).filterMap (·.owner) = [] := by simp
    rw [h]
    exact List.nodup_nil
  owed {o} h := by cases o <;> cases h
  stands {r'} hr' := by
    obtain ⟨r, hr, rfl⟩ := List.mem_map.mp hr'
    have hs := l.stands hr
    cases ho : r.owner with
    | none =>
      have he : { r with owner := none } = r := by rw [← ho]
      rw [he]
      exact stands_of_keeps (fun o h => by rw [ho] at h; cases h) hs
    | some o =>
      simp only [Row.Stands, ho] at hs
      cases o with
      | setUp => exact .inr ⟨hl, hs.1⟩
      | task n => exact .inr ⟨hl, hs.1⟩
  fresh h := by cases h
  abandoned := l.abandoned

theorem noted (l : Ledger lost rows w) {t : Turn} (h : w.react? t = some w')
    (hl : t = .act .abandon ∨ t = .act .halt → lost) : Ledger lost (note rows ⟨w, t, w'⟩) w' := by
  cases t with
  | deliver e => cases h; exact l.kept rfl rfl rfl l.abandoned
  | collect =>
    unfold react? at h
    dsimp only at h
    split at h
    · cases h
    · cases h; exact l.kept rfl rfl rfl l.abandoned
  | act a =>
    cases a with
    | receive => exact l.received h
    | provide p => exact l.provided h
    | run n => exact l.ran h
    | endCall n e => exact l.callEnded h
    | forward =>
      obtain ⟨w₁, es, hq, _, rfl⟩ := forward?_eq_some h
      exact l.kept hq.settingUp hq.tasks hq.nextTask fun ha => l.abandoned (hq.abandoned ▸ ha)
    | stop =>
      simp only [react?, step?] at h
      split at h
      · cases h; exact l.kept rfl rfl rfl l.abandoned
      · cases h
    | abandon => cases h; exact l.kept rfl rfl rfl fun _ => hl (.inl rfl)
    | halt => cases h; exact l.halted (hl (.inr rfl))

end Ledger
end ChatBridge
