import ChatBridge.Proofs.Backlog
import ChatBridge.Proofs.Worker.Founding

/-!
# From the agent to the outbox

What the tasks report goes into one backlog, and from there into the outbox. The backlog comes with
the agent, before anything is reported, and it is never replaced by another one. It goes when nobody
takes from the outbox any more, or when the worker ends.
-/

namespace ChatBridge

def Program.event? {α : Type} : Program α → Option Event
  | .emit e _ => some e
  | _ => none

def Envelope.event? : Envelope → Option Event
  | .event e => some e
  | _ => none

theorem Envelope.event?_of_isReply {e : Envelope} (h : e.isReply = true) : e.event? = none := by
  cases e with
  | event e => cases h
  | _ => rfl

namespace Worker

/-! ## Reading a step -/

def emitted? (x : Step Worker Turn) : Option Event :=
  match x.action with
  | .act (.run n) => (x.before.task? n).bind fun t => t.program.event?
  | _ => none

def eventsOf (x : Step Worker Turn) : List Event := (posted x).filterMap Envelope.event?

def relayed? (x : Step Worker Turn) : Option (Step (Backlog Event) (Backlog.Use Event)) :=
  match x.action with
  | .act (.run _) => x.before.events.bind fun b =>
    (emitted? x).map fun e => ⟨b, .push e, b.push e⟩
  | .act .forward => x.before.events.bind fun b => b.next?.map fun i => ⟨b, .read, i.2⟩
  | _ => none

def emitted (ss : History) : List Event := ss.filterMap emitted?

def postedEvents (ss : History) : List Event := ss.flatMap eventsOf

def relayed (ss : History) : Backlog.Record Event := ss.filterMap relayed?

/-! ## What a step does -/

variable {w w₁ w' : Worker} {x : Turn} {a : Action} {e : Envelope} {g : Agent} {t : Task}

theorem eventsOf_of_outbox (h : w'.outbox = w.outbox) : eventsOf ⟨w, .act a, w'⟩ = [] := by
  rw [eventsOf, posted_of_outbox (h.trans (List.append_nil _).symm)]
  rfl

theorem eventsOf_of_post (h : w₁.outbox = w.outbox) (he : e.event? = none) :
    eventsOf ⟨w, .act a, w₁.post e⟩ = [] := by
  rw [eventsOf, posted_of_outbox (by rw [outbox_post, h])]
  split
  · rfl
  · simp [he]

theorem events_of_run? (h : w.run? g t = some w') :
    w'.events = match t.program.event? with
      | some e => w.events.map (·.push e)
      | none => w.events := by
  unfold run? at h
  cases hp : t.program with
  | done v => simp only [hp] at h; cases h; exact events_post ..
  | fail f => simp only [hp] at h; cases h; exact events_post ..
  | userCanister next => simp only [hp] at h; cases h; rfl
  | setUserCanister canister next => simp only [hp] at h; cases h; rfl
  | enter g next =>
    cases hph : t.phase with
    | running => simp only [hp, hph] at h; cases h; rfl
    | _ =>
      simp only [hp, hph] at h
      split at h
      · cases h; rfl
      · cases h
  | leave g next => simp only [hp] at h; cases h; rfl
  | call c next =>
    cases hph : t.phase with
    | running => simp only [hp, hph] at h; cases h; rfl
    | _ => simp only [hp, hph] at h; cases h
  | users next => simp only [hp] at h; cases h; rfl
  | upsert users next => simp only [hp] at h; cases h; rfl
  | save users next =>
    simp only [hp] at h
    cases h
    show (w.saveUsers users g).events = w.events
    unfold saveUsers
    split
    · rfl
    · rfl
  | emit e next => simp only [hp] at h; cases h; rfl

theorem eventsOf_of_ran (h : Ran w g t w') : eventsOf ⟨w, .act a, w'⟩ = [] := by
  cases h with
  | ended r _ => exact eventsOf_of_post rfl (Envelope.event?_of_isReply (by simp))
  | waits w₁ p hq _ => exact eventsOf_of_outbox hq.outbox
  | goesOn w₁ x p hq _ _ => exact eventsOf_of_outbox hq.outbox

theorem events_of_endCall? {c : CallEnd} (h : w.endCall? g t c = some w') :
    w'.events = w.events := by
  unfold endCall? at h
  split at h
  · cases h; rfl
  · cases h; exact events_post ..
  · cases h

inductive Relay (w : Worker) (x : Turn) (w' : Worker) : Prop
  | nothing (he : emitted? ⟨w, x, w'⟩ = none) (hr : relayed? ⟨w, x, w'⟩ = none)
      (hp : eventsOf ⟨w, x, w'⟩ = []) (hw : w'.events = w.events)
  | begins (ha : w.agent = none) (ha' : w'.agent.isSome) (he : emitted? ⟨w, x, w'⟩ = none)
      (hr : relayed? ⟨w, x, w'⟩ = none) (hp : eventsOf ⟨w, x, w'⟩ = [])
      (hw : w'.events = some (.empty Limits.unreadEvents))
  | emits (e : Event) (ha : w.agent.isSome) (he : emitted? ⟨w, x, w'⟩ = some e)
      (hr : relayed? ⟨w, x, w'⟩ = w.events.map fun b => ⟨b, .push e, b.push e⟩)
      (hp : eventsOf ⟨w, x, w'⟩ = []) (hw : w'.events = w.events.map (·.push e))
  | forwards (b b' : Backlog Event) (i : Backlog.Item Event) (hb : w.events = some b)
      (hn : b.next? = some (i, b')) (he : emitted? ⟨w, x, w'⟩ = none)
      (hr : relayed? ⟨w, x, w'⟩ = some ⟨b, .read, b'⟩)
      (hp : eventsOf ⟨w, x, w'⟩ = i.received?.toList) (hw : w'.events = some b')
  | ends (hl : x = .act .halt ∨ w.abandoned = true) (he : emitted? ⟨w, x, w'⟩ = none)
      (hr : w.events = none → relayed? ⟨w, x, w'⟩ = none) (hp : eventsOf ⟨w, x, w'⟩ = [])
      (hw : w'.events = none)

theorem relay_of_handle (ho : w₁.outbox = w.outbox) (hw : w₁.events = w.events) (e : Envelope) :
    Relay w (.act .receive) (w₁.handle e) := by
  have kept {w' : Worker} (ho' : w'.outbox = w₁.outbox) (hw' : w'.events = w₁.events) :
      Relay w (.act .receive) w' :=
    .nothing rfl rfl (eventsOf_of_outbox (ho'.trans ho)) (hw'.trans hw)
  have answered {e : Envelope} (he : e.event? = none) : Relay w (.act .receive) (w₁.post e) :=
    .nothing rfl rfl (eventsOf_of_post ho he) ((events_post ..).trans hw)
  cases e with
  | request id kind payload =>
    have h := handled w₁ id kind payload
    generalize w₁.handle (.request id kind payload) = w' at h ⊢
    cases h with
    | refused _ _ _ => exact answered rfl
    | again _ _ _ _ => exact answered rfl
    | begun _ _ _ _ => exact kept rfl rfl
    | unknown _ _ => exact kept rfl rfl
    | early _ _ _ _ => exact answered rfl
    | spawned _ _ _ _ _ => exact kept rfl rfl
  | _ => exact kept rfl rfl

theorem relay_of_provide {p : Provided} (hwait : w.settingUp.isSome = true → w.agent = none)
    (h : w.step? (.provide p) = some w') : Relay w (.act (.provide p)) w' := by
  obtain ⟨id, config, hs, rfl⟩ := provide_eq_some h
  cases hi : resolveIdentity p with
  | error e =>
    rw [endSetUp_of_error hi]
    exact .nothing rfl rfl (eventsOf_of_post rfl rfl) (events_post ..)
  | ok i =>
    cases i with
    | none =>
      rw [endSetUp_of_nobody hi]
      exact .nothing rfl rfl (eventsOf_of_outbox rfl) rfl
    | some i =>
      rw [endSetUp_of_identity hi]
      have hmade : ({ w with settingUp := none }.setUp id config i).agent.isSome := by
        simp [setUp]
      exact .begins (hwait (by rw [hs]; rfl)) hmade rfl rfl (eventsOf_of_post rfl rfl)
        (events_post ..)

theorem relay_of_run {n : Nat} (hg : w.agent = some g) (ht : w.task? n = some t)
    (h : w.run? g t = some w') : Relay w (.act (.run n)) w' := by
  have he : emitted? ⟨w, .act (.run n), w'⟩ = t.program.event? := by simp [emitted?, ht]
  have hp : eventsOf ⟨w, .act (.run n), w'⟩ = [] := eventsOf_of_ran (ran_of_run? hg h)
  have hw := events_of_run? h
  cases hevent : t.program.event? with
  | none =>
    rw [hevent] at he hw
    exact .nothing he (by simp [relayed?, he]) hp hw
  | some e =>
    rw [hevent] at he hw
    refine .emits e (by rw [hg]; rfl) he ?_ hp hw
    cases hb : w.events <;> simp [relayed?, he, hb]

theorem relay_of_forward (h : w.forward? = some w') : Relay w (.act .forward) w' := by
  unfold forward? at h
  split at h
  · cases h
  · rename_i n b' hn
    obtain ⟨b, hb, hn⟩ := Option.bind_eq_some_iff.mp hn
    cases h
    exact .forwards b b' _ hb hn rfl (by simp [relayed?, hb, hn]) (eventsOf_of_outbox rfl) rfl
  · rename_i e b' hn
    obtain ⟨b, hb, hn⟩ := Option.bind_eq_some_iff.mp hn
    split at h
    · rename_i hw
      cases h
      have hb' : w.events ≠ none := by rw [hb]; nofun
      exact .ends (.inr hw) rfl (fun hnone => absurd hnone hb') (eventsOf_of_outbox rfl) rfl
    · rename_i hw
      cases h
      refine .forwards b b' _ hb hn rfl (by simp [relayed?, hb, hn]) ?_ (events_post ..)
      have hout : (post { w with events := some b' } (.event e)).outbox =
          w.outbox ++ [.event e] := by
        rw [outbox_post, if_neg hw]
      rw [eventsOf, posted_of_outbox hout]
      rfl

theorem relay_of_react (hwait : w.settingUp.isSome = true → w.agent = none)
    (h : w.react? x = some w') : Relay w x w' := by
  cases x with
  | deliver e => cases h; exact .nothing rfl rfl rfl rfl
  | collect =>
    unfold react? at h
    dsimp only at h
    split at h
    · cases h
    · cases h; exact .nothing rfl rfl rfl rfl
  | act a =>
    cases a with
    | receive =>
      obtain ⟨_, _, e, rest, _, rfl⟩ := receive?_eq_some h
      apply relay_of_handle
      · rfl
      · rfl
    | provide p => exact relay_of_provide hwait h
    | run n =>
      obtain ⟨g, t, hg, ht, h⟩ := withTask_eq_some h
      exact relay_of_run hg ht h
    | endCall n c =>
      obtain ⟨g, t, hg, _, h⟩ := withTask_eq_some h
      refine .nothing rfl rfl ?_ (events_of_endCall? h)
      rcases endCall?_eq_some hg h with ⟨r, p, _, _, rfl⟩ | ⟨_, w₁, hq, rfl⟩
      · exact eventsOf_of_outbox rfl
      · exact eventsOf_of_post hq.outbox rfl
    | forward => exact relay_of_forward h
    | stop =>
      simp only [react?, step?] at h
      split at h
      · cases h; exact .nothing rfl rfl (eventsOf_of_outbox rfl) rfl
      · cases h
    | abandon => cases h; exact .nothing rfl rfl (eventsOf_of_outbox rfl) rfl
    | halt => cases h; exact .ends (.inl rfl) rfl (fun _ => rfl) (eventsOf_of_outbox rfl) rfl

theorem agent_eq_none_of_react (h : w.react? x = some w') (hn : w'.agent = none) :
    w.agent = none := by
  rcases agent_of_react h with hsame | ⟨a, rfl, h⟩
  · exact hsame.symm.trans hn
  · rcases agent_of_step h with hsame | ⟨_, _, _, _, _, _, hmade⟩ | ⟨_, _, _, _, _, hg', _⟩
    · exact hsame.symm.trans hn
    · cases hn.symm.trans hmade
    · cases hn.symm.trans hg'

/-- Asking again for an agent that is there brings no events and leaves the backlog alone. -/
theorem relayed_of_init {id : String} {payload : Json}
    (hwait : w.settingUp.isSome = true → w.agent = none) (h : w.react? x = some w')
    (hr : received? ⟨w, x, w'⟩ = some (.request id initKind payload))
    (hg : w.agent.isSome = true) :
    w'.events = w.events ∧ emitted? ⟨w, x, w'⟩ = none ∧ eventsOf ⟨w, x, w'⟩ = [] := by
  cases x with
  | act a =>
    refine ⟨(kept_of_init h hr hg).2, ?_⟩
    cases a with
    | receive =>
      refine ⟨rfl, ?_⟩
      cases relay_of_react hwait h with
      | forwards _ _ _ _ _ _ hread _ _ => cases hread
      | _ => assumption
    | _ => cases hr
  | _ => cases hr

theorem events_of_made (h : w.react? x = some w') (hn : w.agent = none)
    (ha : w'.agent.isSome = true) : w'.events.isSome = true := by
  obtain ⟨g', hg'⟩ := Option.isSome_iff_exists.mp ha
  rcases agent_of_react h with hsame | ⟨a, rfl, h⟩
  · cases hg'.symm.trans (hsame.trans hn)
  · rcases agent_of_step h with hsame | ⟨_, _, i, _, rfl, hi, _⟩ | ⟨_, _, _, _, hg, _⟩
    · cases hg'.symm.trans (hsame.trans hn)
    · obtain ⟨id, config, _, rfl⟩ := provide_eq_some h
      rw [endSetUp_of_identity (resolveIdentity_eq_somebody.mpr ⟨rfl, hi⟩), setUp, events_post]
      rfl
    · cases hn.symm.trans hg

/-! ## Runs -/

/-- The backlog is what the reports and the forwarding have made of the first one. -/
structure Relaying (lost : Prop) (reports : List Event) (r : Backlog.Record Event)
    (es : List Event) (w : Worker) : Prop where
  stands : w.agent.isSome = true → ¬ lost → w.events.isSome = true
  silent : w.agent = none → w.events = none ∧ reports = [] ∧ r = [] ∧ es = []
  posted : es.Sublist reports
  running : ∀ {b}, w.events = some b → Run Backlog.use? (.empty Limits.unreadEvents) r b ∧
    Backlog.sent r = reports ∧ Backlog.received r = es

namespace Relaying

variable {lost lost' : Prop} {reports es : List Event} {r r' : Backlog.Record Event}

theorem start (disk : Option DataDir) (now : UInt64) :
    Relaying lost [] [] [] (Worker.start disk now) where
  stands h := by cases h
  silent _ := ⟨rfl, rfl, rfl, rfl⟩
  posted := .slnil
  running h := by cases h

theorem mono (f : Relaying lost reports r es w) (hl : lost → lost') :
    Relaying lost' reports r es w :=
  ⟨fun ha hn => f.stands ha fun h => hn (hl h), f.silent, f.posted, f.running⟩

variable (f : Relaying lost reports r es w) (h : w.react? x = some w')
include f h

theorem kept (hw : w'.events = w.events) : Relaying lost reports r es w' where
  stands ha hn := by
    cases hold : w.agent with
    | none => exact events_of_made h hold ha
    | some g => rw [hw]; exact f.stands (by rw [hold]; rfl) hn
  silent ha := by rw [hw]; exact f.silent (agent_eq_none_of_react h ha)
  posted := f.posted
  running hb := f.running (hw ▸ hb)

omit h in
theorem begins (ha : w.agent = none) (ha' : w'.agent.isSome = true)
    (hw : w'.events = some (.empty Limits.unreadEvents)) : Relaying lost reports r es w' := by
  obtain ⟨_, rfl, rfl, rfl⟩ := f.silent ha
  refine ⟨fun _ _ => by rw [hw]; rfl, fun hn => ?_, .slnil, fun {b} hb => ?_⟩
  · rw [hn] at ha'
    cases ha'
  · cases hw.symm.trans hb
    exact ⟨.nil, rfl, rfl⟩

theorem emits {e : Event} (ha : w.agent.isSome = true)
    (hw : w'.events = w.events.map (·.push e)) :
    Relaying lost (reports ++ [e])
      (r ++ (w.events.map fun b => ⟨b, .push e, b.push e⟩).toList) es w' where
  stands _ hn := by
    rw [hw, Option.isSome_map]
    exact f.stands ha hn
  silent hn := by
    rw [agent_eq_none_of_react h hn] at ha
    cases ha
  posted := f.posted.trans (List.sublist_append_left _ _)
  running {b} hb := by
    obtain ⟨b₀, hb₀, rfl⟩ := Option.map_eq_some_iff.mp (hw ▸ hb)
    obtain ⟨run, hsent, hreceived⟩ := f.running hb₀
    rw [hb₀]
    refine ⟨run.snoc rfl, ?_, ?_⟩
    · rw [Backlog.sent_append, hsent]
      rfl
    · rw [Backlog.received_append, hreceived]
      exact List.append_nil _

theorem forwards {b b' : Backlog Event} {i : Backlog.Item Event} (hb : w.events = some b)
    (hn : b.next? = some (i, b')) (hw : w'.events = some b') :
    Relaying lost reports (r ++ [⟨b, .read, b'⟩]) (es ++ i.received?.toList) w' := by
  obtain ⟨run, hsent, hreceived⟩ := f.running hb
  have hstep : b.use? .read = some b' := by rw [Backlog.use?, hn]; rfl
  have run' := run.snoc hstep
  have hsent' : Backlog.sent (r ++ [⟨b, .read, b'⟩]) = reports := by
    rw [Backlog.sent_append, hsent]
    exact List.append_nil _
  have hreceived' : Backlog.received (r ++ [⟨b, .read, b'⟩]) = es ++ i.received?.toList := by
    rw [Backlog.received_append, hreceived, Backlog.received, Backlog.items_read, hn]
    cases i <;> rfl
  refine ⟨fun _ _ => by rw [hw]; rfl, fun hnone => ?_, ?_, fun {b₁} hb₁ => ?_⟩
  · cases hb.symm.trans (f.silent (agent_eq_none_of_react h hnone)).1
  · -- what is posted has been received from the backlog
    rw [← hreceived', ← hsent']
    exact (List.sublist_append_left _ _).trans (Backlog.accounted_of_run run').inOrder
  · cases hw.symm.trans hb₁
    exact ⟨run', hsent', hreceived'⟩

theorem ends (hl : lost) (hr : w.events = none → r' = r) (hw : w'.events = none) :
    Relaying lost reports r' es w' where
  stands _ hn := absurd hl hn
  silent hn := by
    obtain ⟨hev, hreports, hrec, hes⟩ := f.silent (agent_eq_none_of_react h hn)
    exact ⟨hw, hreports, (hr hev).trans hrec, hes⟩
  posted := f.posted
  running hb := by cases hw.symm.trans hb

end Relaying

theorem relaying_of_run {ss : History} {disk : Option DataDir} {now : UInt64}
    (run : Run react? (start disk now) ss w) :
    Relaying (Lost ss) (emitted ss) (relayed ss) (postedEvents ss) w := by
  induction run with
  | nil => exact .start disk now
  | @snoc ss w x w' run h ih =>
    have f := ih.mono fun hl => hl.snoc ⟨w, x, w'⟩
    rw [emitted, relayed, postedEvents, filterMap_snoc, filterMap_snoc, List.flatMap_append,
      List.flatMap_singleton]
    cases relay_of_react (fun hs => ((parted_of_run run).waiting hs).1) h with
    | nothing he hr hp hw =>
      rw [he, hr, hp, Option.toList_none, Option.toList_none, List.append_nil, List.append_nil,
        List.append_nil]
      exact f.kept h hw
    | begins ha ha' he hr hp hw =>
      rw [he, hr, hp, Option.toList_none, Option.toList_none, List.append_nil, List.append_nil,
        List.append_nil]
      exact f.begins ha ha' hw
    | emits e ha he hr hp hw =>
      rw [he, hr, hp, List.append_nil]
      exact f.emits h ha hw
    | forwards b b' i hb hn he hr hp hw =>
      rw [he, hr, hp, Option.toList_none, List.append_nil]
      exact f.forwards h hb hn hw
    | ends hend he hr hp hw =>
      have hlost : Lost (ss ++ [⟨w, x, w'⟩]) := by
        rcases hend with rfl | hab
        · exact ⟨_, List.mem_append_right _ (List.mem_singleton.mpr rfl), .inr rfl⟩
        · exact ((ledger_of_run run).abandoned hab).snoc _
      rw [he, hp, Option.toList_none, List.append_nil, List.append_nil]
      exact f.ends h hlost (fun hev => by rw [hr hev]; exact List.append_nil _) hw

end Worker
end ChatBridge
