import ChatBridge.Proofs.Bridge.Audience
import ChatBridge.Proofs.Stack.Tied
import ChatBridge.Proofs.Worker.Events

/-!
# From the agent to the subscribers

An event passes two backlogs, one between the agent and the outbox of the worker and one for each
subscriber of the client, with a channel between them that loses nothing. So events arrive in the
order in which they were reported, each at most once, and none is lost where both backlogs are read
in time.
-/

namespace ChatBridge.Stack

/-! ## Runs with readers -/

inductive Turn where
  | act (a : Action)
  | read (k : Nat)

def react? (s : Stack) : Turn → Option Stack
  | .act a => s.step? a
  | .read k => (s.client.read? k).map fun c => { s with client := c }

abbrev Course := List (Step Stack Turn)

def workerTurn? (x : Step Stack Turn) : Option (Step Worker Worker.Turn) :=
  match x.action with
  | .act a => turn? ⟨x.before, a, x.after⟩
  | .read _ => none

variable {s s' : Stack} {a : Action} {t : Turn} {ss : Course}

theorem worker_of_react (h : s.react? t = some s') :
    Run Worker.react? s.worker (workerTurn? ⟨s, t, s'⟩).toList s'.worker := by
  cases t with
  | act a => exact worker_of_step h
  | read k =>
    obtain ⟨c, _, rfl⟩ := Option.map_eq_some_iff.mp h
    exact .nil

theorem worker_of_course {s₀ : Stack} (run : Run react? s₀ ss s) :
    Run Worker.react? s₀.worker (ss.filterMap workerTurn?) s.worker := by
  induction run with
  | nil => exact .nil
  | snoc _ h ih => rw [filterMap_snoc]; exact ih.append (worker_of_react h)

/-! ## The way of the events -/

def emitted (ss : Course) : List Event := Worker.emitted (ss.filterMap workerTurn?)

def posted (ss : Course) : List Event := Worker.postedEvents (ss.filterMap workerTurn?)

/-- What is done with the backlog between the agent and the outbox. -/
def relayed (ss : Course) : Backlog.Record Event := Worker.relayed (ss.filterMap workerTurn?)

def attend (a : Audience) (x : Step Stack Turn) : Audience :=
  match x.action with
  | .act (.client c) => a.note x.before.client c
  | .act _ => a
  | .read k => a.read k

def audience (ss : Course) : Audience := ss.foldl attend ⟨[], []⟩

def onTheWay (s : Stack) : List Event := s.inFlight.filterMap Envelope.event?

theorem audience_snoc (ss : Course) (x : Step Stack Turn) :
    audience (ss ++ [x]) = attend (audience ss) x := List.foldl_concat ..

theorem posted_snoc (ss : Course) (x : Step Stack Turn) :
    posted (ss ++ [x]) = posted ss ++ (workerTurn? x).toList.flatMap Worker.eventsOf := by
  rw [posted, filterMap_snoc, Worker.postedEvents, List.flatMap_append]
  rfl

/-- What has been posted was handed out or is on the way. -/
structure Delivers (u : Audience) (es : List Event) (s : Stack) : Prop where
  hears : u.Hears s.client
  posted : es = u.handed ++ s.onTheWay

theorem handed_of_step {u : Audience} {c c' : Client} {b : Client.Action}
    (h : c.step? b = some c') (hb : ∀ e, b ≠ .deliver e) :
    (u.note c b).handed ++ c'.inbox.filterMap Envelope.event? =
      u.handed ++ c.inbox.filterMap Envelope.event? := by
  cases b with
  | handle =>
    obtain ⟨_, e, rest, hi, rfl⟩ := Client.handle?_eq_some h
    rw [(Client.still_receive { c with inbox := rest } e).inbox, hi]
    cases e with
    | event e => simp [Audience.note, hi, Audience.hand, Envelope.event?]
    | request id kind payload => simp [Audience.note, hi, List.filterMap_cons, Envelope.event?]
    | response id v => simp [Audience.note, hi, List.filterMap_cons, Envelope.event?]
    | error id y => simp [Audience.note, hi, List.filterMap_cons, Envelope.event?]
  | deliver e => exact absurd rfl (hb e)
  | subscribe name => cases h; rfl
  | unsubscribe name => cases h; rfl
  | _ => rw [(Client.subscribers_of_step h rfl).2]; rfl

namespace Delivers

variable {u : Audience} {es : List Event}

theorem start (config : AgentConfig) (timeout : Nat) (disk : Option DataDir) (now : UInt64) :
    Delivers ⟨[], []⟩ [] ⟨.connect config timeout, .start disk now⟩ where
  hears := ⟨rfl, nofun⟩
  posted := rfl

theorem client (f : Delivers u es s) {b : Client.Action} {c : Client}
    (h : s.client.step? b = some c) (hb : ∀ e, b ≠ .deliver e) :
    Delivers (u.note s.client b) es ⟨c, s.worker⟩ where
  hears := f.hears.step h
  posted := by
    have hhanded := handed_of_step (u := u) h hb
    rw [f.posted, onTheWay, onTheWay, inFlight, inFlight, List.filterMap_append,
      List.filterMap_append, ← List.append_assoc, ← List.append_assoc, hhanded]

theorem worker (f : Delivers u es s) {b : Worker.Action} {w : Worker}
    (h : s.worker.step? b = some w) :
    Delivers u (es ++ Worker.eventsOf ⟨s.worker, .act b, w⟩) ⟨s.client, w⟩ where
  hears := f.hears
  posted := by
    obtain ⟨added, hout, _⟩ := (Worker.passing_of_step h).outbox
    rw [f.posted, Worker.eventsOf, Worker.posted_of_outbox hout, onTheWay, onTheWay, inFlight,
      inFlight, hout, List.append_assoc, ← List.filterMap_append, List.append_assoc]

theorem carried (f : Delivers u es s) (hs : s'.client.subscribers = s.client.subscribers)
    (hflight : s'.inFlight = s.inFlight) : Delivers u es s' where
  hears := f.hears.of_subscribers hs
  posted := by rw [f.posted, onTheWay, onTheWay, hflight]

theorem step (f : Delivers u es s) (h : s.step? a = some s') :
    Delivers (attend u ⟨s, .act a, s'⟩)
      (es ++ (turn? ⟨s, a, s'⟩).toList.flatMap Worker.eventsOf) s' := by
  have apart {v : Audience} {fs : List Event} (hf : Delivers v es s') (h : fs = []) :
      Delivers v (es ++ fs) s' := by
    rw [h, List.append_nil]
    exact hf
  cases a with
  | client b =>
    simp only [step?] at h
    split at h
    · rename_i hown
      obtain ⟨c, hc, rfl⟩ := Option.map_eq_some_iff.mp h
      exact apart (f.client hc (by rintro e rfl; cases hown)) rfl
    · cases h
  | worker b =>
    obtain ⟨w, hw, rfl⟩ := Option.map_eq_some_iff.mp h
    have hf := f.worker hw
    rw [← List.flatMap_singleton (f := Worker.eventsOf)] at hf
    exact hf
  | carryRequest =>
    simp only [step?, carryRequest?] at h
    split at h
    · rename_i e rest he
      cases h
      refine apart (f.carried rfl rfl) ?_
      simp [turn?, he, Worker.eventsOf, Worker.posted]
    · cases h
  | carryReply =>
    simp only [step?, carryReply?] at h
    split at h
    · rename_i e rest he
      cases h
      exact apart (f.carried rfl (by simp [inFlight, he])) rfl
    · cases h
  | closeRequests =>
    simp only [step?] at h
    split at h
    · cases h
    · obtain ⟨c, hc, rfl⟩ := Option.map_eq_some_iff.mp h
      exact apart (f.client hc (by simp)) rfl
  | closeReplies =>
    simp only [step?] at h
    split at h
    · obtain ⟨c, hc, rfl⟩ := Option.map_eq_some_iff.mp h
      exact apart (f.client hc (by simp)) rfl
    · cases h

theorem react (f : Delivers u es s) (h : s.react? t = some s') :
    Delivers (attend u ⟨s, t, s'⟩)
      (es ++ (workerTurn? ⟨s, t, s'⟩).toList.flatMap Worker.eventsOf) s' := by
  cases t with
  | act a => exact f.step h
  | read k =>
    obtain ⟨c, hc, rfl⟩ := Option.map_eq_some_iff.mp h
    refine ⟨f.hears.read hc, ?_⟩
    obtain ⟨_, _, hc⟩ := Option.bind_eq_some_iff.mp hc
    obtain ⟨_, _, rfl⟩ := Option.map_eq_some_iff.mp hc
    exact (List.append_nil _).trans f.posted

end Delivers

theorem delivers_of_run {config : AgentConfig} {timeout : Nat} {disk : Option DataDir}
    {now : UInt64} (run : Run react? ⟨.connect config timeout, .start disk now⟩ ss s) :
    Delivers (audience ss) (posted ss) s := by
  induction run with
  | nil => exact .start config timeout disk now
  | snoc _ h ih =>
    rw [audience_snoc, posted_snoc]
    exact ih.react h

/-! ## Main statement -/

/-- What the worker posts are reported events, in their order and each once, and between the two
backlogs nothing is lost. As long as the worker has its agent and goes on, it has the one backlog
that all reports go into and all that is posted comes from. Each subscriber has a backlog of its own
that gets the events handed out since it came, and what it receives are events that were reported,
in their order and each once. Both kinds of receiver are accounted for: with room for `unreadEvents`,
one misses only what so many newer events have followed, and misses nothing while it has no more
unread. So nothing is lost where all keep up, and those that came at the same point and keep up get
the same. A subscriber that leaves is accounted for until then, as the part of a run before a step is
a run. Setting up an agent that is there has no part in any of this. -/
theorem deliveries_of_run {config : AgentConfig} {timeout : Nat} {disk : Option DataDir}
    {now : UInt64} (run : Run react? ⟨.connect config timeout, .start disk now⟩ ss s) :
    (posted ss).Sublist (emitted ss) ∧
    posted ss = (audience ss).handed ++ s.onTheWay ∧
    (s.worker.agent.isSome → ¬ Worker.Lost (ss.filterMap workerTurn?) →
      s.worker.events.isSome) ∧
    (∀ b, s.worker.events = some b →
      Run Backlog.use? (.empty Limits.unreadEvents) (relayed ss) b ∧
      Backlog.sent (relayed ss) = emitted ss ∧ Backlog.received (relayed ss) = posted ss ∧
      Backlog.Accounted Limits.unreadEvents (relayed ss) b) ∧
    s.client.subscribers = (audience ss).hearings.map (fun h => (h.name, h.backlog)) ∧
    (∀ h ∈ (audience ss).hearings,
      Run Backlog.use? (.empty Limits.unreadEvents) h.record h.backlog ∧
      Backlog.sent h.record = (audience ss).handed.drop h.since ∧
      Backlog.Accounted Limits.unreadEvents h.record h.backlog ∧
      h.received.Sublist (emitted ss)) ∧
    (∀ b, s.worker.events = some b → Backlog.KeepsUp Limits.unreadEvents (relayed ss) →
      ∀ h ∈ (audience ss).hearings, Backlog.KeepsUp Limits.unreadEvents h.record →
        h.received ++ h.backlog.unread ++ s.onTheWay ++ b.unread = (emitted ss).drop h.since) ∧
    (∀ h ∈ (audience ss).hearings, ∀ g ∈ (audience ss).hearings, h.since = g.since →
      Backlog.KeepsUp Limits.unreadEvents h.record →
      Backlog.KeepsUp Limits.unreadEvents g.record →
        h.received ++ h.backlog.unread = g.received ++ g.backlog.unread) ∧
    (∀ x ∈ ss.filterMap workerTurn?, ∀ id payload, x.before.agent.isSome →
      Worker.received? x = some (.request id initKind payload) →
        x.after.events = x.before.events ∧ Worker.emitted? x = none ∧ Worker.eventsOf x = []) := by
  have hworker := worker_of_course run
  have f := Worker.relaying_of_run hworker
  have d := delivers_of_run run
  have heard {h : Hearing} (hh : h ∈ (audience ss).hearings) :
      Backlog.Accounted Limits.unreadEvents h.record h.backlog :=
    Backlog.accounted_of_run (d.hears.sound h hh).run
  have whole {h : Hearing} (hh : h ∈ (audience ss).hearings)
      (hk : Backlog.KeepsUp Limits.unreadEvents h.record) :
      h.received ++ h.backlog.unread = (audience ss).handed.drop h.since :=
    ((heard hh).kept hk).1.trans (d.hears.sound h hh).sent
  refine ⟨f.posted, d.posted, f.stands, fun b hb => ?_, d.hears.subscribers, fun h hh => ?_,
    fun b hb hkeeps h hh hk => ?_, fun h hh g hg hsame hk hk' => ?_,
    fun x hx id payload ha hr => ?_⟩
  · obtain ⟨hrun, hsent, hreceived⟩ := f.running hb
    exact ⟨hrun, hsent, hreceived, Backlog.accounted_of_run hrun⟩
  · have hsound := d.hears.sound h hh
    refine ⟨hsound.run, hsound.sent, heard hh, ?_⟩
    have hsent : (h.received ++ h.backlog.unread).Sublist ((audience ss).handed.drop h.since) :=
      hsound.sent ▸ (heard hh).inOrder
    have hheard : h.received.Sublist (audience ss).handed :=
      ((List.sublist_append_left _ _).trans hsent).trans (List.drop_sublist _ _)
    have hposted : (audience ss).handed.Sublist (posted ss) := by
      rw [d.posted]
      exact List.sublist_append_left _ _
    exact (hheard.trans hposted).trans f.posted
  · obtain ⟨hrun, hsent, hreceived⟩ := f.running hb
    have hall : posted ss ++ b.unread = emitted ss := by
      have hkept := ((Backlog.accounted_of_run hrun).kept hkeeps).1
      rw [hreceived, hsent] at hkept
      exact hkept
    rw [whole hh hk, ← hall, d.posted, List.append_assoc, List.append_assoc,
      List.drop_append_of_le_length (d.hears.sound h hh).since]
  · rw [whole hh hk, whole hg hk', hsame]
  · obtain ⟨pre, hpre, hstep⟩ := hworker.before_of_mem hx
    exact Worker.relayed_of_init (fun hs => ((Worker.parted_of_run hpre).waiting hs).1) hstep hr ha

/-- Two events with a second request to set up the agent between them. One subscriber is there from
the start and gets both; of two that come after the first event one reads and the other does not. -/
theorem deliveries_of_run_of_two_events :
    ∃ ss s b, Run react? ⟨.connect .standard 1000, .start none 0⟩ ss s ∧
      s.worker.events = some b ∧
      emitted ss = [.storageUpdated ⟨9, 1⟩, .storageUpdated ⟨9, 2⟩] ∧
      (audience ss).hearings.map (fun h => (h.name, h.since, h.received)) =
        [("early", 0, [.storageUpdated ⟨9, 1⟩, .storageUpdated ⟨9, 2⟩]),
          ("late", 1, [.storageUpdated ⟨9, 2⟩]), ("idle", 1, [])] ∧
      Backlog.Accounted Limits.unreadEvents (relayed ss) b ∧
      (∀ h ∈ (audience ss).hearings,
        Backlog.Accounted Limits.unreadEvents h.record h.backlog ∧
        h.received ++ h.backlog.unread ++ s.onTheWay ++ b.unread = (emitted ss).drop h.since) ∧
      ∀ h ∈ (audience ss).hearings, ∀ g ∈ (audience ss).hearings, h.since = g.since →
        h.received ++ h.backlog.unread = g.received ++ g.backlog.unread := by
  have run : ∃ ss s b, Run react? ⟨.connect .standard 1000, .start none 0⟩ ss s ∧
      s.worker.events = some b ∧
      emitted ss = [.storageUpdated ⟨9, 1⟩, .storageUpdated ⟨9, 2⟩] ∧
      (audience ss).hearings.map (fun h => (h.name, h.since, h.received)) =
        [("early", 0, [.storageUpdated ⟨9, 1⟩, .storageUpdated ⟨9, 2⟩]),
          ("late", 1, [.storageUpdated ⟨9, 2⟩]), ("idle", 1, [])] ∧
      Backlog.KeepsUp Limits.unreadEvents (relayed ss) ∧
      ∀ h ∈ (audience ss).hearings, Backlog.KeepsUp Limits.unreadEvents h.record := by
    refine ⟨_, _, _, .of_play [.act (.client (.subscribe "early")),
      .act (.client (.register 0 "a")), .act (.client (.send 0)), .act .carryRequest,
      .act (.worker .receive), .act (.worker (.provide (.ok (some ⟨"me"⟩)))), .act .carryReply,
      .act (.client .handle), .act (.client (.take 0)),
      .act (.client (.call (.request "getUserStorageLimits" .null))),
      .act (.client (.register 1 "b")), .act (.client (.send 1)), .act .carryRequest,
      .act (.worker .receive), .act (.worker (.run 0)),
      .act (.worker (.endCall 0 (.answered (.ok (StorageStatus.record.codec.toValue ⟨9, 1⟩))))),
      .act (.worker (.run 0)), .act (.worker .forward), .act .carryReply, .act (.client .handle),
      .act (.client (.subscribe "late")), .act (.client (.subscribe "idle")),
      .act (.client (.call (.request "init"
        ((Wire.codec : Codec AgentConfig).toValue .standard)))),
      .act (.client (.register 2 "c")), .act (.client (.send 2)), .act .carryRequest,
      .act (.worker .receive),
      .act (.client (.call (.request "getUserStorageLimits" .null))),
      .act (.client (.register 3 "d")), .act (.client (.send 3)), .act .carryRequest,
      .act (.worker .receive), .act (.worker (.run 1)),
      .act (.worker (.endCall 1 (.answered (.ok (StorageStatus.record.codec.toValue ⟨9, 2⟩))))),
      .act (.worker (.run 1)), .act (.worker .forward), .act .carryReply, .act .carryReply,
      .act (.client .handle), .act (.client .handle), .read 0, .read 0, .read 1] rfl,
      rfl, rfl, rfl, ?_, ?_⟩
    · decide
    · decide
  obtain ⟨ss, s, b, run, hb, hem, hhear, hr, hk⟩ := run
  obtain ⟨_, _, _, hforward, _, hheard, hall, hsame, _⟩ := deliveries_of_run run
  exact ⟨ss, s, b, run, hb, hem, hhear, (hforward b hb).2.2.2,
    fun h hh => ⟨(hheard h hh).2.2.1, hall b hb hr h hh (hk h hh)⟩,
    fun h hh g hg hs => hsame h hh g hg hs (hk h hh) (hk g hg)⟩

end ChatBridge.Stack
