import ChatBridge.Proofs.Agent.Hearing
import ChatBridge.Proofs.Snapshot.Reload
import ChatBridge.Proofs.Snapshot.Wire

/-!
# Where polls go on

After the full list has been loaded, each poll is given the state that was returned last and asks for
what has changed since. `cursor_of_polls` says from where on it asks: from the last answer that could
be read, and for each group that is listed from the summary that counted last. A poll that fails has
read no answer, so the next one asks the same again.
-/

namespace ChatBridge

namespace Content

variable {c : Content} {d : Delta} {ds before after : List Delta} {k : ChatId}

def afterAll (c : Content) (ds : List Delta) : Content := ds.foldl Content.after c

theorem chat?_of_not_mentions (h : ∀ d ∈ ds, ¬ d.Mentions k) :
    (c.afterAll ds).chat? k = c.chat? k := by
  induction ds generalizing c with
  | nil => rfl
  | cons d ds ih =>
    have hrest := ih (c := c.after d) fun x hx => h x (List.mem_cons_of_mem _ hx)
    exact hrest.trans (Delta.winner?_of_not_mentions (h d List.mem_cons_self))

theorem chat?_of_mentions (hd : d.Mentions k) (h : ∀ x ∈ after, ¬ x.Mentions k) :
    (c.afterAll (before ++ d :: after)).chat? k = d.winner? none k := by
  rw [afterAll, List.foldl_append, List.foldl_cons]
  exact (chat?_of_not_mentions h).trans (Delta.winner?_of_mentions hd)

end Content

namespace Snapshot

variable {s : Snapshot} {g : GroupCursor}

theorem chatIds_cursor : s.cursor.groupChats.map (·.chatId) = chatIds (s.chats.filter (·.isGroup)) := by
  rw [cursor, List.map_map]
  rfl

theorem mem_cursor_iff (hn : (chatIds s.chats).Nodup) : g ∈ s.cursor.groupChats ↔
    ∃ e, s.chat? g.chatId = some e ∧ e.isGroup = true ∧ e.lastUpdated = g.updatesSince := by
  have hl (e : ChatSummary) : s.chat? g.chatId = some e ↔ e ∈ s.chats ∧ e.chatId = g.chatId :=
    lookUp_eq_some_iff hn
  rw [cursor, List.mem_map]
  constructor
  · rintro ⟨e, he, rfl⟩
    obtain ⟨he, hg⟩ := List.mem_filter.mp he
    exact ⟨e, (hl e).mpr ⟨he, rfl⟩, hg, rfl⟩
  · rintro ⟨e, he, hg, hu⟩
    obtain ⟨he, hid⟩ := (hl e).mp he
    refine ⟨e, List.mem_filter.mpr ⟨he, hg⟩, ?_⟩
    rw [hid, hu]

end Snapshot

namespace Operation

open Program

/-! ## Polls -/

/-- How a poll ends: it returns, or it is broken off where it waits. -/
inductive PollEnd where
  | returned (r : Except Fault Merged)
  | brokenOff

def PollEnd.state? : PollEnd → Option Snapshot
  | .returned (.ok m) => some m.state
  | _ => none

def EndsWith (p : Program Merged) (told : List Told) : PollEnd → Prop
  | .returned r => p.Returns told r
  | .brokenOff => ∃ q, p.follow told = some q ∧ q.Waits

/-- A poll that has ended: the state that it was given, and what it was told on its way. -/
structure Poll where
  given : Snapshot
  told : List Told
  ended : PollEnd

variable (config : AgentConfig)

/-- The full list is loaded, and then each poll is given the state that was returned last; `s` is that
state now. What else the agent does meanwhile can show in nothing but what the polls are told. -/
inductive Polls (first : List Told) : List Poll → Snapshot → Prop
  | loaded {m} (h : (getInitialState config).Returns first (.ok m)) : Polls first [] m.state
  | polled {ps s told e} (h : Polls first ps s) (he : EndsWith (getUpdates config s) told e) :
      Polls first (ps ++ [⟨s, told, e⟩]) (e.state?.getD s)

def lists (first : List Told) : List InitialState :=
  ((getInitialState config).heard first).filterMap (reading InitialState "initial_state")

def Poll.deltas (p : Poll) : List Delta :=
  ((getUpdates config p.given).heard p.told).filterMap (reading Delta "updates")

def deltas (ps : List Poll) : List Delta := ps.flatMap (·.deltas config)

variable {config} {first : List Told} {ps : List Poll} {s : Snapshot} {told : List Told}

theorem hears_getInitialState : (getInitialState config).Hears (fun _ => True)
    (reading InitialState "initial_state") (fun is m => ∃ i, is = [i] ∧ m = i.toMerged) [] := by
  have hask : (ofUser config InitialState "initial_state" [("disableCache", .bool false)]).Hears
      (fun _ => True) (reading InitialState "initial_state") (fun is i => is = [i]) [] :=
    hears_ofUser (by decide) (fun _ _ _ => trivial) trivial
  refine hask.bind fun is i hi => ?_
  exact .done ⟨i, hi, rfl⟩

theorem hears_getUpdates : (getUpdates config s).Hears
    (fun c => c.method = "updates" → c.args = args [("updatesSince", Wire.write s.cursor)])
    (reading Delta "updates") (fun ds m => ∃ d, ds = [d] ∧ m = s.merge d) [] := by
  have hask : (ofUser config Delta "updates" [("updatesSince", Wire.write s.cursor)]).Hears
      (fun c => c.method = "updates" → c.args = args [("updatesSince", Wire.write s.cursor)])
      (reading Delta "updates") (fun ds d => ds = [d]) [] :=
    hears_ofUser (by decide) (fun _ _ ha _ => ha) fun h =>
      absurd h (by decide : "current_user" ≠ "updates")
  refine hask.bind fun ds d hd => (hears_emitAll _).bind fun ds' _ hds => ?_
  exact .done ⟨d, hds.trans hd, rfl⟩

theorem deltas_of_endsWith {e : PollEnd} (h : EndsWith (getUpdates config s) told e) :
    e.state?.getD s = s.mergeAll (Poll.deltas config ⟨s, told, e⟩) ∧
    (e.state? = none → Poll.deltas config ⟨s, told, e⟩ = []) := by
  have failed (hnone : Poll.deltas config ⟨s, told, e⟩ = []) (hs : e.state? = none) :
      e.state?.getD s = s.mergeAll (Poll.deltas config ⟨s, told, e⟩) ∧
      (e.state? = none → Poll.deltas config ⟨s, told, e⟩ = []) := by
    rw [hnone, hs]
    exact ⟨rfl, fun _ => rfl⟩
  cases e with
  | returned r =>
    cases r with
    | ok m =>
      obtain ⟨d, hd, rfl⟩ := hears_getUpdates.of_done h
      refine ⟨?_, nofun⟩
      rw [show Poll.deltas config ⟨s, told, _⟩ = [d] from hd]
      rfl
    | error f => exact failed (hears_getUpdates.of_fail h) rfl
  | brokenOff =>
    obtain ⟨q, hq, hw⟩ := h
    exact failed (hears_getUpdates.of_waits hq hw).1 rfl

theorem state_of_polls (h : Polls config first ps s) : ∃ i, lists config first = [i] ∧
    s = i.toMerged.state.mergeAll (deltas config ps) := by
  induction h with
  | loaded h =>
    obtain ⟨i, hi, rfl⟩ := hears_getInitialState.of_done h
    exact ⟨i, hi, rfl⟩
  | @polled ps s told e _ he ih =>
    obtain ⟨i, hi, hs⟩ := ih
    refine ⟨i, hi, ?_⟩
    rw [(deltas_of_endsWith he).1, deltas, List.flatMap_append, List.flatMap_singleton]
    rw [Snapshot.mergeAll, Snapshot.mergeAll, List.foldl_append]
    exact congrArg (fun s' => List.foldl _ s' _) hs

theorem given_of_failed {pre : List Poll} {q : Poll} (h : Polls config first ps s)
    (hps : ps = pre ++ [q]) (hq : q.ended.state? = none) : q.given = s := by
  cases h with
  | loaded _ => simp at hps
  | @polled ps s told e _ _ =>
    cases List.append_inj' hps rfl |>.2
    rw [show e.state? = none from hq]
    rfl

theorem args_of_call {c : ServiceCall} {next : Except ServiceFailure Json → Program Merged}
    (hp : (getUpdates config s).follow told = some (.call c next)) (hm : c.method = "updates") :
    c.args = args [("updatesSince", Wire.write s.cursor)] :=
  (hears_getUpdates.of_waits hp trivial).2 c next rfl hm

/-! ## Main statement -/

theorem follow_ofUser {α β : Type} [Wire α] {k : α → Program β} {method canister : String}
    {members : List (String × Json)} {r : Except ServiceFailure Json} {a : α}
    (hr : answerTo α method r = .ok a) : ((ofUser config α method members).bind k).follow
      [.canister (some canister), .answer r] = some (k a) := by
  have hrest : ((ofUser config α method members).bind k).follow [.canister (some canister), .answer r] =
      some ((orFail (answerTo α method r)).bind k) := by
    unfold ofUser request
    simp only [ask_eq]
    rfl
  rw [hrest, hr]
  rfl

theorem answerTo_toValue {α : Type} [Wire α] [h : Wire.Faithful α] (method : String) (a : α) :
    answerTo α method (.ok (Wire.codec.toValue a)) = .ok a := by
  unfold answerTo
  dsimp only
  rw [h.faithful.ofValue_toValue]

end Operation
end ChatBridge
