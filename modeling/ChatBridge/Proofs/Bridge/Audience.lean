import ChatBridge.Proofs.Backlog
import ChatBridge.Proofs.Bridge.Traffic

/-!
# The audience of a client

Each subscriber has a backlog of its own, empty when it comes. An event that the client hands out
goes into all of them, and each subscriber reads when it likes. So what a subscriber is sent are the
events handed out since it came.
-/

namespace ChatBridge

structure Hearing where
  name : String
  /-- How many events had been handed out when it came. -/
  since : Nat
  record : Backlog.Record Event
  backlog : Backlog Event

structure Audience where
  handed : List Event
  hearings : List Hearing

namespace Hearing

def use (h : Hearing) (u : Backlog.Use Event) : Hearing :=
  match h.backlog.use? u with
  | some b => { h with record := h.record ++ [⟨h.backlog, u, b⟩], backlog := b }
  | none => h

def received (h : Hearing) : List Event := Backlog.received h.record

structure Sound (handed : List Event) (h : Hearing) : Prop where
  run : Run Backlog.use? (.empty Limits.unreadEvents) h.record h.backlog
  since : h.since ≤ handed.length
  sent : Backlog.sent h.record = handed.drop h.since

variable {handed : List Event} {h : Hearing} {b : Backlog Event} {e : Event}

theorem use_push (h : Hearing) (e : Event) : h.use (.push e) =
    { h with
      record := h.record ++ [⟨h.backlog, .push e, h.backlog.push e⟩]
      backlog := h.backlog.push e } := rfl

theorem use_read (hb : h.backlog.use? .read = some b) :
    h.use .read = { h with record := h.record ++ [⟨h.backlog, .read, b⟩], backlog := b } := by
  unfold use
  rw [hb]

theorem Sound.start (handed : List Event) (name : String) :
    Sound handed ⟨name, handed.length, [], .empty Limits.unreadEvents⟩ where
  run := .nil
  since := Nat.le_refl _
  sent := List.drop_length.symm

theorem Sound.push (f : h.Sound handed) : (h.use (.push e)).Sound (handed ++ [e]) where
  run := f.run.snoc rfl
  since := by
    rw [List.length_append]
    exact Nat.le_add_right_of_le f.since
  sent := by
    rw [use_push, Backlog.sent_append, f.sent, List.drop_append_of_le_length f.since]
    rfl

theorem Sound.read (f : h.Sound handed) (hb : h.backlog.use? .read = some b) :
    (h.use .read).Sound handed := by
  rw [use_read hb]
  refine ⟨f.run.snoc hb, f.since, ?_⟩
  rw [Backlog.sent_append, f.sent]
  exact List.append_nil _

end Hearing

/-! ## What moves an audience -/

namespace Client

def read? (c : Client) (k : Nat) : Option Client :=
  (c.subscribers[k]?).bind fun (name, b) =>
    (b.use? .read).map fun b => { c with subscribers := c.subscribers.set k (name, b) }

/-- Whether the action has to do with the subscribers or with what comes in. -/
def Action.isHeard : Action → Bool
  | .handle => true
  | .deliver _ => true
  | .subscribe _ => true
  | .unsubscribe _ => true
  | _ => false

end Client

namespace Audience

variable (a : Audience)

def hand (e : Event) : Audience := ⟨a.handed ++ [e], a.hearings.map (·.use (.push e))⟩

def join (name : String) : Audience :=
  { a with hearings := a.hearings ++ [⟨name, a.handed.length, [], .empty Limits.unreadEvents⟩] }

def leave (name : String) : Audience := { a with hearings := a.hearings.filter (·.name ≠ name) }

def read (k : Nat) : Audience := { a with hearings := a.hearings.modify k (·.use .read) }

/-- What an action of the client makes of its audience. -/
def note (c : Client) : Client.Action → Audience
  | .handle =>
    match c.inbox with
    | .event e :: _ => a.hand e
    | _ => a
  | .subscribe name => a.join name
  | .unsubscribe name => a.leave name
  | _ => a

structure Hears (a : Audience) (c : Client) : Prop where
  subscribers : c.subscribers = a.hearings.map fun h => (h.name, h.backlog)
  sound : ∀ h ∈ a.hearings, h.Sound a.handed

end Audience

namespace Client

variable {c c' : Client} {x : Action} {n : Nat} {call : Call} {r : CallResult}

@[simp] theorem subscribers_finish (c : Client) (n : Nat) (call : Call) (r : CallResult) :
    (c.finish n call r).subscribers = c.subscribers := by
  unfold finish
  cases call.errand <;> cases r <;> rfl

@[simp] theorem subscribers_strikeOf (c : Client) (call : Call) :
    (c.strikeOf call).subscribers = c.subscribers := by
  unfold strikeOf
  cases call.id <;> rfl

@[simp] theorem subscribers_complete (c : Client) (id : String) (y : Except Fault Json) :
    (c.complete id y).subscribers = c.subscribers := by
  unfold complete
  split <;> rfl

theorem subscribers_of_step (h : c.step? x = some c') (hx : x.isHeard = false) :
    c'.subscribers = c.subscribers ∧ c'.inbox = c.inbox := by
  cases x with
  | call e =>
    simp only [step?] at h
    split at h
    · cases h
    · cases h; exact ⟨rfl, rfl⟩
  | dismiss n =>
    obtain ⟨call, _, h⟩ := withCall_eq_some h
    obtain ⟨_, r, _, rfl⟩ := dismiss?_eq_some h
    exact ⟨subscribers_finish .., inbox_finish ..⟩
  | register n id =>
    obtain ⟨call, _, h⟩ := withCall_eq_some h
    obtain ⟨_, _, rfl⟩ := register?_eq_some h
    exact ⟨rfl, rfl⟩
  | send n =>
    obtain ⟨call, _, h⟩ := withCall_eq_some h
    obtain ⟨_, _, _, _, _, _, ⟨_, rfl⟩ | ⟨_, rfl⟩⟩ := send?_eq_some h
    · exact ⟨rfl, rfl⟩
    · exact ⟨subscribers_finish .., inbox_finish ..⟩
  | take n =>
    obtain ⟨call, _, h⟩ := withCall_eq_some h
    obtain ⟨_, r, _, rfl⟩ := take?_eq_some h
    exact ⟨by simp, by simp [(still_strikeOf c call).inbox]⟩
  | expire n =>
    obtain ⟨call, _, h⟩ := withCall_eq_some h
    obtain ⟨_, rfl⟩ := expire?_eq_some h
    exact ⟨rfl, rfl⟩
  | withdraw n =>
    obtain ⟨call, _, h⟩ := withCall_eq_some h
    obtain ⟨_, _, _, _, _, _, ⟨_, rfl⟩ | ⟨_, rfl⟩⟩ := withdraw?_eq_some h
    · exact ⟨subscribers_finish .., inbox_finish ..⟩
    · exact ⟨rfl, rfl⟩
  | takeLate n =>
    obtain ⟨call, _, h⟩ := withCall_eq_some h
    obtain ⟨_, rfl⟩ := takeLate?_eq_some h
    exact ⟨subscribers_finish .., inbox_finish ..⟩
  | cancel n =>
    obtain ⟨call, _, h⟩ := withCall_eq_some h
    obtain ⟨_, _, _, rfl⟩ := cancel?_eq_some h
    exact ⟨subscribers_strikeOf .., (still_strikeOf c call).inbox⟩
  | endListening =>
    obtain ⟨_, _, _, rfl⟩ := endListening?_eq_some h
    exact ⟨rfl, rfl⟩
  | closeInbox => cases h; exact ⟨rfl, rfl⟩
  | closeOutbox => cases h; exact ⟨rfl, rfl⟩
  | _ => cases hx

end Client

namespace Audience.Hears

variable {a : Audience} {c c' : Client} {x : Client.Action}

theorem of_subscribers (f : a.Hears c) (h : c'.subscribers = c.subscribers) : a.Hears c' :=
  ⟨h.trans f.subscribers, f.sound⟩

theorem hand (f : a.Hears c) (e : Event)
    (h : c'.subscribers = c.subscribers.map fun (name, b) => (name, b.push e)) :
    (a.hand e).Hears c' where
  subscribers := by
    rw [h, f.subscribers]
    simp [Audience.hand, Hearing.use_push]
  sound := by
    intro h' hh
    obtain ⟨g, hg, rfl⟩ := List.mem_map.mp hh
    exact (f.sound g hg).push

theorem receive (f : a.Hears c) {e : Envelope} {rest : List Envelope} (hi : c.inbox = e :: rest) :
    (a.note c .handle).Hears ({ c with inbox := rest }.receive e) := by
  cases e with
  | event e =>
    simp only [Audience.note, hi]
    exact f.hand e rfl
  | request id kind payload =>
    simp only [Audience.note, hi]
    exact f.of_subscribers rfl
  | response id v =>
    simp only [Audience.note, hi]
    exact f.of_subscribers (Client.subscribers_complete ..)
  | error id y =>
    simp only [Audience.note, hi]
    exact f.of_subscribers (Client.subscribers_complete ..)

theorem join (f : a.Hears c) (name : String) :
    (a.join name).Hears
      { c with subscribers := c.subscribers ++ [(name, .empty Limits.unreadEvents)] } where
  subscribers := by
    rw [f.subscribers]
    simp [Audience.join]
  sound := by
    intro h hh
    rcases List.mem_append.mp hh with hh | hh
    · exact f.sound h hh
    · cases List.mem_singleton.mp hh
      exact .start a.handed name

theorem leave (f : a.Hears c) (name : String) :
    (a.leave name).Hears { c with subscribers := c.subscribers.filter (·.1 ≠ name) } where
  subscribers := by
    rw [f.subscribers, List.filter_map]
    rfl
  sound := fun h hh => f.sound h (List.mem_filter.mp hh).1

theorem step (f : a.Hears c) (h : c.step? x = some c') : (a.note c x).Hears c' := by
  cases x with
  | handle =>
    obtain ⟨_, e, rest, hi, rfl⟩ := Client.handle?_eq_some h
    exact f.receive hi
  | deliver e =>
    simp only [Client.step?] at h
    split at h
    · cases h; exact f.of_subscribers rfl
    · cases h
  | subscribe name => cases h; exact f.join name
  | unsubscribe name => cases h; exact f.leave name
  | _ => exact f.of_subscribers (Client.subscribers_of_step h rfl).1

theorem read (f : a.Hears c) {k : Nat} (h : c.read? k = some c') : (a.read k).Hears c' := by
  obtain ⟨⟨name, b⟩, hk, h⟩ := Option.bind_eq_some_iff.mp h
  obtain ⟨b', hb, rfl⟩ := Option.map_eq_some_iff.mp h
  rw [f.subscribers, List.getElem?_map] at hk
  obtain ⟨g, hg, heq⟩ := Option.map_eq_some_iff.mp hk
  cases heq
  have hread := Hearing.use_read hb
  have hset : a.hearings.modify k (·.use .read) = a.hearings.set k (g.use .read) := by
    rw [List.modify_eq_set_getElem?, hg]
    rfl
  refine ⟨?_, fun h hh => ?_⟩
  · rw [Audience.read, hset, List.map_set, hread, f.subscribers]
  · rw [Audience.read, hset] at hh
    rcases List.mem_or_eq_of_mem_set hh with hh | rfl
    · exact f.sound h hh
    · exact (f.sound g (List.mem_of_getElem? hg)).read hb

end Audience.Hears
end ChatBridge
