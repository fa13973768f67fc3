import ChatBridge.Proofs.Agent.Following
import ChatBridge.Proofs.Agent.Seeking
import ChatBridge.Worker.Basic

/-!
# What comes of a program

Let each call end as its arguments say, and let the canister of the user be known. `Comes` says what
then comes of a program whatever it is told besides: which users are cached, and how many changed the
cache. An operation whose answer is not made of these comes to one end, and finds that end on every way
that it can take.
-/

namespace ChatBridge

namespace Program

variable {α β : Type} (service : ServiceCall → CallEnd) (own : String)

/-- What comes of the program: its result, or nothing where a call goes down. The canister of the user
stays what it is. -/
inductive Comes : Program α → Option (Except Fault α) → Prop
  | done {a} : Comes (.done a) (some (.ok a))
  | fail {f} : Comes (.fail f) (some (.error f))
  | userCanister {next r} (h : Comes (next (some own)) r) : Comes (.userCanister next) r
  | enter {g next r} (h : Comes next r) : Comes (.enter g next) r
  | leave {g next r} (h : Comes next r) : Comes (.leave g next) r
  | answered {c next x r} (hc : service c = .answered x) (h : Comes (next x) r) :
      Comes (.call c next) r
  | crashed {c next} (hc : service c = .crashed) : Comes (.call c next) none
  | users {next r} (h : ∀ us, Comes (next us) r) : Comes (.users next) r
  | upsert {us next r} (h : ∀ n, Comes (next n) r) : Comes (.upsert us next) r
  | save {us next r} (h : Comes next r) : Comes (.save us next) r
  | emit {e next r} (h : Comes next r) : Comes (.emit e next) r

def Fits : Program α → Told → Prop
  | .userCanister _, .canister c => c = some own
  | .call c _, .answer x => service c = .answered x
  | _, _ => True

def ComesAfter (k : α → Program β) (r : Option (Except Fault β)) : Option (Except Fault α) → Prop
  | some (.ok a) => (k a).Comes service own r
  | some (.error f) => r = some (.error f)
  | none => r = none

variable {service own} {p q : Program α} {o : Option (Except Fault α)} {x : Told}

theorem Comes.next? (h : p.Comes service own o) (hx : p.next? x = some q)
    (hf : p.Fits service own x) : q.Comes service own o := by
  cases h with
  | done => cases x <;> cases hx
  | fail => cases x <;> cases hx
  | userCanister h =>
    cases x with
    | canister c => cases hx; cases (show c = some own from hf); exact h
    | _ => cases hx
  | enter h =>
    cases x with
    | nothing => cases hx; exact h
    | _ => cases hx
  | leave h =>
    cases x with
    | nothing => cases hx; exact h
    | _ => cases hx
  | answered hc h =>
    cases x with
    | answer r => cases hx; cases hc.symm.trans hf; exact h
    | _ => cases hx
  | crashed hc =>
    cases x with
    | answer r => cases hc.symm.trans hf
    | _ => cases hx
  | users h =>
    cases x with
    | users us => cases hx; exact h us
    | _ => cases hx
  | upsert h =>
    cases x with
    | count n => cases hx; exact h n
    | _ => cases hx
  | save h =>
    cases x with
    | nothing => cases hx; exact h
    | _ => cases hx
  | emit h =>
    cases x with
    | nothing => cases hx; exact h
    | _ => cases hx

theorem Comes.of_returns {r : Except Fault α} (h : p.Comes service own o) (hr : p.Returns [] r) :
    o = some r := by
  cases r with
  | ok a =>
    cases (show some p = some (.done a) from hr)
    cases h
    rfl
  | error f =>
    cases (show some p = some (.fail f) from hr)
    cases h
    rfl

theorem Comes.of_crash {c : ServiceCall} {next : Except ServiceFailure Json → Program α}
    (h : (Program.call c next).Comes service own o) (hc : service c = .crashed) : o = none := by
  cases h with
  | answered hx _ => cases hx.symm.trans hc
  | crashed _ => rfl

theorem Comes.not_sets {c : String} : ¬ (Program.setUserCanister c p).Comes service own o := nofun

theorem Comes.bind {k : α → Program β} {r : Option (Except Fault β)} (h : p.Comes service own o)
    (hk : ComesAfter service own k r o) : (p.bind k).Comes service own r := by
  induction h with
  | done => exact hk
  | fail => cases (show r = _ from hk); exact .fail
  | userCanister _ ih => exact .userCanister (ih hk)
  | enter _ ih => exact .enter (ih hk)
  | leave _ ih => exact .leave (ih hk)
  | answered hc _ ih => exact .answered hc (ih hk)
  | crashed hc => cases (show r = _ from hk); exact .crashed hc
  | users _ ih => exact .users fun us => ih us hk
  | upsert _ ih => exact .upsert fun n => ih n hk
  | save _ ih => exact .save (ih hk)
  | emit _ ih => exact .emit (ih hk)

/-! ## Programs that come to an end -/

variable (service own) in
def Definite (p : Program α) : Prop := ∃ o, p.Comes service own o

theorem definite_done (a : α) : (Program.done a).Definite service own := ⟨_, .done⟩

theorem Definite.bind {k : α → Program β} (h : p.Definite service own)
    (hk : ∀ a, (k a).Definite service own) : (p.bind k).Definite service own := by
  obtain ⟨o, ho⟩ := h
  match o with
  | some (.ok a) =>
    obtain ⟨r, hr⟩ := hk a
    exact ⟨r, ho.bind hr⟩
  | some (.error f) => exact ⟨some (.error f), ho.bind rfl⟩
  | none => exact ⟨none, ho.bind rfl⟩

theorem Definite.emit {e : Event} (h : p.Definite service own) :
    (Program.emit e p).Definite service own := by
  obtain ⟨o, ho⟩ := h
  exact ⟨o, .emit ho⟩

end Program

namespace Operation

open Program

variable {α : Type} {service : ServiceCall → CallEnd} {own : String} (config : AgentConfig)

theorem definite_request [Wire α] (canister method : String) (args : Json) :
    (request α canister method args).Definite service own := by
  unfold request
  rw [ask_eq]
  cases hc : service ⟨canister, method, args⟩ with
  | crashed => exact ⟨none, .crashed hc⟩
  | answered r =>
    have hrest : (orFail (answerTo α method r)).Definite service own := by
      cases answerTo α method r with
      | ok a => exact ⟨_, .done⟩
      | error f => exact ⟨_, .fail⟩
    obtain ⟨o, ho⟩ := hrest
    exact ⟨o, .answered hc ho⟩

theorem definite_ofUser [Wire α] (method : String) (members : List (String × Json)) :
    (ofUser config α method members).Definite service own := by
  have hfound : (userCanister config).Definite service own := ⟨_, .userCanister .done⟩
  exact hfound.bind fun c => definite_request c method (args members)

theorem definite_emitAll (es : List Event) : (emitAll es).Definite service own := by
  induction es with
  | nil => exact definite_done ()
  | cons e es ih => exact ih.emit

theorem definite_cacheUsers (users : List UserSummary) :
    (cacheUsers users).Definite service own := by
  refine ⟨some (.ok ()), .upsert fun n => ?_⟩
  cases n with
  | zero => exact .done
  | succ n => exact .enter (.users fun _ => .save (.leave .done))

theorem definite_fetchUsers (known : List UserSummary) (missing : List UserId) :
    (fetchUsers config known missing).Definite service own := by
  unfold fetchUsers
  split
  · exact definite_done _
  · refine (definite_request ..).bind fun fetched => (definite_cacheUsers _).bind fun _ => ?_
    split
    · exact (definite_emitAll _).bind fun _ => definite_done _
    · exact definite_done _

/-- The answer is made of what the services answer alone. The other requests are answered from the
cache, or say who the user is. -/
def Steady : (c : Capability) → c.Request → Prop
  | .getCurrentUser, _ => False
  | .getAllCachedUsers, _ => False
  | .getUsers, q => q.allowStale = false
  | _, _ => True

theorem definite_serve {c : Capability} {q : c.Request} (h : Steady c q) :
    (serve config c q).Definite service own := by
  cases c with
  | getCurrentUser => cases h
  | getAllCachedUsers => cases h
  | getUsers =>
    show (getUsers config q).Definite service own
    unfold getUsers
    rw [show q.allowStale = false from h, if_neg Bool.false_ne_true]
    exact definite_fetchUsers config _ _
  | getInitialState => exact (definite_ofUser config ..).bind fun _ => definite_done _
  | getUpdates =>
    refine (definite_ofUser config ..).bind fun d => (definite_emitAll _).bind fun _ => ?_
    exact definite_done _
  | checkUsername => exact definite_request ..
  | setUsername => exact definite_request ..
  | getUserStorageLimits => exact (definite_request ..).bind fun _ => (definite_done _).emit
  | markAsOnline => exact (definite_request ..).bind fun _ => definite_done _
  | getBio =>
    cases q with
    | some id => exact definite_request ..
    | none => exact definite_ofUser config ..
  | _ => exact definite_ofUser config ..

theorem definite_handle {c : Capability} {payload : Json}
    (h : ∀ q, c.requestCodec.ofValue payload = .ok q → Steady c q) :
    (handle config c payload).Definite service own := by
  unfold handle
  cases hq : c.requestCodec.ofValue payload with
  | error x => exact ⟨_, .fail⟩
  | ok q => exact (definite_serve config (h q hq)).bind fun _ => definite_done _

end Operation
end ChatBridge
