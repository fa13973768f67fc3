import ChatBridge.Proofs.Agent.Hearing
import ChatBridge.Proofs.Worker.Events

/-!
# What a program reports along the way

A program that goes on with the result of another first goes the way of the other. What it hears and
what it reports is then that of the one way and that of the other, one behind the other. A program is
silent if there is no way along which it reports anything.
-/

namespace ChatBridge

namespace Program

variable {α β : Type} {p q : Program α} {k : α → Program β} {x : Told} {told : List Told} {a : α}
  {b : β}

def reported (p : Program α) : List Told → List Event
  | [] => []
  | x :: xs => ((p.next? x).map fun q => p.event?.toList ++ q.reported xs).getD []

def Silent (p : Program α) : Prop := ∀ told, p.reported told = []

/-! ## One program behind another -/

structure SameStep (k : α → Program β) (p : Program α) : Prop where
  next? : ∀ x, (p.bind k).next? x = (p.next? x).map fun q => q.bind k
  answer? : ∀ x, (p.bind k).answer? x = p.answer? x
  event? : (p.bind k).event? = p.event?

theorem sameStep (hp : ∀ a, p ≠ .done a) : SameStep k p := by
  cases p with
  | done a => exact absurd rfl (hp a)
  | _ => exact ⟨fun x => by cases x <;> rfl, fun x => by cases x <;> rfl, rfl⟩

theorem heard_cons (h : p.next? x = some q) :
    p.heard (x :: told) = (p.answer? x).toList ++ q.heard told := by
  rw [heard, h]
  rfl

theorem reported_cons (h : p.next? x = some q) :
    p.reported (x :: told) = p.event?.toList ++ q.reported told := by
  rw [reported, h]
  rfl

theorem heard_append {ys : List Told} (h : p.follow told = some q) :
    p.heard (told ++ ys) = p.heard told ++ q.heard ys := by
  induction told generalizing p with
  | nil => cases h; rfl
  | cons x told ih =>
    obtain ⟨p', hp', h⟩ := Option.bind_eq_some_iff.mp h
    rw [List.cons_append, heard_cons hp', heard_cons hp', ih h, List.append_assoc]

/-- The way of one program is over where it returns, and that of the next begins there. -/
structure Splits (p : Program α) (k : α → Program β) (told : List Told) (b : β) (a : α)
    (pre post : List Told) : Prop where
  told_eq : told = pre ++ post
  first : p.follow pre = some (.done a)
  second : (k a).follow post = some (.done b)
  heard_eq : (p.bind k).heard told = p.heard pre ++ (k a).heard post
  reported_eq : (p.bind k).reported told = p.reported pre ++ (k a).reported post

theorem exists_splits (h : (p.bind k).follow told = some (.done b)) :
    ∃ a pre post, p.Splits k told b a pre post := by
  induction told generalizing p with
  | nil =>
    cases p with
    | done a => exact ⟨a, [], [], rfl, rfl, h, rfl, rfl⟩
    | _ => cases h
  | cons x told ih =>
    by_cases hp : ∃ a, p = .done a
    · obtain ⟨a, rfl⟩ := hp
      exact ⟨a, [], x :: told, rfl, rfl, h, rfl, rfl⟩
    · have hsame : SameStep k p := sameStep fun a ha => hp ⟨a, ha⟩
      obtain ⟨q', hq', h⟩ := Option.bind_eq_some_iff.mp h
      rw [hsame.next?] at hq'
      obtain ⟨q, hq, rfl⟩ := Option.map_eq_some_iff.mp hq'
      have hnext : (p.bind k).next? x = some (q.bind k) := by rw [hsame.next?, hq]; rfl
      obtain ⟨a, pre, post, rfl, hfirst, hsecond, hheard, hreported⟩ := ih h
      refine ⟨a, x :: pre, post, rfl, ?_, hsecond, ?_, ?_⟩
      · rw [follow, hq]
        exact hfirst
      · rw [heard_cons hnext, hheard, heard_cons hq, hsame.answer?, List.append_assoc]
      · rw [reported_cons hnext, hreported, reported_cons hq, hsame.event?, List.append_assoc]

/-! ## Silent programs -/

theorem Silent.of_next? (he : p.event? = none) (h : ∀ x q, p.next? x = some q → q.Silent) :
    p.Silent := by
  intro told
  cases told with
  | nil => rfl
  | cons x told =>
    cases hq : p.next? x with
    | none => rw [reported, hq]; rfl
    | some q => rw [reported_cons hq, he, h x q hq]; rfl

theorem silent_done : (Program.done a).Silent := .of_next? rfl fun x q hq => by cases x <;> cases hq

theorem silent_fail {f : Fault} : (Program.fail f : Program α).Silent :=
  .of_next? rfl fun x q hq => by cases x <;> cases hq

theorem silent_userCanister {next : Option String → Program α} (h : ∀ c, (next c).Silent) :
    (Program.userCanister next).Silent :=
  .of_next? rfl fun x q hq => by cases x <;> cases hq; exact h _

theorem silent_setUserCanister {c : String} (h : p.Silent) : (Program.setUserCanister c p).Silent :=
  .of_next? rfl fun x q hq => by cases x <;> cases hq; exact h

theorem silent_enter {g : Gate} (h : p.Silent) : (Program.enter g p).Silent :=
  .of_next? rfl fun x q hq => by cases x <;> cases hq; exact h

theorem silent_leave {g : Gate} (h : p.Silent) : (Program.leave g p).Silent :=
  .of_next? rfl fun x q hq => by cases x <;> cases hq; exact h

theorem silent_call {c : ServiceCall} {next : Except ServiceFailure Json → Program α}
    (h : ∀ r, (next r).Silent) : (Program.call c next).Silent :=
  .of_next? rfl fun x q hq => by cases x <;> cases hq; exact h _

end Program

namespace Operation

open Program

variable {α : Type} {config : AgentConfig}

theorem silent_request [Wire α] {canister method : String} {args : Json} :
    (request α canister method args).Silent := by
  unfold request
  rw [ask_eq]
  refine silent_call fun r => ?_
  show (orFail (answerTo α method r)).Silent
  cases answerTo α method r with
  | ok a => exact silent_done
  | error f => exact silent_fail

theorem silent_seek {after : String → Program α} (h : ∀ c, (after c).Silent) :
    (seek config after).Silent := by
  refine silent_userCanister fun c => ?_
  cases c with
  | some c => exact h c
  | none =>
    refine silent_enter (silent_userCanister fun c => ?_)
    cases c with
    | some c => exact silent_leave (h c)
    | none =>
      refine silent_call fun r => ?_
      show (settle after (answerTo CurrentUser "current_user" r)).Silent
      match answerTo CurrentUser "current_user" r with
      | .ok (.created u) => exact silent_setUserCanister (silent_leave (h _))
      | .ok .unknown => exact silent_leave silent_fail
      | .error e => exact silent_leave silent_fail

theorem silent_ofUser [Wire α] {method : String} {members : List (String × Json)} :
    (ofUser config α method members).Silent := by
  show ((userCanister config).bind fun c => request α c method (args members)).Silent
  rw [userCanister_bind]
  exact silent_seek fun c => silent_request

theorem follow_emitAll {β : Type} {es : List Event} {b : β} :
    ((emitAll es).bind fun _ => .done b).follow (es.map fun _ => .nothing) = some (.done b) := by
  induction es with
  | nil => rfl
  | cons e es ih => exact ih

theorem reported_emitAll {β : Type} {es : List Event} {b : β} {told : List Told}
    (h : ((emitAll es).bind fun _ => .done b).follow told = some (.done b)) :
    ((emitAll es).bind fun _ => .done b).reported told = es := by
  induction es generalizing told with
  | nil => exact silent_done told
  | cons e es ih =>
    cases told with
    | nil => cases h
    | cons x told =>
      cases x with
      | nothing => exact congrArg (e :: ·) (ih h)
      | _ => cases h

end Operation
end ChatBridge
