import ChatBridge.Proofs.Agent.Following

/-!
# What an operation fails with

An operation passes on what a service call failed with, or says that it could not read the answer.
The faults of requests, which are told before an operation begins, are none of its own.
-/

namespace ChatBridge

def Fault.OfOperation : Fault → Prop
  | .invalidPayload _ _ => False
  | .agentNotInitialized => False
  | _ => True

theorem ofOperation_toFault (e : ServiceFailure) : e.toFault.OfOperation := by
  cases e <;> trivial

namespace Program

/-- Whatever the program is told, it fails with a `P` or ends with a `Q`. -/
inductive Yields {α : Type} (P : Fault → Prop) (Q : α → Prop) : Program α → Prop
  | done {a} (h : Q a) : Yields P Q (.done a)
  | fail {f} (h : P f) : Yields P Q (.fail f)
  | userCanister {next} (h : ∀ c, Yields P Q (next c)) : Yields P Q (.userCanister next)
  | setUserCanister {c next} (h : Yields P Q next) : Yields P Q (.setUserCanister c next)
  | enter {g next} (h : Yields P Q next) : Yields P Q (.enter g next)
  | leave {g next} (h : Yields P Q next) : Yields P Q (.leave g next)
  | call {c next} (h : ∀ r, Yields P Q (next r)) : Yields P Q (.call c next)
  | users {next} (h : ∀ us, Yields P Q (next us)) : Yields P Q (.users next)
  | upsert {us next} (h : ∀ n, Yields P Q (next n)) : Yields P Q (.upsert us next)
  | save {us next} (h : Yields P Q next) : Yields P Q (.save us next)
  | emit {e next} (h : Yields P Q next) : Yields P Q (.emit e next)

variable {α β : Type} {P : Fault → Prop} {Q : α → Prop} {R : β → Prop} {p q : Program α}

theorem Yields.bind {k : α → Program β} (h : p.Yields P Q) (hk : ∀ a, Q a → (k a).Yields P R) :
    (p >>= k).Yields P R := by
  show (p.bind k).Yields P R
  induction h with
  | done h => exact hk _ h
  | fail h => exact .fail h
  | userCanister _ ih => exact .userCanister ih
  | setUserCanister _ ih => exact .setUserCanister ih
  | enter _ ih => exact .enter ih
  | leave _ ih => exact .leave ih
  | call _ ih => exact .call ih
  | users _ ih => exact .users ih
  | upsert _ ih => exact .upsert ih
  | save _ ih => exact .save ih
  | emit _ ih => exact .emit ih

theorem Yields.next? {x : Told} (h : p.Yields P Q) (hx : p.next? x = some q) : q.Yields P Q := by
  cases h with
  | done _ => cases x <;> cases hx
  | fail _ => cases x <;> cases hx
  | userCanister h =>
    cases x with
    | canister c => cases hx; exact h c
    | _ => cases hx
  | setUserCanister h =>
    cases x with
    | nothing => cases hx; exact h
    | _ => cases hx
  | enter h =>
    cases x with
    | nothing => cases hx; exact h
    | _ => cases hx
  | leave h =>
    cases x with
    | nothing => cases hx; exact h
    | _ => cases hx
  | call h =>
    cases x with
    | answer r => cases hx; exact h r
    | _ => cases hx
  | users h =>
    cases x with
    | users us => cases hx; exact h us
    | _ => cases hx
  | upsert h =>
    cases x with
    | count n => cases hx; exact h n
    | _ => cases hx
  | save h =>
    cases x with
    | nothing => cases hx; exact h
    | _ => cases hx
  | emit h =>
    cases x with
    | nothing => cases hx; exact h
    | _ => cases hx

theorem Yields.follow {xs : List Told} (h : p.Yields P Q) (hx : p.follow xs = some q) :
    q.Yields P Q := by
  induction xs generalizing p with
  | nil => cases hx; exact h
  | cons x xs ih =>
    obtain ⟨p', hp', hx⟩ := Option.bind_eq_some_iff.mp hx
    exact ih (h.next? hp') hx

theorem Yields.of_returns {xs : List Told} {f : Fault} (h : p.Yields P Q)
    (hx : p.Returns xs (.error f)) : P f := by
  cases h.follow hx
  assumption

end Program

namespace Operation

/-- Fails with faults of its own only. -/
abbrev Plain {α : Type} (p : Program α) : Prop := p.Yields Fault.OfOperation fun _ => True

theorem plain_done {α : Type} (a : α) : Plain (.done a) := .done trivial

theorem yields_ask (α : Type) [Wire α] (canister method : String) (args : Json) :
    (ask α canister method args).Yields Fault.OfOperation
      fun r => ∀ f, r = .error f → f.OfOperation := by
  refine .call fun r => ?_
  cases r with
  | error e => exact .done fun f hf => by cases hf; exact ofOperation_toFault e
  | ok j =>
    dsimp only
    split
    · exact .done nofun
    · exact .done fun f hf => by cases hf; trivial

theorem plain_orFail {α : Type} {r : Except Fault α} (h : ∀ f, r = .error f → f.OfOperation) :
    Plain (orFail r) := by
  cases r with
  | ok a => exact plain_done a
  | error f => exact .fail (h f rfl)

theorem plain_request (α : Type) [Wire α] (canister method : String) (args : Json) :
    Plain (request α canister method args) :=
  (yields_ask α canister method args).bind fun _ h => plain_orFail h

variable (config : AgentConfig)

theorem plain_lookUp : Plain (lookUpUserCanister config) := by
  refine (yields_ask CurrentUser _ _ _).bind fun r hr => ?_
  match r, hr with
  | .ok (.created user), _ => exact .setUserCanister (.leave (plain_done _))
  | .ok .unknown, _ => exact .leave (.fail trivial)
  | .error f, hr => exact .leave (.fail (hr f rfl))

theorem plain_userCanister : Plain (userCanister config) := by
  refine .userCanister fun c => ?_
  cases c with
  | some canister => exact plain_done canister
  | none =>
    refine .enter (.userCanister fun c => ?_)
    cases c with
    | some canister => exact .leave (plain_done canister)
    | none => exact plain_lookUp config

theorem plain_getCurrentUser : Plain (getCurrentUser config) := by
  refine (yields_ask CurrentUser _ _ _).bind fun r hr => (plain_orFail hr).bind fun user _ => ?_
  cases user with
  | created u => exact .setUserCanister (plain_done _)
  | unknown => exact plain_done _

theorem plain_ofUser (α : Type) [Wire α] (method : String) (members : List (String × Json)) :
    Plain (ofUser config α method members) :=
  (plain_userCanister config).bind fun _ _ => plain_request ..

theorem plain_emitAll (es : List Event) : Plain (emitAll es) := by
  induction es with
  | nil => exact plain_done _
  | cons e es ih => exact .emit ih

theorem plain_cacheUsers (users : List UserSummary) : Plain (cacheUsers users) := by
  refine .upsert fun n => ?_
  cases n with
  | zero => exact plain_done ()
  | succ n => exact .enter (.users fun _ => .save (.leave (plain_done ())))

theorem plain_fetchUsers (known : List UserSummary) (missing : List UserId) :
    Plain (fetchUsers config known missing) := by
  unfold fetchUsers
  split
  · exact plain_done _
  · refine (plain_request ..).bind fun fetched _ => (plain_cacheUsers _).bind fun _ _ => ?_
    split
    · exact (plain_emitAll _).bind fun _ _ => plain_done _
    · exact plain_done _

theorem plain_getUsers (q : UsersQuery) : Plain (getUsers config q) := by
  unfold getUsers
  split
  · exact .users fun _ => plain_fetchUsers ..
  · exact plain_fetchUsers ..

theorem plain_serve (c : Capability) (r : c.Request) : Plain (serve config c r) := by
  cases c with
  | getCurrentUser => exact plain_getCurrentUser config
  | getInitialState => exact (plain_ofUser ..).bind fun _ _ => plain_done _
  | getUpdates =>
    exact (plain_ofUser ..).bind fun _ _ => (plain_emitAll _).bind fun _ _ => plain_done _
  | getUsers => exact plain_getUsers config r
  | getAllCachedUsers => exact .users fun us => plain_done us
  | checkUsername => exact plain_request ..
  | setUsername => exact plain_request ..
  | getUserStorageLimits => exact (plain_request ..).bind fun _ _ => .emit (plain_done _)
  | markAsOnline => exact (plain_request ..).bind fun _ _ => plain_done _
  | getBio =>
    cases r with
    | some id => exact plain_request ..
    | none => exact plain_ofUser ..
  | _ => exact plain_ofUser ..

theorem fault_of_handle {c : Capability} {payload : Json} {told : List Told} {f : Fault}
    (h : (handle config c payload).Returns told (.error f)) :
    (∃ m, f = .invalidPayload c.kind m) ∨ f.OfOperation := by
  unfold handle at h
  split at h
  · rename_i x _
    have hfail : (Program.fail (.invalidPayload c.kind x.message) : Program Json).Yields
        (fun f => ∃ m, f = .invalidPayload c.kind m) fun _ => True := .fail ⟨_, rfl⟩
    exact .inl (hfail.of_returns h)
  · rename_i req _
    have hplain := (plain_serve config c req).bind
      (R := fun _ => True) fun y _ => plain_done (c.responseCodec.toValue y)
    exact .inr (hplain.of_returns h)

theorem fails_of_invalidPayload {c : Capability} {payload : Json} {told : List Told}
    {kind message : String}
    (h : (handle config c payload).Returns told (.error (.invalidPayload kind message))) :
    ∃ f, handle config c payload = .fail f := by
  unfold handle at h ⊢
  split at h
  · rename_i x hx
    exact ⟨_, rfl⟩
  · rename_i req _
    have hplain := (plain_serve config c req).bind
      (R := fun _ => True) fun y _ => plain_done (c.responseCodec.toValue y)
    exact absurd (hplain.of_returns h) id

end Operation
end ChatBridge
