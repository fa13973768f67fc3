import ChatBridge.Proofs.Agent.Following

/-!
# Programs that save what they change

A program saves the users only behind the gate, as a copy that it has made there, and it does so
before anything else once it has changed them. `Careful` says this of a program, and that it is so
for every operation.
-/

namespace ChatBridge

namespace Program

variable {α β : Type}

def copying (rest : Program α) : Program α := .users fun all => .save all (.leave .saving rest)

/-- Users are saved behind the gate, and whoever changes them saves them next. -/
inductive Careful : Program α → Prop
  | done (a) : Careful (.done a)
  | fail (f) : Careful (.fail f)
  | userCanister {next} (h : ∀ c, Careful (next c)) : Careful (.userCanister next)
  | setUserCanister {c next} (h : Careful next) : Careful (.setUserCanister c next)
  | enter {next} (h : Careful next) : Careful (.enter .resolving next)
  | leave {next} (h : Careful next) : Careful (.leave .resolving next)
  | call {c next} (h : ∀ r, Careful (next r)) : Careful (.call c next)
  | users {next} (h : ∀ us, Careful (next us)) : Careful (.users next)
  | upsert {us next} (rest : Nat → Program α) (h₀ : Careful (next 0))
      (hs : ∀ n, next (n + 1) = .enter .saving (copying (rest n))) (h : ∀ n, Careful (rest n)) :
      Careful (.upsert us next)
  | emit {e next} (h : Careful next) : Careful (.emit e next)

theorem Careful.bind {p : Program α} {k : α → Program β} (h : p.Careful)
    (hk : ∀ a, (k a).Careful) : (p >>= k).Careful := by
  show (p.bind k).Careful
  induction h with
  | done a => exact hk a
  | fail f => exact .fail f
  | userCanister _ ih => exact .userCanister ih
  | setUserCanister _ ih => exact .setUserCanister ih
  | enter _ ih => exact .enter ih
  | leave _ ih => exact .leave ih
  | call _ ih => exact .call ih
  | users _ ih => exact .users ih
  | upsert rest _ hs _ ih₀ ih =>
    refine .upsert (fun n => (rest n).bind k) ih₀ (fun n => ?_) ih
    rw [hs n]
    rfl
  | emit _ ih => exact .emit ih

end Program

namespace Operation

open Program

theorem careful_ask (α : Type) [Wire α] (canister method : String) (args : Json) :
    (ask α canister method args).Careful := by
  refine .call fun r => ?_
  cases r with
  | error e => exact .done _
  | ok j =>
    dsimp only
    split
    · exact .done _
    · exact .done _

theorem careful_orFail {α : Type} (r : Except Fault α) : (orFail r).Careful := by
  cases r with
  | ok a => exact .done a
  | error f => exact .fail f

theorem careful_request (α : Type) [Wire α] (canister method : String) (args : Json) :
    (request α canister method args).Careful := (careful_ask ..).bind careful_orFail

variable (config : AgentConfig)

theorem careful_lookUp : (lookUpUserCanister config).Careful := by
  refine (careful_ask CurrentUser _ _ _).bind fun r => ?_
  match r with
  | .ok (.created user) => exact .setUserCanister (.leave (.done _))
  | .ok .unknown => exact .leave (.fail _)
  | .error f => exact .leave (.fail f)

theorem careful_userCanister : (userCanister config).Careful := by
  refine .userCanister fun c => ?_
  cases c with
  | some canister => exact .done canister
  | none =>
    refine .enter (.userCanister fun c => ?_)
    cases c with
    | some canister => exact .leave (.done canister)
    | none => exact careful_lookUp config

theorem careful_getCurrentUser : (getCurrentUser config).Careful := by
  refine (careful_ask CurrentUser _ _ _).bind fun r => (careful_orFail r).bind fun user => ?_
  cases user with
  | created u => exact .setUserCanister (.done _)
  | unknown => exact .done _

theorem careful_ofUser (α : Type) [Wire α] (method : String) (members : List (String × Json)) :
    (ofUser config α method members).Careful :=
  (careful_userCanister config).bind fun _ => careful_request ..

theorem careful_emitAll (es : List Event) : (emitAll es).Careful := by
  induction es with
  | nil => exact .done _
  | cons e es ih => exact .emit ih

/-- Summaries that change nothing are not saved; all others are saved at once. -/
theorem careful_cacheUsers (users : List UserSummary) : (cacheUsers users).Careful :=
  .upsert (fun _ => .done ()) (.done ()) (fun _ => rfl) fun _ => .done ()

theorem careful_fetchUsers (known : List UserSummary) (missing : List UserId) :
    (fetchUsers config known missing).Careful := by
  unfold fetchUsers
  split
  · exact .done _
  · refine (careful_request ..).bind fun fetched => (careful_cacheUsers _).bind fun _ => ?_
    split
    · exact (careful_emitAll _).bind fun _ => .done _
    · exact .done _

theorem careful_getUsers (q : UsersQuery) : (getUsers config q).Careful := by
  unfold getUsers
  split
  · exact .users fun _ => careful_fetchUsers ..
  · exact careful_fetchUsers ..

theorem careful_serve (c : Capability) (r : c.Request) : (serve config c r).Careful := by
  cases c with
  | getCurrentUser => exact careful_getCurrentUser config
  | getInitialState => exact (careful_ofUser ..).bind fun _ => .done _
  | getUpdates => exact (careful_ofUser ..).bind fun _ => (careful_emitAll _).bind fun _ => .done _
  | getUsers => exact careful_getUsers config r
  | getAllCachedUsers => exact .users fun us => .done us
  | checkUsername => exact careful_request ..
  | setUsername => exact careful_request ..
  | getUserStorageLimits => exact (careful_request ..).bind fun _ => .emit (.done _)
  | markAsOnline => exact (careful_request ..).bind fun _ => .done _
  | getBio =>
    cases r with
    | some id => exact careful_request ..
    | none => exact careful_ofUser ..
  | _ => exact careful_ofUser ..

theorem careful_handle (c : Capability) (payload : Json) : (handle config c payload).Careful := by
  unfold handle
  split
  · exact .fail _
  · exact (careful_serve config c _).bind fun _ => .done _

end Operation
end ChatBridge
