import ChatBridge.Agent.Operations

/-!
# Programs that look for the canister of the user

An operation has nothing to do with the canister of the current user, or it begins by getting hold of
it, or it is the request for the current user itself. `Seeking` says which, and what calls the
operation makes besides: of the methods of a user's canister it calls only those of the canister that
it has got hold of, or that the request names.
-/

namespace ChatBridge

/-- Whether the method is one of a user's canister; the others are those of the user index and of the
online service. -/
def ServiceCall.isOfUser (c : ServiceCall) : Bool :=
  !(["current_user", "users", "check_username", "set_username", "user_storage",
    "mark_as_online"].contains c.method)

def ServiceCall.asksUser (c : ServiceCall) : Bool := c.method == "current_user"

def ServiceCall.Allowed (via : Option String) (c : ServiceCall) : Prop :=
  c.asksUser = false ∧ (c.isOfUser = true → via = some c.canister)

namespace Program

variable {α β : Type} {P Q : ServiceCall → Prop}

/-- The program leaves the canister of the user and the gate to it alone, and makes such calls only. -/
inductive Aside (P : ServiceCall → Prop) : Program α → Prop
  | done (a) : Aside P (.done a)
  | fail (f) : Aside P (.fail f)
  | enter {next} (h : Aside P next) : Aside P (.enter .saving next)
  | leave {next} (h : Aside P next) : Aside P (.leave .saving next)
  | call {c next} (hc : P c) (h : ∀ r, Aside P (next r)) : Aside P (.call c next)
  | users {next} (h : ∀ us, Aside P (next us)) : Aside P (.users next)
  | upsert {us next} (h : ∀ n, Aside P (next n)) : Aside P (.upsert us next)
  | save {us next} (h : Aside P next) : Aside P (.save us next)
  | emit {e next} (h : Aside P next) : Aside P (.emit e next)

theorem Aside.bind {p : Program α} {k : α → Program β} (h : p.Aside P) (hk : ∀ a, (k a).Aside P) :
    (p >>= k).Aside P := by
  show (p.bind k).Aside P
  induction h with
  | done a => exact hk a
  | fail f => exact .fail f
  | enter _ ih => exact .enter ih
  | leave _ ih => exact .leave ih
  | call hc _ ih => exact .call hc ih
  | users _ ih => exact .users ih
  | upsert _ ih => exact .upsert ih
  | save _ ih => exact .save ih
  | emit _ ih => exact .emit ih

theorem bind_assoc {γ : Type} (p : Program α) (f : α → Program β) (g : β → Program γ) :
    (p.bind f).bind g = p.bind fun a => (f a).bind g := by
  induction p with
  | done a => rfl
  | fail e => rfl
  | userCanister next ih => exact congrArg Program.userCanister (funext ih)
  | setUserCanister c next ih => exact congrArg (Program.setUserCanister c) ih
  | enter gate next ih => exact congrArg (Program.enter gate) ih
  | leave gate next ih => exact congrArg (Program.leave gate) ih
  | call c next ih => exact congrArg (Program.call c) (funext ih)
  | users next ih => exact congrArg Program.users (funext ih)
  | upsert us next ih => exact congrArg (Program.upsert us) (funext ih)
  | save us next ih => exact congrArg (Program.save us) ih
  | emit e next ih => exact congrArg (Program.emit e) ih

end Program

namespace Operation

open Program

/-! ## Getting hold of the canister -/

def answerTo (α : Type) [w : Wire α] (method : String) (r : Except ServiceFailure Json) :
    Except Fault α :=
  match r with
  | .error e => .error e.toFault
  | .ok j =>
    match w.codec.ofValue j with
    | .ok a => .ok a
    | .error x => .error (.undecodable method x.message)

theorem ask_eq (α : Type) [Wire α] (canister method : String) (args : Json) :
    ask α canister method args =
      .call ⟨canister, method, args⟩ fun r => .done (answerTo α method r) := by
  unfold ask
  congr
  funext r
  unfold answerTo
  cases r with
  | error e => rfl
  | ok j =>
    dsimp only
    cases (Wire.codec : Codec α).ofValue j with
    | ok a => rfl
    | error x => rfl

def created? (r : Except ServiceFailure Json) : Option String :=
  match answerTo CurrentUser "current_user" r with
  | .ok (.created u) => some u.canisterId
  | _ => none

section
variable {α : Type} (config : AgentConfig) (after : String → Program α)

def whoAmI : ServiceCall := ⟨config.userIndexCanister, "current_user", args []⟩

def settle : Except Fault CurrentUser → Program α
  | .ok (.created u) => .setUserCanister u.canisterId (.leave .resolving (after u.canisterId))
  | .ok .unknown => .leave .resolving (.fail (ServiceFailure.missingCanister "user").toFault)
  | .error f => .leave .resolving (.fail f)

def inquire : Program α :=
  .call (whoAmI config) fun r => settle after (answerTo CurrentUser "current_user" r)

def recheck : Program α :=
  .userCanister fun
    | some c => .leave .resolving (after c)
    | none => inquire config after

/-- Looks for the canister, and queues up at the gate if there is none. -/
def seek : Program α :=
  .userCanister fun
    | some c => after c
    | none => .enter .resolving (recheck config after)

theorem lookUpUserCanister_bind : (lookUpUserCanister config).bind after = inquire config after := by
  unfold lookUpUserCanister askCurrentUser
  rw [ask_eq]
  refine congrArg (Program.call _) (funext fun r => ?_)
  show Program.bind _ after = settle after (answerTo CurrentUser "current_user" r)
  dsimp only
  generalize answerTo CurrentUser "current_user" r = x
  match x with
  | .ok (.created u) => rfl
  | .ok .unknown => rfl
  | .error f => rfl

theorem userCanister_bind : (userCanister config).bind after = seek config after := by
  refine congrArg Program.userCanister (funext fun c => ?_)
  cases c with
  | some c => rfl
  | none =>
    refine congrArg (Program.enter .resolving) (congrArg Program.userCanister (funext fun c => ?_))
    cases c with
    | some c => rfl
    | none => exact lookUpUserCanister_bind config after

theorem settle_of_created? {r : Except ServiceFailure Json} (h : created? r = none) :
    ∃ f, settle after (answerTo CurrentUser "current_user" r) = .leave .resolving (.fail f) := by
  unfold created? at h
  generalize answerTo CurrentUser "current_user" r = x at h
  match x with
  | .ok (.created u) => cases h
  | .ok .unknown => exact ⟨_, rfl⟩
  | .error f => exact ⟨f, rfl⟩

theorem settle_of_created {r : Except ServiceFailure Json} {c : String} (h : created? r = some c) :
    settle after (answerTo CurrentUser "current_user" r) =
      .setUserCanister c (.leave .resolving (after c)) := by
  unfold created? at h
  generalize answerTo CurrentUser "current_user" r = x at h
  match x with
  | .ok (.created u) => cases h; rfl
  | .ok .unknown => cases h
  | .error f => cases h

end

/-! ## The request for the current user -/

def introduce : Except Fault CurrentUser → Program Json
  | .ok (.created u) =>
    .setUserCanister u.canisterId (.done (Capability.getCurrentUser.responseCodec.toValue (.created u)))
  | .ok .unknown => .done (Capability.getCurrentUser.responseCodec.toValue .unknown)
  | .error f => .fail f

theorem getCurrentUser_bind (config : AgentConfig) : (getCurrentUser config).bind
      (fun y => .done (Capability.getCurrentUser.responseCodec.toValue y)) =
    .call (whoAmI config) fun r => introduce (answerTo CurrentUser "current_user" r) := by
  unfold getCurrentUser askCurrentUser
  rw [ask_eq]
  refine congrArg (Program.call _) (funext fun r => ?_)
  show Program.bind _ _ = introduce (answerTo CurrentUser "current_user" r)
  dsimp only
  generalize answerTo CurrentUser "current_user" r = x
  match x with
  | .ok (.created u) => rfl
  | .ok .unknown => rfl
  | .error f => rfl

theorem introduce_of_created? {P : ServiceCall → Prop} {r : Except ServiceFailure Json}
    (h : created? r = none) : (introduce (answerTo CurrentUser "current_user" r)).Aside P := by
  unfold created? at h
  generalize answerTo CurrentUser "current_user" r = x at h
  match x with
  | .ok (.created u) => cases h
  | .ok .unknown => exact .done _
  | .error f => exact .fail f

theorem introduce_of_created {r : Except ServiceFailure Json} {c : String} (h : created? r = some c) :
    ∃ v, introduce (answerTo CurrentUser "current_user" r) = .setUserCanister c (.done v) := by
  unfold created? at h
  generalize answerTo CurrentUser "current_user" r = x at h
  match x with
  | .ok (.created u) => cases h; exact ⟨_, rfl⟩
  | .ok .unknown => cases h
  | .error f => cases h

/-! ## All operations -/

def named? : (c : Capability) → c.Request → Option String
  | .getBio, id => id
  | _, _ => none

def direct? (c : Capability) (payload : Json) : Option String :=
  match c.requestCodec.ofValue payload with
  | .ok r => named? c r
  | .error _ => none

/-- A program that gets hold of the canister of the user first, and then goes on with it alone. -/
def Seeks {α : Type} (config : AgentConfig) (p : Program α) : Prop :=
  ∃ after : String → Program α, (∀ c, (after c).Aside (ServiceCall.Allowed (some c))) ∧
    p = seek config after

section
variable {α β : Type} {P : ServiceCall → Prop} {via : Option String} (config : AgentConfig)

theorem allowed_elsewhere (canister method : String) (args : Json)
    (h : ServiceCall.isOfUser ⟨canister, method, args⟩ = false)
    (ha : ServiceCall.asksUser ⟨canister, method, args⟩ = false) :
    ServiceCall.Allowed via ⟨canister, method, args⟩ := by
  refine ⟨ha, fun hu => ?_⟩
  rw [h] at hu
  cases hu

theorem aside_request [Wire α] {canister method : String} {args : Json}
    (hc : P ⟨canister, method, args⟩) : (request α canister method args).Aside P := by
  unfold request
  rw [ask_eq]
  refine .call hc fun r => ?_
  show (orFail (answerTo α method r)).Aside P
  cases answerTo α method r with
  | ok a => exact .done a
  | error f => exact .fail f

theorem aside_emitAll (es : List Event) : (emitAll es).Aside P := by
  induction es with
  | nil => exact .done _
  | cons e es ih => exact .emit ih

theorem aside_cacheUsers (users : List UserSummary) : (cacheUsers users).Aside P := by
  refine .upsert fun n => ?_
  cases n with
  | zero => exact .done _
  | succ n => exact .enter (.users fun _ => .save (.leave (.done _)))

theorem aside_fetchUsers (known : List UserSummary) (missing : List UserId) :
    (fetchUsers config known missing).Aside (ServiceCall.Allowed via) := by
  unfold fetchUsers
  split
  · exact .done _
  · have hcall : (request UsersAnswer config.userIndexCanister "users"
        (args [("userIds", Wire.write missing)])).Aside (ServiceCall.Allowed via) :=
      aside_request (allowed_elsewhere _ _ _ rfl rfl)
    refine hcall.bind fun fetched => (aside_cacheUsers _).bind fun _ => ?_
    split
    · exact (aside_emitAll _).bind fun _ => .done _
    · exact .done _

theorem aside_getUsers (q : UsersQuery) :
    (getUsers config q).Aside (ServiceCall.Allowed via) := by
  unfold getUsers
  split
  · exact .users fun _ => aside_fetchUsers config _ _
  · exact aside_fetchUsers config _ _

theorem seeks_ofUser [Wire α] {method : String} (members : List (String × Json))
    (h : (method == "current_user") = false) : Seeks config (ofUser config α method members) := by
  refine ⟨fun c => request α c method (args members), fun c => ?_, userCanister_bind config _⟩
  exact aside_request ⟨h, fun _ => rfl⟩

theorem Seeks.bind {p : Program α} {k : α → Program β} (h : Seeks config p)
    (hk : ∀ (a : α) (P : ServiceCall → Prop), (k a).Aside P) : Seeks config (p.bind k) := by
  obtain ⟨after, hafter, rfl⟩ := h
  refine ⟨fun c => (after c).bind k, fun c => (hafter c).bind fun a => hk a _, ?_⟩
  rw [← userCanister_bind, ← userCanister_bind, bind_assoc]

theorem serve_cases (c : Capability) (r : c.Request) : c = .getCurrentUser ∨
    (serve config c r).Aside (ServiceCall.Allowed (named? c r)) ∨
    named? c r = none ∧ Seeks config (serve config c r) := by
  have elsewhere {α : Type} [Wire α] {canister method : String} {args : Json} {via : Option String}
      (h : ServiceCall.isOfUser ⟨canister, method, args⟩ = false)
      (ha : ServiceCall.asksUser ⟨canister, method, args⟩ = false) :
      (request α canister method args).Aside (ServiceCall.Allowed via) :=
    aside_request (allowed_elsewhere _ _ _ h ha)
  cases c with
  | getCurrentUser => exact .inl rfl
  | getInitialState =>
    exact .inr (.inr ⟨rfl, (seeks_ofUser config _ rfl).bind config fun _ _ => .done _⟩)
  | getUpdates =>
    refine .inr (.inr ⟨rfl, (seeks_ofUser config _ rfl).bind config fun d P => ?_⟩)
    exact (aside_emitAll _).bind fun _ => .done _
  | getUsers => exact .inr (.inl (aside_getUsers config r))
  | getAllCachedUsers => exact .inr (.inl (.users fun us => .done us))
  | checkUsername => exact .inr (.inl (elsewhere rfl rfl))
  | setUsername => exact .inr (.inl (elsewhere rfl rfl))
  | getUserStorageLimits =>
    exact .inr (.inl ((elsewhere rfl rfl).bind fun _ => .emit (.done _)))
  | markAsOnline => exact .inr (.inl ((elsewhere rfl rfl).bind fun _ => .done _))
  | getBio =>
    cases r with
    | some id => exact .inr (.inl (aside_request ⟨rfl, fun _ => rfl⟩))
    | none => exact .inr (.inr ⟨rfl, seeks_ofUser config _ rfl⟩)
  | toggleMuteNotifications =>
    refine .inr (.inr ⟨rfl, seeks_ofUser config _ ?_⟩)
    split <;> rfl
  | _ => exact .inr (.inr ⟨rfl, seeks_ofUser config _ rfl⟩)

end

inductive Begins (config : AgentConfig) (c : Capability) (via : Option String) : Program Json → Prop
  | aside {p} (hp : p.Aside (ServiceCall.Allowed via)) : Begins config c via p
  | seeking {after : String → Program Json} (hk : c ≠ .getCurrentUser) (hv : via = none)
      (ha : ∀ u, (after u).Aside (ServiceCall.Allowed (some u))) :
      Begins config c via (seek config after)
  | naming (hk : c = .getCurrentUser) (hv : via = none) : Begins config c via
      (.call (whoAmI config) fun r => introduce (answerTo CurrentUser "current_user" r))

theorem begins_handle (config : AgentConfig) (c : Capability) (payload : Json) :
    Begins config c (direct? c payload) (handle config c payload) := by
  unfold handle direct?
  cases c.requestCodec.ofValue payload with
  | error x => exact .aside (.fail _)
  | ok r =>
    by_cases hk : c = .getCurrentUser
    · subst hk
      show Begins _ _ _ ((getCurrentUser config).bind fun y =>
        .done (Capability.getCurrentUser.responseCodec.toValue y))
      rw [getCurrentUser_bind]
      exact .naming rfl rfl
    · rcases serve_cases config c r with hc | hp | ⟨hv, hs⟩
      · exact absurd hc hk
      · exact .aside (hp.bind fun y => .done _)
      · obtain ⟨after, ha, heq⟩ := hs.bind config (k := fun y => .done (c.responseCodec.toValue y))
          fun y P => .done _
        show Begins _ _ _ ((serve config c r).bind fun y => .done (c.responseCodec.toValue y))
        rw [heq]
        exact .seeking hk hv ha

end Operation
end ChatBridge
