import ChatBridge.Proofs.Agent.Following
import ChatBridge.Proofs.Agent.Seeking

/-!
# Programs that fail before they have done anything

An operation takes users into the cache, saves them and reports events only where nothing can go wrong
any more. Up to there it does no more than look for the canister of the user, wait for that at the gate,
read the cache and make its calls. So one that fails has left the users and the events alone, and if it
has set the canister, then to the one that it was told when it asked for it.
-/

namespace ChatBridge

namespace Program

variable {α β : Type} {p q : Program α} {x : Told} {told : List Told}

/-- Nothing that comes can fail or go down. -/
inductive Assured : Program α → Prop
  | done (a) : Assured (.done a)
  | userCanister {next} (h : ∀ c, Assured (next c)) : Assured (.userCanister next)
  | setUserCanister {c next} (h : Assured next) : Assured (.setUserCanister c next)
  | enter {g next} (h : Assured next) : Assured (.enter g next)
  | leave {g next} (h : Assured next) : Assured (.leave g next)
  | users {next} (h : ∀ us, Assured (next us)) : Assured (.users next)
  | upsert {us next} (h : ∀ n, Assured (next n)) : Assured (.upsert us next)
  | save {us next} (h : Assured next) : Assured (.save us next)
  | emit {e next} (h : Assured next) : Assured (.emit e next)

/-- Until `Q` holds of it, the program leaves the users, their gate and the events alone. -/
inductive Until (Q : Program α → Prop) : Program α → Prop
  | reached {p : Program α} (h : Q p) : Until Q p
  | fail (f) : Until Q (.fail f)
  | userCanister {next} (h : ∀ c, Until Q (next c)) : Until Q (.userCanister next)
  | setUserCanister {c next} (h : Until Q next) : Until Q (.setUserCanister c next)
  | enter {next} (h : Until Q next) : Until Q (.enter .resolving next)
  | leave {next} (h : Until Q next) : Until Q (.leave .resolving next)
  | call {c next} (h : ∀ r, Until Q (next r)) : Until Q (.call c next)
  | users {next} (h : ∀ us, Until Q (next us)) : Until Q (.users next)

def Mild : Program α → Prop
  | .enter .saving _ => False
  | .leave .saving _ => False
  | .upsert _ _ => False
  | .save _ _ => False
  | .emit _ _ => False
  | _ => True

def IsDone (p : Program α) : Prop := ∃ a, p = .done a

abbrev Restrained (p : Program α) : Prop := p.Until Assured

/-! ## Programs that cannot fail any more -/

theorem Assured.bind {k : α → Program β} (h : p.Assured) (hk : ∀ a, (k a).Assured) :
    (p.bind k).Assured := by
  induction h with
  | done a => exact hk a
  | userCanister _ ih => exact .userCanister ih
  | setUserCanister _ ih => exact .setUserCanister ih
  | enter _ ih => exact .enter ih
  | leave _ ih => exact .leave ih
  | users _ ih => exact .users ih
  | upsert _ ih => exact .upsert ih
  | save _ ih => exact .save ih
  | emit _ ih => exact .emit ih

theorem Assured.next? (h : p.Assured) (hx : p.next? x = some q) : q.Assured := by
  cases h <;> cases x <;> cases hx
  all_goals first | assumption | solve_by_elim

theorem Assured.follow (h : p.Assured) (hx : p.follow told = some q) : q.Assured := by
  induction told generalizing p with
  | nil => cases hx; exact h
  | cons x told ih =>
    obtain ⟨p', hp', hx⟩ := Option.bind_eq_some_iff.mp hx
    exact ih (h.next? hp') hx

theorem Assured.not_fail {f : Fault} : ¬ (Program.fail f : Program α).Assured := by
  rintro ⟨⟩

theorem Assured.not_call {c : ServiceCall} {next : Except ServiceFailure Json → Program α} :
    ¬ (Program.call c next).Assured := by
  rintro ⟨⟩

/-! ## Programs up to there -/

theorem Until.mono {Q R : Program α → Prop} (h : p.Until Q) (hR : ∀ p, Q p → R p) : p.Until R := by
  induction h with
  | reached h => exact .reached (hR _ h)
  | fail f => exact .fail f
  | userCanister _ ih => exact .userCanister ih
  | setUserCanister _ ih => exact .setUserCanister ih
  | enter _ ih => exact .enter ih
  | leave _ ih => exact .leave ih
  | call _ ih => exact .call ih
  | users _ ih => exact .users ih

theorem Until.andThen {Q : Program α → Prop} {R : Program β → Prop} {k : α → Program β} (h : p.Until Q)
    (hk : ∀ p, Q p → (p.bind k).Until R) : (p.bind k).Until R := by
  induction h with
  | reached h => exact hk _ h
  | fail f => exact .fail f
  | userCanister _ ih => exact .userCanister ih
  | setUserCanister _ ih => exact .setUserCanister ih
  | enter _ ih => exact .enter ih
  | leave _ ih => exact .leave ih
  | call _ ih => exact .call ih
  | users _ ih => exact .users ih

theorem Until.bind {R : Program β → Prop} {k : α → Program β} (h : p.Until IsDone)
    (hk : ∀ a, (k a).Until R) : (p.bind k).Until R := by
  refine h.andThen ?_
  rintro _ ⟨a, rfl⟩
  exact hk a

theorem Restrained.bind {k : α → Program β} (h : p.Restrained) (hk : ∀ a, (k a).Assured) :
    (p.bind k).Restrained := h.andThen fun _ hp => .reached (hp.bind hk)

theorem restrained_of_until (h : p.Until IsDone) : p.Restrained := by
  refine h.mono ?_
  rintro _ ⟨a, rfl⟩
  exact .done a

theorem until_done (a : α) : (Program.done a).Until IsDone := .reached ⟨a, rfl⟩

theorem Restrained.next? (h : p.Restrained) (hx : p.next? x = some q) : q.Restrained := by
  cases h with
  | reached h => exact .reached (h.next? hx)
  | _ =>
    cases x <;> cases hx
    all_goals first | assumption | solve_by_elim

theorem Restrained.follow (h : p.Restrained) (hx : p.follow told = some q) : q.Restrained := by
  induction told generalizing p with
  | nil => cases hx; exact h
  | cons x told ih =>
    obtain ⟨p', hp', hx⟩ := Option.bind_eq_some_iff.mp hx
    exact ih (h.next? hp') hx

theorem Restrained.mild (h : p.Restrained) (hn : ¬ p.Assured) : p.Mild := by
  cases h with
  | reached h => exact absurd h hn
  | _ => trivial

theorem Aside.next? {P : ServiceCall → Prop} (h : p.Aside P) (hx : p.next? x = some q) :
    q.Aside P := by
  cases h <;> cases x <;> cases hx
  all_goals first | assumption | solve_by_elim

theorem Aside.follow {P : ServiceCall → Prop} (h : p.Aside P) (hx : p.follow told = some q) :
    q.Aside P := by
  induction told generalizing p with
  | nil => cases hx; exact h
  | cons x told ih =>
    obtain ⟨p', hp', hx⟩ := Option.bind_eq_some_iff.mp hx
    exact ih (h.next? hp') hx

theorem Aside.not_sets {P : ServiceCall → Prop} {c : String} :
    ¬ (Program.setUserCanister c p).Aside P := by
  rintro ⟨⟩

end Program

namespace Operation

open Program

/-! ## All operations -/

theorem until_ask (α : Type) [Wire α] (canister method : String) (args : Json) :
    (ask α canister method args).Until IsDone := by
  rw [ask_eq]
  exact .call fun r => until_done _

theorem until_orFail {α : Type} (r : Except Fault α) : (orFail r).Until IsDone := by
  cases r with
  | ok a => exact until_done a
  | error f => exact .fail f

theorem until_request (α : Type) [Wire α] (canister method : String) (args : Json) :
    (request α canister method args).Until IsDone := (until_ask ..).bind until_orFail

variable (config : AgentConfig)

theorem until_lookUp : (lookUpUserCanister config).Until IsDone := by
  refine (until_ask CurrentUser _ _ _).bind fun r => ?_
  match r with
  | .ok (.created user) => exact .setUserCanister (.leave (until_done _))
  | .ok .unknown => exact .leave (.fail _)
  | .error f => exact .leave (.fail f)

theorem until_userCanister : (userCanister config).Until IsDone := by
  refine .userCanister fun c => ?_
  cases c with
  | some canister => exact until_done canister
  | none =>
    refine .enter (.userCanister fun c => ?_)
    cases c with
    | some canister => exact .leave (until_done canister)
    | none => exact until_lookUp config

theorem until_ofUser (α : Type) [Wire α] (method : String) (members : List (String × Json)) :
    (ofUser config α method members).Until IsDone :=
  (until_userCanister config).bind fun _ => until_request ..

theorem assured_emitAll (es : List Event) : (emitAll es).Assured := by
  induction es with
  | nil => exact .done _
  | cons e es ih => exact .emit ih

theorem assured_cacheUsers (users : List UserSummary) : (cacheUsers users).Assured := by
  refine .upsert fun n => ?_
  cases n with
  | zero => exact .done ()
  | succ n => exact .enter (.users fun _ => .save (.leave (.done ())))

theorem restrained_getCurrentUser : (getCurrentUser config).Restrained := by
  refine (until_ask CurrentUser _ _ _).bind fun r => (until_orFail r).bind fun user => ?_
  cases user with
  | created u => exact .reached (.setUserCanister (.done _))
  | unknown => exact .reached (.done _)

theorem restrained_fetchUsers (known : List UserSummary) (missing : List UserId) :
    (fetchUsers config known missing).Restrained := by
  unfold fetchUsers
  split
  · exact .reached (.done _)
  · refine (until_request ..).bind fun fetched => .reached ?_
    refine (assured_cacheUsers _).bind fun _ => ?_
    split
    · exact (assured_emitAll _).bind fun _ => .done _
    · exact .done _

theorem restrained_getUsers (q : UsersQuery) : (getUsers config q).Restrained := by
  unfold getUsers
  split
  · exact .users fun _ => restrained_fetchUsers ..
  · exact restrained_fetchUsers ..

theorem restrained_serve (c : Capability) (r : c.Request) : (serve config c r).Restrained := by
  have plain {α β : Type} {p : Program α} (h : p.Until IsDone) (k : α → β) :
      (p.bind fun a => .done (k a)).Restrained := h.bind fun _ => .reached (.done _)
  cases c with
  | getCurrentUser => exact restrained_getCurrentUser config
  | getInitialState => exact plain (until_ofUser ..) _
  | getUpdates =>
    refine (until_ofUser ..).bind fun _ => .reached ?_
    exact (assured_emitAll _).bind fun _ => .done _
  | getUsers => exact restrained_getUsers config r
  | getAllCachedUsers => exact .reached (.users fun us => .done us)
  | checkUsername => exact restrained_of_until (until_request ..)
  | setUsername => exact restrained_of_until (until_request ..)
  | getUserStorageLimits => exact (until_request ..).bind fun _ => .reached (.emit (.done _))
  | markAsOnline => exact plain (until_request ..) _
  | getBio =>
    cases r with
    | some id => exact restrained_of_until (until_request ..)
    | none => exact restrained_of_until (until_ofUser ..)
  | _ => exact restrained_of_until (until_ofUser ..)

theorem restrained_handle (c : Capability) (payload : Json) :
    (handle config c payload).Restrained := by
  unfold handle
  split
  · exact .fail _
  · exact (restrained_serve config c _).bind fun _ => .done _

/-! ## Who sets the canister -/

variable {config}

/-- An operation that sets the canister, and can still fail, has found none, has asked who the user is
and sets what it has been told. -/
theorem told_of_sets {c : Capability} {payload : Json} {told : List Told} {canister : String}
    {next : Program Json}
    (h : (handle config c payload).follow told = some (.setUserCanister canister next))
    (hn : ¬ (Program.setUserCanister canister next).Assured) :
    ∃ r next', told = [.canister none, .nothing, .canister none, .answer r] ∧
      created? r = some canister ∧
      (handle config c payload).follow [.canister none, .nothing, .canister none] =
        some (.call (whoAmI config) next') := by
  have hb := begins_handle config c payload
  generalize handle config c payload = p at h hb ⊢
  cases hb with
  | aside hp => exact absurd (hp.follow h) Aside.not_sets
  | naming _ _ =>
    match told, h with
    | .answer r :: told, h =>
      have h' : (introduce (answerTo CurrentUser "current_user" r)).follow told =
        some (.setUserCanister canister next) := h
      cases hc : created? r with
      | none => exact absurd ((introduce_of_created? (P := fun _ => True) hc).follow h') Aside.not_sets
      | some u =>
        obtain ⟨v, hv⟩ := introduce_of_created hc
        rw [hv] at h'
        have hdone : (Program.setUserCanister u (.done v)).Assured := .setUserCanister (.done v)
        exact absurd (hdone.follow h') hn
  | @seeking after _ _ ha =>
    match told, h with
    | .canister (some u) :: told, h => exact absurd ((ha u).follow h) Aside.not_sets
    | .canister none :: .nothing :: .canister (some u) :: .nothing :: told, h =>
      exact absurd ((ha u).follow h) Aside.not_sets
    | .canister none :: .nothing :: .canister none :: .answer r :: told, h =>
      have h' : (settle after (answerTo CurrentUser "current_user" r)).follow told =
        some (.setUserCanister canister next) := h
      cases hc : created? r with
      | none =>
        obtain ⟨f, hf⟩ := settle_of_created? after hc
        rw [hf] at h'
        match told, h' with
        | [.nothing], h' => cases h'
      | some u =>
        rw [settle_of_created after hc] at h'
        match told, h' with
        | [], h' => cases h'; exact ⟨r, _, rfl, hc, rfl⟩
        | .nothing :: .nothing :: told, h' => exact absurd ((ha u).follow h') Aside.not_sets

end Operation
end ChatBridge
