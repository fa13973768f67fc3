import ChatBridge.Proofs.Agent.Seeking
import ChatBridge.Proofs.Agent.Following

/-!
# What a program hears of the services

Along the way that a program takes it makes calls, and each of them is answered. Of the answers `f`
picks those that count. `Hears` says that a program calls only where none has counted yet, that it then
neither waits nor fails any more, and what its result has to do with what counted.
-/

namespace ChatBridge

namespace Program

variable {α β δ : Type}

def answer? : Program α → Told → Option (ServiceCall × Except ServiceFailure Json)
  | .call c _, .answer r => some (c, r)
  | _, _ => none

def heard (p : Program α) : List Told → List (ServiceCall × Except ServiceFailure Json)
  | [] => []
  | x :: xs => (p.answer? x).toList ++ ((p.next? x).map fun q => heard q xs).getD []

/-- The program stops here until somebody else goes on: at a gate, or at a call. -/
def Waits : Program α → Prop
  | .enter _ _ => True
  | .call _ _ => True
  | _ => False

/-- With `ds` heard so far, the program makes calls in `P` and ends with a result that `Q` admits. -/
inductive Hears (P : ServiceCall → Prop) (f : ServiceCall × Except ServiceFailure Json → Option δ)
    (Q : List δ → α → Prop) : List δ → Program α → Prop
  | done {ds a} (h : Q ds a) : Hears P f Q ds (.done a)
  | fail {e} : Hears P f Q [] (.fail e)
  | userCanister {ds next} (h : ∀ c, Hears P f Q ds (next c)) : Hears P f Q ds (.userCanister next)
  | setUserCanister {ds c next} (h : Hears P f Q ds next) : Hears P f Q ds (.setUserCanister c next)
  | enter {g next} (h : Hears P f Q [] next) : Hears P f Q [] (.enter g next)
  | leave {ds g next} (h : Hears P f Q ds next) : Hears P f Q ds (.leave g next)
  | call {c next} (hc : P c) (h : ∀ r, Hears P f Q (f (c, r)).toList (next r)) :
      Hears P f Q [] (.call c next)
  | emit {ds e next} (h : Hears P f Q ds next) : Hears P f Q ds (.emit e next)

variable {P : ServiceCall → Prop} {f : ServiceCall × Except ServiceFailure Json → Option δ}
  {Q : List δ → α → Prop} {R : List δ → β → Prop} {ds : List δ} {p q : Program α} {x : Told}
  {xs : List Told}

theorem Hears.bind {k : α → Program β} (h : p.Hears P f Q ds)
    (hk : ∀ ds a, Q ds a → (k a).Hears P f R ds) : (p >>= k).Hears P f R ds := by
  show (p.bind k).Hears P f R ds
  induction h with
  | done h => exact hk _ _ h
  | fail => exact .fail
  | userCanister _ ih => exact .userCanister ih
  | setUserCanister _ ih => exact .setUserCanister ih
  | enter _ ih => exact .enter ih
  | leave _ ih => exact .leave ih
  | call hc _ ih => exact .call hc ih
  | emit _ ih => exact .emit ih

theorem Hears.next? (h : p.Hears P f Q ds) (hx : p.next? x = some q) :
    q.Hears P f Q (ds ++ (p.answer? x).toList.filterMap f) := by
  -- all but an answer is no news
  have silent (hq : q.Hears P f Q ds) (hn : p.answer? x = none) :
      q.Hears P f Q (ds ++ (p.answer? x).toList.filterMap f) := by
    rw [hn]
    simpa using hq
  cases h with
  | done _ => cases x <;> cases hx
  | fail => cases x <;> cases hx
  | userCanister h =>
    cases x with
    | canister c => cases hx; exact silent (h c) rfl
    | _ => cases hx
  | setUserCanister h =>
    cases x with
    | nothing => cases hx; exact silent h rfl
    | _ => cases hx
  | enter h =>
    cases x with
    | nothing => cases hx; exact silent h rfl
    | _ => cases hx
  | leave h =>
    cases x with
    | nothing => cases hx; exact silent h rfl
    | _ => cases hx
  | @call c next _ h =>
    cases x with
    | answer r =>
      cases hx
      have hnews : [(c, r)].filterMap f = (f (c, r)).toList := by
        cases hf : f (c, r) <;> simp [hf]
      show (next r).Hears P f Q ([] ++ [(c, r)].filterMap f)
      rw [hnews]
      exact h r
    | _ => cases hx
  | emit h =>
    cases x with
    | nothing => cases hx; exact silent h rfl
    | _ => cases hx

theorem Hears.follow (h : p.Hears P f Q ds) (hx : p.follow xs = some q) :
    q.Hears P f Q (ds ++ (p.heard xs).filterMap f) := by
  induction xs generalizing p ds with
  | nil =>
    cases hx
    simpa [heard] using h
  | cons x xs ih =>
    obtain ⟨p', hp', hx⟩ := Option.bind_eq_some_iff.mp hx
    have hnext := ih (h.next? hp') hx
    rwa [heard, hp', Option.map_some, Option.getD_some, List.filterMap_append, ← List.append_assoc]

theorem Hears.of_done {a : α} (h : p.Hears P f Q []) (hx : p.follow xs = some (.done a)) :
    Q ((p.heard xs).filterMap f) a := by
  have h := h.follow hx
  rw [List.nil_append] at h
  generalize (p.heard xs).filterMap f = ds at h
  cases h with
  | done h => exact h

theorem Hears.of_fail {e : Fault} (h : p.Hears P f Q []) (hx : p.follow xs = some (.fail e)) :
    (p.heard xs).filterMap f = [] := by
  have h := h.follow hx
  rw [List.nil_append] at h
  generalize (p.heard xs).filterMap f = ds at h
  cases h
  rfl

theorem Hears.of_waits (h : p.Hears P f Q []) (hx : p.follow xs = some q) (hq : q.Waits) :
    (p.heard xs).filterMap f = [] ∧ ∀ c next, q = .call c next → P c := by
  have h := h.follow hx
  rw [List.nil_append] at h
  generalize (p.heard xs).filterMap f = ds at h
  cases h with
  | enter _ => exact ⟨rfl, nofun⟩
  | call hc _ => exact ⟨rfl, fun c next he => by cases he; exact hc⟩
  | _ => cases hq

end Program

namespace Operation

open Program

variable {α δ : Type} {P : ServiceCall → Prop} {Q : List δ → α → Prop}

def reading (δ : Type) [Wire δ] (method : String) (x : ServiceCall × Except ServiceFailure Json) :
    Option δ :=
  if x.1.method = method then (answerTo δ method x.2).toOption else none

theorem hears_request [Wire δ] {canister method : String} {args : Json}
    (hc : P ⟨canister, method, args⟩) : (request δ canister method args).Hears P (reading δ method)
      (fun ds d => ds = [d]) [] := by
  unfold request
  rw [ask_eq]
  refine .call hc fun r => ?_
  have hr : reading δ method (⟨canister, method, args⟩, r) = (answerTo δ method r).toOption :=
    if_pos rfl
  rw [hr]
  show (orFail (answerTo δ method r)).Hears P _ _ _
  cases answerTo δ method r with
  | ok d => exact .done rfl
  | error e => exact .fail

variable {config : AgentConfig}

theorem hears_seek {f : ServiceCall × Except ServiceFailure Json → Option δ}
    {after : String → Program α} (hc : P (whoAmI config)) (hf : ∀ r, f (whoAmI config, r) = none)
    (h : ∀ c, (after c).Hears P f Q []) : (seek config after).Hears P f Q [] := by
  refine .userCanister fun c => ?_
  cases c with
  | some c => exact h c
  | none =>
    refine .enter (.userCanister fun c => ?_)
    cases c with
    | some c => exact .leave (h c)
    | none =>
      refine .call hc fun r => ?_
      rw [hf]
      show (settle after (answerTo CurrentUser "current_user" r)).Hears P f Q []
      match answerTo CurrentUser "current_user" r with
      | .ok (.created u) => exact .setUserCanister (.leave (h _))
      | .ok .unknown => exact .leave .fail
      | .error e => exact .leave .fail

theorem hears_ofUser [Wire δ] {method : String} {members : List (String × Json)}
    (hm : method ≠ "current_user") (hc : ∀ c : ServiceCall, c.method = method →
      c.args = args members → P c) (hw : P (whoAmI config)) :
    (ofUser config δ method members).Hears P (reading δ method) (fun ds d => ds = [d]) [] := by
  show ((userCanister config).bind fun c => request δ c method (args members)).Hears P _ _ []
  rw [userCanister_bind]
  refine hears_seek hw (fun r => if_neg (Ne.symm hm)) fun c => hears_request (hc _ rfl rfl)

theorem hears_emitAll {f : ServiceCall × Except ServiceFailure Json → Option δ} {ds : List δ}
    (es : List Event) : (emitAll es).Hears P f (fun ds' _ => ds' = ds) ds := by
  induction es with
  | nil => exact .done rfl
  | cons e es ih => exact .emit ih

end Operation
end ChatBridge
