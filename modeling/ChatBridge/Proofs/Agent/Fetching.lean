import ChatBridge.Proofs.Agent.Reporting
import ChatBridge.Proofs.Agent.Restraint

/-!
# Fetching users

A request for users looks at the cache once, at most, and that settles whom it has to ask for. If there
is nobody it is done; otherwise it makes one call, and what it gives to the cache, reports and answers
with are the users of the answer to that.
-/

namespace ChatBridge

/-- What a program has done that others can notice: its calls, each with the answer, the users that it
has given to the cache, list by list, and its events. -/
structure Deeds where
  heard : List (ServiceCall × Except ServiceFailure Json)
  taken : List (List UserSummary)
  reported : List Event

namespace Deeds

def none : Deeds := ⟨[], [], []⟩

instance : Append Deeds :=
  ⟨fun d e => ⟨d.heard ++ e.heard, d.taken ++ e.taken, d.reported ++ e.reported⟩⟩

variable {d e f : Deeds}

theorem append_eq : d ++ e = ⟨d.heard ++ e.heard, d.taken ++ e.taken, d.reported ++ e.reported⟩ := rfl

@[simp] theorem none_append : none ++ d = d := rfl

@[simp] theorem append_none : d ++ none = d := by simp [append_eq, none]

theorem append_assoc : d ++ e ++ f = d ++ (e ++ f) := by simp [append_eq]

end Deeds

namespace Program

variable {α β : Type} {p q : Program α} {x : Told} {told : List Told} {d : Deeds}

def taken? : Program α → Option (List UserSummary)
  | .upsert us _ => some us
  | _ => none

def taken (p : Program α) : List Told → List (List UserSummary)
  | [] => []
  | x :: xs => ((p.next? x).map fun q => p.taken?.toList ++ q.taken xs).getD []

def deeds (p : Program α) (told : List Told) : Deeds :=
  ⟨p.heard told, p.taken told, p.reported told⟩

def deed (p : Program α) (x : Told) : Deeds :=
  ⟨(p.answer? x).toList, p.taken?.toList, p.event?.toList⟩

theorem deeds_cons (h : p.next? x = some q) : p.deeds (x :: told) = p.deed x ++ q.deeds told := by
  rw [deeds, heard_cons h, reported_cons h, taken, h]
  rfl

/-- With `d` done so far, the program makes calls that `C` admits and ends as `Q` admits, where both
judge by what has been done up to then. -/
inductive Does (C : Deeds → ServiceCall → Prop) (Q : Deeds → Except Fault α → Prop) :
    Deeds → Program α → Prop
  | done {d a} (h : Q d (.ok a)) : Does C Q d (.done a)
  | fail {d f} (h : Q d (.error f)) : Does C Q d (.fail f)
  | enter {d g next} (h : Does C Q d next) : Does C Q d (.enter g next)
  | leave {d g next} (h : Does C Q d next) : Does C Q d (.leave g next)
  | call {d c next} (hc : C d c) (h : ∀ r, Does C Q (d ++ ⟨[(c, r)], [], []⟩) (next r)) :
      Does C Q d (.call c next)
  | users {d next} (h : ∀ us, Does C Q d (next us)) : Does C Q d (.users next)
  | upsert {d us next} (h : ∀ n, Does C Q (d ++ ⟨[], [us], []⟩) (next n)) :
      Does C Q d (.upsert us next)
  | save {d us next} (h : Does C Q d next) : Does C Q d (.save us next)
  | emit {d e next} (h : Does C Q (d ++ ⟨[], [], [e]⟩) next) : Does C Q d (.emit e next)

variable {C : Deeds → ServiceCall → Prop} {Q : Deeds → Except Fault α → Prop}
  {R : Deeds → Except Fault β → Prop}

theorem Does.bind {k : α → Program β} (h : p.Does C Q d) (hk : ∀ d a, Q d (.ok a) → (k a).Does C R d)
    (hf : ∀ d f, Q d (.error f) → R d (.error f)) : (p >>= k).Does C R d := by
  show (p.bind k).Does C R d
  induction h with
  | done h => exact hk _ _ h
  | fail h => exact .fail (hf _ _ h)
  | enter _ ih => exact .enter ih
  | leave _ ih => exact .leave ih
  | call hc _ ih => exact .call hc ih
  | users _ ih => exact .users ih
  | upsert _ ih => exact .upsert ih
  | save _ ih => exact .save ih
  | emit _ ih => exact .emit ih

theorem Does.next? (h : p.Does C Q d) (hx : p.next? x = some q) : q.Does C Q (d ++ p.deed x) := by
  cases h with
  | done _ => cases x <;> cases hx
  | fail _ => cases x <;> cases hx
  | enter h => cases x <;> cases hx; exact (Deeds.append_none (d := d)).symm ▸ h
  | leave h => cases x <;> cases hx; exact (Deeds.append_none (d := d)).symm ▸ h
  | call _ h => cases x <;> cases hx; exact h _
  | users h => cases x <;> cases hx; exact (Deeds.append_none (d := d)).symm ▸ h _
  | upsert h => cases x <;> cases hx; exact h _
  | save h => cases x <;> cases hx; exact (Deeds.append_none (d := d)).symm ▸ h
  | emit h => cases x <;> cases hx; exact h

theorem Does.follow (h : p.Does C Q d) (hx : p.follow told = some q) :
    q.Does C Q (d ++ p.deeds told) := by
  induction told generalizing p d with
  | nil =>
    cases hx
    exact (Deeds.append_none (d := d)).symm ▸ h
  | cons x told ih =>
    obtain ⟨p', hp', hx⟩ := Option.bind_eq_some_iff.mp hx
    rw [deeds_cons hp', ← Deeds.append_assoc]
    exact ih (h.next? hp') hx

theorem Does.of_returns {r : Except Fault α} (h : p.Does C Q .none) (hr : p.Returns told r) :
    Q (p.deeds told) r := by
  cases r with
  | ok a =>
    cases h.follow hr with
    | done h => exact h
  | error f =>
    cases h.follow hr with
    | fail h => exact h

theorem Does.of_call {c : ServiceCall} {next : Except ServiceFailure Json → Program α}
    (h : p.Does C Q .none) (hx : p.follow told = some (.call c next)) : C (p.deeds told) c := by
  cases h.follow hx with
  | call hc _ => exact hc

theorem follow_bind {k : α → Program β} {a : α} {rest : List Told}
    (h : p.follow told = some (.done a)) : (p >>= k).follow (told ++ rest) = (k a).follow rest := by
  show (p.bind k).follow _ = _
  induction told generalizing p with
  | nil => cases h; rfl
  | cons x told ih =>
    obtain ⟨p', hp', h⟩ := Option.bind_eq_some_iff.mp h
    have hp : ∀ a, p ≠ .done a := by
      rintro a rfl
      cases x <;> cases hp'
    rw [List.cons_append, follow, (sameStep hp).next?, hp']
    exact ih h

end Program

/-- What a request asks for that finds the cache as it is told. -/
def UsersQuery.missing (q : UsersQuery) (us : UserLookup) : List UserId :=
  if q.allowStale then q.userIds.filter (!us.contains ·) else q.userIds

def UsersQuery.known (q : UsersQuery) (us : UserLookup) : List UserSummary :=
  if q.allowStale then q.userIds.filterMap us.get? else []

/-- Only where stale answers will do the cache is looked at. -/
def UsersQuery.looks (q : UsersQuery) (us : UserLookup) : List Told :=
  if q.allowStale then [.users us] else []

namespace Operation

open Program

def usersCall (config : AgentConfig) (ids : List UserId) : ServiceCall :=
  ⟨config.userIndexCanister, "users", args [("userIds", Wire.write ids)]⟩

/-- What a request for users has done when it ends: nothing if nobody is missing, and otherwise what
follows from the answer to its one call. -/
inductive Fetched (config : AgentConfig) (known : List UserSummary) (missing : List UserId) :
    Deeds → Except Fault UsersAnswer → Prop
  | cached (h : missing = []) : Fetched config known missing .none (.ok ⟨none, known⟩)
  | failed {x f} (h : missing ≠ []) (hx : answerTo UsersAnswer "users" x = .error f) :
      Fetched config known missing ⟨[(usersCall config missing, x)], [], []⟩ (.error f)
  | fetched {x a} (h : missing ≠ []) (hx : answerTo UsersAnswer "users" x = .ok a) :
      Fetched config known missing ⟨[(usersCall config missing, x)], [a.users],
        if a.users = [] then [] else [.usersLoaded a.users]⟩
        (.ok ⟨a.serverTimestamp, known ++ a.users⟩)

variable {α : Type} {C : Deeds → ServiceCall → Prop} {d : Deeds} {config : AgentConfig}
  {known : List UserSummary} {missing : List UserId} {q : UsersQuery} {told : List Told}

/-! ## The parts of a request -/

theorem does_request [Wire α] {canister method : String} {args : Json}
    (hc : C d ⟨canister, method, args⟩) : (request α canister method args).Does C (fun e r =>
      ∃ x, e = d ++ ⟨[(⟨canister, method, args⟩, x)], [], []⟩ ∧ answerTo α method x = r) d := by
  unfold request
  rw [ask_eq]
  refine .call hc fun x => ?_
  show (orFail (answerTo α method x)).Does C _ _
  cases hx : answerTo α method x with
  | ok a => exact .done ⟨x, rfl, hx⟩
  | error f => exact .fail ⟨x, rfl, hx⟩

theorem does_cacheUsers (users : List UserSummary) : (cacheUsers users).Does C
    (fun e r => e = d ++ ⟨[], [users], []⟩ ∧ r = .ok ()) d := by
  refine .upsert fun n => ?_
  cases n with
  | zero => exact .done ⟨rfl, rfl⟩
  | succ n => exact .enter (.users fun all => .save (.leave (.done ⟨rfl, rfl⟩)))

theorem does_fetchUsers : (fetchUsers config known missing).Does
    (fun d c => d = .none ∧ missing ≠ [] ∧ c = usersCall config missing)
    (Fetched config known missing) .none := by
  unfold fetchUsers
  split
  · rename_i h
    exact .done (.cached (List.isEmpty_iff.mp h))
  · rename_i h
    have hm : missing ≠ [] := fun he => h (List.isEmpty_iff.mpr he)
    refine (does_request ⟨rfl, hm, rfl⟩).bind (fun d a hd => ?_) ?_
    · obtain ⟨x, rfl, hx⟩ := hd
      refine (does_cacheUsers a.users).bind (fun d _ hd => ?_) fun _ _ hd => nomatch hd.2
      obtain ⟨rfl, _⟩ := hd
      have hend : Fetched config known missing _ _ := .fetched hm hx
      cases hu : a.users with
      | nil =>
        rw [hu] at hend
        exact .done hend
      | cons u us =>
        rw [hu, if_neg (List.cons_ne_nil u us)] at hend
        exact .emit (.done hend)
    · rintro d f ⟨x, rfl, hx⟩
      exact .failed hm hx

/-! ## The request -/

theorem getUsers_split {p : Program UsersAnswer} (h : (getUsers config q).follow told = some p)
    (hp : ∀ next, p ≠ .users next) : ∃ us rest, told = q.looks us ++ rest ∧
      (fetchUsers config (q.known us) (q.missing us)).follow rest = some p ∧
      (getUsers config q).deeds told =
        (fetchUsers config (q.known us) (q.missing us)).deeds rest := by
  unfold getUsers at h ⊢
  unfold UsersQuery.looks UsersQuery.known UsersQuery.missing
  by_cases hs : q.allowStale = true
  · simp only [if_pos hs] at h ⊢
    cases told with
    | nil =>
      cases h
      exact absurd rfl (hp _)
    | cons x rest =>
      obtain ⟨p', hp', h⟩ := Option.bind_eq_some_iff.mp h
      cases x with
      | users us =>
        cases hp'
        refine ⟨us, rest, rfl, h, ?_⟩
        rw [deeds_cons (q := fetchUsers config (q.userIds.filterMap us.get?)
          (q.userIds.filter (!us.contains ·))) rfl]
        exact Deeds.none_append
      | _ => cases hp'
  · simp only [if_neg hs] at h ⊢
    exact ⟨∅, told, rfl, h, rfl⟩

theorem fetched_of_getUsers {r : Except Fault UsersAnswer} (h : (getUsers config q).Returns told r) :
    ∃ us rest, told = q.looks us ++ rest ∧
      Fetched config (q.known us) (q.missing us) ((getUsers config q).deeds told) r := by
  have ended {p : Program UsersAnswer} (hp : (getUsers config q).follow told = some p)
      (hn : ∀ next, p ≠ .users next)
      (hr : ∀ us rest, (fetchUsers config (q.known us) (q.missing us)).follow rest = some p →
        (fetchUsers config (q.known us) (q.missing us)).Returns rest r) : ∃ us rest,
      told = q.looks us ++ rest ∧
      Fetched config (q.known us) (q.missing us) ((getUsers config q).deeds told) r := by
    obtain ⟨us, rest, htold, hrest, hdeeds⟩ := getUsers_split hp hn
    exact ⟨us, rest, htold, hdeeds ▸ does_fetchUsers.of_returns (hr us rest hrest)⟩
  cases r with
  | ok a => exact ended h nofun fun _ _ hr => hr
  | error f => exact ended h nofun fun _ _ hr => hr

theorem called_of_getUsers {c : ServiceCall} {next : Except ServiceFailure Json → Program UsersAnswer}
    (h : (getUsers config q).follow told = some (.call c next)) :
    (getUsers config q).deeds told = .none ∧ ∃ us rest, told = q.looks us ++ rest ∧
      q.missing us ≠ [] ∧ c = usersCall config (q.missing us) := by
  obtain ⟨us, rest, htold, hrest, hdeeds⟩ := getUsers_split h nofun
  obtain ⟨hnone, hm, hc⟩ := does_fetchUsers.of_call hrest
  exact ⟨hdeeds.trans hnone, us, rest, htold, hm, hc⟩

theorem called_of_handle {payload : Json} {c : ServiceCall}
    {next : Except ServiceFailure Json → Program Json}
    (hq : Capability.getUsers.requestCodec.ofValue payload = .ok q)
    (h : (handle config .getUsers payload).follow told = some (.call c next)) :
    ∃ us rest, told = q.looks us ++ rest ∧ c = usersCall config (q.missing us) := by
  unfold handle at h
  simp only [hq] at h
  obtain ⟨p, hp, hcall⟩ := Option.map_eq_some_iff.mp ((follow_map _).symm.trans h)
  cases p with
  | call c' next' =>
    cases hcall
    obtain ⟨_, us, rest, htold, _, hc⟩ := called_of_getUsers hp
    exact ⟨us, rest, htold, hc⟩
  | _ => cases hcall

/-- What may be told where the answer to a call is `x` and the cache finds `n` users changed. -/
def Supplied (x : Except ServiceFailure Json) (n : Nat) : Told → Prop
  | .answer y => y = x
  | .count m => m = n
  | _ => True

theorem exists_follow_cacheUsers (users : List UserSummary) (x : Except ServiceFailure Json)
    (n : Nat) : ∃ rest, (cacheUsers users).follow rest = some (.done ()) ∧
      ∀ e ∈ rest, Supplied x n e := by
  cases n with
  | zero => exact ⟨[.count 0], rfl, by simp [Supplied]⟩
  | succ n =>
    exact ⟨[.count (n + 1), .nothing, .users ∅, .nothing, .nothing], rfl, by simp [Supplied]⟩

variable (config known missing) in
theorem exists_returns_fetchUsers (x : Except ServiceFailure Json) (n : Nat) : ∃ rest r,
    (fetchUsers config known missing).Returns rest r ∧ ∀ e ∈ rest, Supplied x n e := by
  unfold fetchUsers
  split
  · exact ⟨[], .ok ⟨none, known⟩, rfl, List.forall_mem_nil _⟩
  · unfold request
    rw [ask_eq]
    cases hx : answerTo UsersAnswer "users" x with
    | error f =>
      refine ⟨[.answer x], .error f, ?_, by simp [Supplied]⟩
      show Program.follow (((orFail (answerTo UsersAnswer "users" x)).bind _)) [] = _
      rw [hx]
      rfl
    | ok a =>
      obtain ⟨rest, hrest, hsupplied⟩ := exists_follow_cacheUsers a.users x n
      refine ⟨.answer x :: (rest ++ if a.users.isEmpty then [] else [.nothing]),
        .ok ⟨a.serverTimestamp, known ++ a.users⟩, ?_, ?_⟩
      · show Program.follow (((orFail (answerTo UsersAnswer "users" x)).bind _)) _ = _
        rw [hx]
        refine (follow_bind hrest).trans ?_
        cases a.users.isEmpty <;> rfl
      · refine List.forall_mem_cons.mpr ⟨rfl, List.forall_mem_append.mpr ⟨hsupplied, ?_⟩⟩
        cases a.users.isEmpty <;> simp [Supplied]

theorem exists_returns_getUsers (us : UserLookup) (x : Except ServiceFailure Json) (n : Nat) :
    ∃ rest r, (getUsers config q).Returns (q.looks us ++ rest) r ∧
      (∀ y, .answer y ∈ rest → y = x) ∧ ∀ m, .count m ∈ rest → m = n := by
  obtain ⟨rest, r, hr, hsupplied⟩ :=
    exists_returns_fetchUsers config (q.known us) (q.missing us) x n
  refine ⟨rest, r, ?_, fun y hy => hsupplied _ hy, fun m hm => hsupplied _ hm⟩
  unfold getUsers UsersQuery.looks
  unfold UsersQuery.known UsersQuery.missing at hr
  by_cases hs : q.allowStale = true
  · simp only [if_pos hs] at hr ⊢
    cases r <;> exact hr
  · simp only [if_neg hs] at hr ⊢
    exact hr

end Operation
end ChatBridge
