import ChatBridge.Agent.Operations

/-!
# Following a program

A program is a tree; which way it goes depends on what each of its steps is told. `Program.follow`
takes a program along what it has been told so far, and a program that ends there has returned.
-/

namespace ChatBridge

/-- What a program is told at one of its steps. -/
inductive Told where
  | nothing
  | canister (c : Option String)
  | answer (r : Except ServiceFailure Json)
  | users (us : UserLookup)
  | count (n : Nat)

namespace Program

variable {α β : Type}

def next? : Program α → Told → Option (Program α)
  | .userCanister next, .canister c => some (next c)
  | .setUserCanister _ next, .nothing => some next
  | .enter _ next, .nothing => some next
  | .leave _ next, .nothing => some next
  | .call _ next, .answer r => some (next r)
  | .users next, .users us => some (next us)
  | .upsert _ next, .count n => some (next n)
  | .save _ next, .nothing => some next
  | .emit _ next, .nothing => some next
  | _, _ => none

def follow (p : Program α) : List Told → Option (Program α)
  | [] => some p
  | x :: xs => (p.next? x).bind fun q => q.follow xs

def Returns (p : Program α) (told : List Told) : Except Fault α → Prop
  | .ok a => p.follow told = some (.done a)
  | .error f => p.follow told = some (.fail f)

variable {p q : Program α} {x : Told} {xs : List Told}

theorem follow_append (ys : List Told) :
    p.follow (xs ++ ys) = (p.follow xs).bind fun q => q.follow ys := by
  induction xs generalizing p with
  | nil => rfl
  | cons x xs ih =>
    rw [List.cons_append, follow, follow, Option.bind_assoc]
    exact Option.bind_congr fun q _ => ih

theorem eq_of_follow_fail {f : Fault} (h : (Program.fail f).follow xs = some p) : p = .fail f := by
  cases xs with
  | nil => cases h; rfl
  | cons x xs => cases h

/-! ## Mapping the result -/

theorem next?_map (g : α → β) : (p.bind fun a => .done (g a)).next? x =
    (p.next? x).map fun q => q.bind fun a => .done (g a) := by
  cases p <;> cases x <;> rfl

theorem follow_map (g : α → β) : (p.bind fun a => .done (g a)).follow xs =
    (p.follow xs).map fun q => q.bind fun a => .done (g a) := by
  induction xs generalizing p with
  | nil => rfl
  | cons x xs ih =>
    rw [follow, follow, next?_map]
    cases p.next? x with
    | none => rfl
    | some q => exact ih

theorem bind_eq_done (g : α → β) {b : β} (h : (p.bind fun a => .done (g a)) = .done b) :
    ∃ a, p = .done a ∧ g a = b := by
  cases p with
  | done a => cases h; exact ⟨a, rfl, rfl⟩
  | _ => cases h

theorem bind_eq_fail (g : α → β) {f : Fault} (h : (p.bind fun a => .done (g a)) = .fail f) :
    p = .fail f := by
  cases p with
  | fail e => cases h; rfl
  | _ => cases h

theorem returns_map (g : α → β) (r : Except Fault β) :
    (p.bind fun a => .done (g a)).Returns xs r ↔ ∃ r', p.Returns xs r' ∧ r = r'.map g := by
  constructor
  · intro h
    cases r with
    | ok b =>
      obtain ⟨q, hq, hb⟩ := Option.map_eq_some_iff.mp ((follow_map g).symm.trans h)
      obtain ⟨a, rfl, rfl⟩ := bind_eq_done g hb
      exact ⟨.ok a, hq, rfl⟩
    | error f =>
      obtain ⟨q, hq, hf⟩ := Option.map_eq_some_iff.mp ((follow_map g).symm.trans h)
      cases bind_eq_fail g hf
      exact ⟨.error f, hq, rfl⟩
  · rintro ⟨r', h, rfl⟩
    cases r' with
    | ok a => show follow _ _ = _; rw [follow_map, show p.follow xs = _ from h]; rfl
    | error f => show follow _ _ = _; rw [follow_map, show p.follow xs = _ from h]; rfl

theorem returns_unique {r r' : Except Fault α} (h : p.Returns xs r) (h' : p.Returns xs r') :
    r = r' := by
  cases r with
  | ok a =>
    cases r' with
    | ok b => cases h.symm.trans h'; rfl
    | error f => cases h.symm.trans h'
  | error f =>
    cases r' with
    | ok b => cases h.symm.trans h'
    | error e => cases h.symm.trans h'; rfl

end Program
end ChatBridge
