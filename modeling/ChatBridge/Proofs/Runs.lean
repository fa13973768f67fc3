/-!
# Runs

A run is the list of its steps. Statements about runs are proved along the list from its end, since a
step is judged by what came before it.
-/

namespace ChatBridge

structure Step (σ α : Type) where
  before : σ
  action : α
  after : σ

inductive Run {σ α : Type} (step? : σ → α → Option σ) (start : σ) : List (Step σ α) → σ → Prop
  | nil : Run step? start [] start
  | snoc {ss s a s'} : Run step? start ss s → step? s a = some s' →
      Run step? start (ss ++ [⟨s, a, s'⟩]) s'

theorem filterMap_snoc {β γ : Type} (f : β → Option γ) (l : List β) (b : β) :
    (l ++ [b]).filterMap f = l.filterMap f ++ (f b).toList := by
  rw [List.filterMap_append]
  cases h : f b with
  | none => rw [List.filterMap_cons_none h]; rfl
  | some c => rw [List.filterMap_cons_some h]; rfl

namespace Run

variable {σ α : Type} {step? : σ → α → Option σ} {start s : σ} {ss : List (Step σ α)}

theorem before_of_mem (run : Run step? start ss s) {x : Step σ α} (hx : x ∈ ss) :
    ∃ pre, Run step? start pre x.before ∧ step? x.before x.action = some x.after := by
  induction run with
  | nil => cases hx
  | snoc run hs ih =>
    rcases List.mem_append.mp hx with hx | hx
    · exact ih hx
    · cases List.mem_singleton.mp hx
      exact ⟨_, run, hs⟩

theorem before_of_split (run : Run step? start ss s) {pre post : List (Step σ α)} {x : Step σ α}
    (h : ss = pre ++ x :: post) :
    Run step? start pre x.before ∧ step? x.before x.action = some x.after := by
  induction run generalizing post with
  | nil => simp at h
  | @snoc ss s a s' run hs ih =>
    rcases List.eq_nil_or_concat post with rfl | ⟨post, y, rfl⟩
    · obtain ⟨rfl, hx⟩ := List.append_inj' h rfl
      cases hx
      exact ⟨run, hs⟩
    · rw [List.concat_eq_append, ← List.cons_append, ← List.append_assoc] at h
      exact ih (List.append_inj' h rfl).1

theorem after_of_split (run : Run step? start ss s) {pre post : List (Step σ α)} {x : Step σ α}
    (h : ss = pre ++ x :: post) : Run step? x.after post s := by
  induction run generalizing post with
  | nil => simp at h
  | @snoc ss s a s' run hs ih =>
    rcases List.eq_nil_or_concat post with rfl | ⟨post, y, rfl⟩
    · obtain ⟨_, hx⟩ := List.append_inj' h rfl
      cases hx
      exact .nil
    · rw [List.concat_eq_append, ← List.cons_append, ← List.append_assoc] at h
      obtain ⟨hsplit, hy⟩ := List.append_inj' h rfl
      cases hy
      rw [List.concat_eq_append]
      exact (ih hsplit).snoc hs

theorem single {a : α} {s' : σ} (h : step? start a = some s') : Run step? start [⟨start, a, s'⟩] s' :=
  Run.snoc .nil h

theorem append {tt : List (Step σ α)} {t : σ} (run : Run step? start ss s) (run' : Run step? s tt t) :
    Run step? start (ss ++ tt) t := by
  induction run' with
  | nil => rw [List.append_nil]; exact run
  | snoc _ h ih => rw [← List.append_assoc]; exact .snoc ih h

theorem keeps {P : σ → Prop} (h : ∀ {s a s'}, step? s a = some s' → P s → P s')
    (run : Run step? start ss s) (hp : P start) : P s := by
  induction run with
  | nil => exact hp
  | snoc _ hs ih => exact h hs ih

/-- The steps that the actions lead through, if all of them are possible. -/
def play (step? : σ → α → Option σ) (s : σ) : List α → Option (List (Step σ α) × σ)
  | [] => some ([], s)
  | a :: as => (step? s a).bind fun s' => (play step? s' as).map fun p => (⟨s, a, s'⟩ :: p.1, p.2)

theorem of_play (as : List α) (h : play step? start as = some (ss, s)) : Run step? start ss s := by
  induction as generalizing start ss with
  | nil => cases h; exact .nil
  | cons a as ih =>
    obtain ⟨t, ht, h⟩ := Option.bind_eq_some_iff.mp h
    obtain ⟨p, hp, heq⟩ := Option.map_eq_some_iff.mp h
    cases heq
    exact (single ht).append (ih hp)

end Run
end ChatBridge
